import StingerMqtt.Mock.Invariants

/-!
# After a failed receive

`simulate_receive` stores a retained message before it takes the table, and
sends to one row after the other. What it did up to the failure stays.
-/

namespace StingerMqtt

open Kit Mock

variable {B : Broadcast MqttMessage} {p : Profile} {w w' : MockWorld B}

/-- `w'` is `w` after `m` was stored, if it is retained, and a copy of it was
sent to each row of `served`. -/
structure PartlyReceived (w w' : MockWorld B) (m : MqttMessage) (served : List Subscription) :
    Prop where
  table : w'.table = w.table
  nextId : w'.nextId = w.nextId
  poisoned : w'.poisoned = w.poisoned
  retained : w'.retained = if m.retain then w.retained.insert m.topic m else w.retained
  /-- Only matching rows with a receiver are served, each once. -/
  addressed : served.Sublist (addressed w.table m)
  live : ∀ s ∈ served, w.channels.Live s.tx
  /-- Those that no failing row precedes are served. -/
  first : ∀ before s after, w.table = before ++ s :: after →
    topicMatches s.topic m.topic = true → w.channels.Live s.tx →
    (∀ d ∈ before, topicMatches d.topic m.topic = true → w.channels.Live d.tx) → s ∈ served
  took : w.channels.Took (served.map (copyFor m)) w'.channels

theorem retained_stored (w : MockWorld B) (m : MqttMessage) :
    (w.stored m).retained = if m.retain then w.retained.insert m.topic m else w.retained := by
  unfold MockWorld.stored
  split <;> rfl

/-- A receive fails at a matching row whose receivers are gone. The message
stays stored, and what was sent stays sent. -/
theorem failed_receive {clientId : String} (hreach : (mock B p clientId).Reachable w)
    {m : MqttMessage} {e : Mqtt5PubSubError}
    (h : simulateReceive m w = (.returned (.error e), w')) :
    (∃ s ∈ addressed w.table m, ¬ w.channels.Live s.tx) ∧
      ∃ served, PartlyReceived w w' m served := by
  have hw := (mock_sound hreach).locks
  cases hp : w.poisoned with
  | true =>
      rw [receive_panicked hw m hp] at h
      cases h
  | false =>
      obtain ⟨result, b, heq, htook, hok⟩ := receive_spec hw m hp
      rw [heq] at h
      cases h
      refine ⟨?_, reached w m, ?_⟩
      · by_contra hnone
        have hall : ∀ s ∈ addressed w.table m, w.channels.Live s.tx := by
          intro s hs
          by_contra hdead
          exact hnone ⟨s, hs, hdead⟩
        cases hok.mpr hall
      · constructor
        · exact table_stored m
        · exact nextId_stored m
        · exact poisoned_stored m
        · exact retained_stored w m
        · exact List.takeWhile_sublist _
        · intro s hs
          obtain ⟨-, -, -, -, hlive, -⟩ := mem_reached.mp hs
          exact hlive
        · intro before s after htable hmatch hlive hbefore
          exact mem_reached.mpr ⟨before, after, htable, hmatch, hlive, hbefore⟩
        · exact htook

/-- A client with two subscriptions to one topic; the receiver of the second
has been dropped. -/
def droppedSecond : MockWorld (.log MqttMessage) :=
  (execAll .debug (.new _ "mock-client")
    [.channel 4, .channel 4, .subscribe "a" .atMostOnce 0 (.stored _ _),
      .subscribe "a" .atMostOnce 1 (.stored _ _), .dropReceiver 1]).2

theorem droppedSecond_reachable :
    (mock (.log MqttMessage) .debug "mock-client").Reachable droppedSecond :=
  execAll_reachable .debug (by decide)

theorem failed_receive_droppedSecond :
    (∃ s ∈ addressed droppedSecond.table (.simple "a" .atMostOnce true [1]),
      ¬ droppedSecond.channels.Live s.tx) ∧
    ∃ served, PartlyReceived droppedSecond
      (simulateReceive (.simple "a" .atMostOnce true [1]) droppedSecond).2
      (.simple "a" .atMostOnce true [1]) served :=
  failed_receive droppedSecond_reachable (Prod.ext rfl rfl)

/-- The first subscriber has the message and it is stored, although the call
failed. -/
theorem failed_receive_leaves :
    ¬ ∀ w w' : MockWorld (.log MqttMessage), (mock _ .debug "mock-client").Reachable w →
      ∀ m e, simulateReceive m w = (.returned (.error e), w') →
        w'.retained = w.retained ∧ w'.table = w.table ∧
          ∀ c, w'.channels.sent c = w.channels.sent c := by
  intro hall
  obtain ⟨-, -, hsent⟩ := hall droppedSecond _ droppedSecond_reachable
    (.simple "a" .atMostOnce true [1]) _ (Prod.ext rfl rfl)
  exact absurd (hsent 0) (by decide)

end StingerMqtt

import StingerMqtt.Mock.Delivery

/-!
# Topics that start with `$`

The matcher of the mock client treats `$` as any other character, so a filter
that starts with a wildcard reaches such topics by both ways of delivery.
-/

namespace StingerMqtt

open Kit Mock

variable {B : Broadcast MqttMessage} {p : Profile} {w w' : MockWorld B}

/-- A subscription that starts with a wildcard is sent a message on a topic
`$t` exactly when its filter matches `t` and it is sent matching messages at
all: by a fan-out that gets to its row, or by its replay on a live channel. -/
theorem dollar_sends_iff {clientId : String} {e : Event}
    (hreach : (mock B p clientId).Reachable w) (hstep : (mock B p clientId).step w e w')
    {s : Subscription} {m : MqttMessage} {t : String} (hfirst : wildcardFirst s.topic)
    (ht : m.topic = "$" ++ t) :
    (∀ c, w'.channels.sent c =
      w.channels.sent c ++ Bank.onChannel c (copies (e.op.sends p w))) ∧
    ((s, m) ∈ e.op.sends p w ↔ topicMatches s.topic t = true ∧
      ((e.op = .simulateReceive m ∧ w.poisoned = false ∧ ∃ before after,
          w.table = before ++ s :: after ∧ w.channels.Live s.tx ∧
          ∀ d ∈ before, topicMatches d.topic m.topic = true → w.channels.Live d.tx) ∨
        ∃ qos iter, e = ⟨.subscribe s.topic qos s.tx iter, .returned (.subscribed (.ok s.subId))⟩ ∧
          w.retained.lookup m.topic = some m ∧ w.channels.Live s.tx)) := by
  have hw := mock_sound hreach
  obtain ⟨-, heffect⟩ := mock_step hw hstep
  refine ⟨heffect.sent hw, ?_⟩
  -- the leading `$` is swallowed by the wildcard, whatever it is
  have hmatch : topicMatches s.topic m.topic = topicMatches s.topic t :=
    topicMatches_cons hfirst (show '$' ≠ '/' by decide) (by rw [ht]; simp)
  rw [heffect.mem_sends hw, mem_reached, hmatch]
  constructor
  · rintro (⟨hop, hp, before, after, htable, hm, hlive, hbefore⟩ |
      ⟨qos, iter, hop, hout, hlive, hlookup, hm⟩)
    · exact ⟨hm, .inl ⟨hop, hp, before, after, htable, hlive, hbefore⟩⟩
    · obtain ⟨op, out⟩ := e
      cases hop
      cases hout
      exact ⟨hm, .inr ⟨qos, iter, rfl, hlookup, hlive⟩⟩
  · rintro ⟨hm, ⟨hop, hp, before, after, htable, hlive, hbefore⟩ |
      ⟨qos, iter, rfl, hlookup, hlive⟩⟩
    · exact .inl ⟨hop, hp, before, after, htable, hm, hlive, hbefore⟩
    · exact .inr ⟨qos, iter, rfl, rfl, hlive, hlookup, hm⟩

/-- A client with one subscription, to everything. -/
def subscribedAll : MockWorld (.log MqttMessage) :=
  (execAll .debug (.new _ "mock-client") [.channel 4, .subscribe "#" .atMostOnce 0 (.stored _ _)]).2

theorem subscribedAll_reachable :
    (mock (.log MqttMessage) .debug "mock-client").Reachable subscribedAll :=
  execAll_reachable .debug (by decide)

theorem dollar_sends_subscribedAll :
    let m := MqttMessage.simple "$SYS/x" .atMostOnce false [1]
    (⟨"#", 1, 0⟩, m) ∈ Op.sends .debug subscribedAll (.simulateReceive m) := by
  intro m
  let e : Event := ⟨.simulateReceive m, (Op.exec .debug (.simulateReceive m) subscribedAll).1⟩
  have hstep : (mock (.log MqttMessage) .debug "mock-client").step subscribedAll e
      (Op.exec .debug (.simulateReceive m) subscribedAll).2 := ⟨trivial, rfl⟩
  have hiff := (dollar_sends_iff subscribedAll_reachable hstep
    (show wildcardFirst (Subscription.topic ⟨"#", 1, 0⟩) by decide)
    (show m.topic = "$" ++ "SYS/x" by decide)).2
  exact hiff.mpr ⟨by decide, .inl ⟨rfl, rfl, [], [], rfl, by decide, by simp⟩⟩

/-- A message on `$SYS/x` does reach the subscription to `#`. -/
theorem dollar_reached :
    ¬ ∀ w, (mock (.log MqttMessage) .debug "mock-client").Reachable w →
      ∀ s ∈ w.table, wildcardFirst s.topic →
        ∀ m ∈ w.log s, m.topic.toList.head? ≠ some '$' := by
  intro hall
  let m := MqttMessage.simple "$SYS/x" .atMostOnce false [1]
  have hstep : (mock (.log MqttMessage) .debug "mock-client").step subscribedAll
      ⟨.simulateReceive m, (Op.exec .debug (.simulateReceive m) subscribedAll).1⟩
      (Op.exec .debug (.simulateReceive m) subscribedAll).2 := ⟨trivial, rfl⟩
  have hreach := subscribedAll_reachable.step hstep
  exact hall _ hreach ⟨"#", 1, 0⟩ (by decide) (by decide) (m.tagged 1) (by decide) (by decide)

end StingerMqtt

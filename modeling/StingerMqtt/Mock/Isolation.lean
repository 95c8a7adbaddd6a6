import StingerMqtt.Mock.Invariants

/-!
# Isolation of subscribers

`simulate_receive` leaves its loop at the first failed send, so a row whose
receivers are gone keeps the rows behind it from a message that matches them.
The replay of `subscribe` ignores failed sends. `isolated_iff` says in which
worlds every live subscriber still gets its copy.
-/

namespace StingerMqtt

open Kit Mock

variable {B : Broadcast MqttMessage} {p : Profile} {w : MockWorld B}

/-- A received message goes out once, with the row's own id, to every matching
row whose channel has a receiver, and nothing else does: so says each live
channel. -/
def Isolated (w : MockWorld B) (m : MqttMessage) : Prop :=
  ∀ c, w.channels.Live c →
    (simulateReceive m w).2.channels.sent c = w.channels.sent c ++
      ((addressed w.table m).filter fun s => s.tx = c).map fun s => m.tagged s.subId

/-- No subscribe has panicked, unless no matching row is live; and no matching
row whose receivers are gone stands before a matching row that is live. -/
def Unobstructed (w : MockWorld B) (m : MqttMessage) : Prop :=
  (∀ s ∈ addressed w.table m, w.channels.Live s.tx → w.poisoned = false) ∧
    (addressed w.table m).Pairwise fun s later =>
      w.channels.Live later.tx → w.channels.Live s.tx

theorem onChannel_copyFor (c : ChannelId) (m : MqttMessage) (rows : List Subscription) :
    Bank.onChannel c (rows.map (copyFor m)) =
      (rows.filter fun s => s.tx = c).map fun s => m.tagged s.subId := by
  unfold Bank.onChannel
  rw [List.filter_map, List.map_map]
  rfl

/-- What `simulate_receive` puts on a channel of a client that works. -/
theorem simulateReceive_sent (hw : w.Locks) (h : w.poisoned = false) (m : MqttMessage)
    (c : ChannelId) :
    (simulateReceive m w).2.channels.sent c = w.channels.sent c ++
      Bank.onChannel c (((addressed w.table m).map (copyFor m)).takeWhile fun job =>
        w.channels.Live job.1) := by
  obtain ⟨result, b, heq, htook, -⟩ := receive_spec hw m h
  rw [heq]
  show b.sent c = _
  rw [htook.sent, List.takeWhile_map]
  rfl

/-- A client on which a subscribe has panicked sends nothing. -/
theorem simulateReceive_panicked (hw : w.Locks) (h : w.poisoned = true) (m : MqttMessage) :
    (simulateReceive m w).2.channels = w.channels := by
  rw [receive_panicked hw m h, channels_stored]

theorem isolated_iff_of_healthy (hw : w.Locks) (h : w.poisoned = false) (m : MqttMessage) :
    Isolated w m ↔ (addressed w.table m).Pairwise fun s later =>
      w.channels.Live later.tx → w.channels.Live s.tx := by
  let jobs := (addressed w.table m).map (copyFor m)
  have horder : (jobs.Pairwise fun job later => w.channels.Live later.1 → w.channels.Live job.1) ↔
      (addressed w.table m).Pairwise fun s later =>
        w.channels.Live later.tx → w.channels.Live s.tx :=
    List.pairwise_map
  -- what each channel got is the jobs before the first dead one, against all jobs
  rw [← horder, ← Bank.onChannel_takeWhile_iff w.channels.Live jobs]
  unfold Isolated
  simp only [simulateReceive_sent hw h, ← onChannel_copyFor, List.append_cancel_left_eq]
  rfl

theorem isolated_iff_of_panicked (hw : w.Locks) (h : w.poisoned = true) (m : MqttMessage) :
    Isolated w m ↔ ∀ s ∈ addressed w.table m, ¬ w.channels.Live s.tx := by
  unfold Isolated
  simp only [simulateReceive_panicked hw h, List.self_eq_append_right, List.map_eq_nil_iff,
    List.filter_eq_nil_iff]
  constructor
  · intro hnone s hs hlive
    exact hnone s.tx hlive s hs (decide_eq_true rfl)
  · intro hdead c hc s hs heq
    obtain rfl : s.tx = c := of_decide_eq_true heq
    exact hdead s hs hc

/-- Nothing stands in the way of the fan-out: every live subscriber gets its
copy. -/
theorem isolated_of_unobstructed (hw : w.Locks) {m : MqttMessage} (h : Unobstructed w m) :
    Isolated w m := by
  cases hp : w.poisoned with
  | false => exact (isolated_iff_of_healthy hw hp m).mpr h.2
  | true =>
      rw [isolated_iff_of_panicked hw hp]
      intro s hs hlive
      exact absurd (hp.symm.trans (h.1 s hs hlive)) Bool.noConfusion

/-- Every live subscriber gets its copy exactly when none of them stands behind
a matching row whose receivers are gone. -/
theorem isolated_iff {clientId : String} (hreach : (mock B p clientId).Reachable w)
    (m : MqttMessage) : Isolated w m ↔ Unobstructed w m := by
  have hw := (mock_sound hreach).locks
  refine ⟨?_, isolated_of_unobstructed hw⟩
  intro h
  cases hp : w.poisoned with
  | false => exact ⟨fun _ _ _ => hp, (isolated_iff_of_healthy hw hp m).mp h⟩
  | true =>
      -- a poisoned client sends nothing, so it can only be isolated if nobody listens
      have hdead := (isolated_iff_of_panicked hw hp m).mp h
      exact ⟨fun s hs hlive => absurd hlive (hdead s hs),
        List.pairwise_of_forall_mem_list fun _ _ s hs hlive => absurd hlive (hdead s hs)⟩

/-- A client with two subscriptions to one topic; the receiver of the first
has been dropped. -/
def droppedFirst : MockWorld (.log MqttMessage) :=
  (execAll .debug (.new _ "mock-client")
    [.channel 4, .channel 4, .subscribe "a" .atMostOnce 0 (.stored _ _),
      .subscribe "a" .atMostOnce 1 (.stored _ _), .dropReceiver 0]).2

theorem droppedFirst_reachable :
    (mock (.log MqttMessage) .debug "mock-client").Reachable droppedFirst :=
  execAll_reachable .debug (by decide)

theorem isolated_iff_droppedFirst :
    Isolated droppedFirst (.simple "a" .atMostOnce false [1]) ↔
      Unobstructed droppedFirst (.simple "a" .atMostOnce false [1]) :=
  isolated_iff droppedFirst_reachable _

/-- The second subscriber, though it listens, does not get the message. -/
theorem not_isolated :
    ¬ ∀ w, (mock (.log MqttMessage) .debug "mock-client").Reachable w →
      ∀ m, Isolated w m := by
  intro hall
  have hsent := hall droppedFirst droppedFirst_reachable (.simple "a" .atMostOnce false [1]) 1
    (by decide)
  exact absurd hsent (by decide)

end StingerMqtt

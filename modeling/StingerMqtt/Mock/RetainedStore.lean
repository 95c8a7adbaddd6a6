import StingerMqtt.Mock.Delivery
import StingerMqtt.Mock.Isolation

/-!
# The retained store and empty messages

`simulate_receive` stores every message with the retain flag, whatever its
payload, so an empty message becomes the entry of its topic like any other:
it is replayed to new subscribers until `clear_retained_messages` or until
another retained message on the topic replaces it.
-/

namespace StingerMqtt

open Kit Mock

variable {B : Broadcast MqttMessage} {p : Profile} {w : MockWorld B}

/-- A subscribe whose filter matches a topic replays the entry of that topic,
once, and no other message on it. -/
theorem replayed_on_topic (hw : w.Sound) {topic filter : String}
    (hmatch : topicMatches filter topic = true) (iter : IterOrder String MqttMessage) :
    (replayed filter iter w.retained).filter (fun m => m.topic = topic) =
      (w.retained.lookup topic).toList := by
  have hmem : ∀ m, m ∈ (replayed filter iter w.retained).filter (fun m => m.topic = topic) ↔
      w.retained.lookup topic = some m := by
    intro m
    rw [List.mem_filter, mem_replayed, decide_eq_true_eq]
    constructor
    · rintro ⟨⟨key, hlookup, -⟩, rfl⟩
      rw [hw.keys key m hlookup]
      exact hlookup
    · intro hlookup
      exact ⟨⟨topic, hlookup, hmatch⟩, hw.keys topic m hlookup⟩
  -- the store has one entry a topic, so the list has no message twice
  have hnodup : ((replayed filter iter w.retained).filter fun m => m.topic = topic).Nodup :=
    ((replayed_topics_nodup hw filter iter).of_map _).filter _
  cases hlookup : w.retained.lookup topic with
  | none =>
      rw [Option.toList_none, List.eq_nil_iff_forall_not_mem]
      intro m hm
      rw [hmem, hlookup] at hm
      cases hm
  | some m =>
      refine List.perm_singleton.mp ((List.perm_ext_iff_of_nodup hnodup (by simp)).mpr ?_)
      intro m'
      rw [hmem, hlookup, Option.some_inj, eq_comm]
      exact List.mem_singleton.symm

/-- What a subscribe sends on a topic its filter matches. -/
theorem sends_on_topic (hw : w.Sound) {topic filter : String} {qos : QoS} {tx : ChannelId}
    {iter : IterOrder String MqttMessage} {id : UInt32} {w' : MockWorld B}
    (h : Effect p w (.subscribe filter qos tx iter) (.returned (.subscribed (.ok id))) w')
    (hlive : w.channels.Live tx) (hmatch : topicMatches filter topic = true) :
    (Op.sends p w (.subscribe filter qos tx iter)).filter (fun d => d.2.topic = topic) =
      (w.retained.lookup topic).toList.map fun m => (⟨filter, id, tx⟩, m) := by
  obtain ⟨rfl, -, hsends, -⟩ := subscribed_row h
  rw [hsends, ← replayed_on_topic hw hmatch iter]
  unfold replays
  rw [if_pos hlive, List.filter_map]
  rfl

/-- A retained message with an empty payload is stored like any other. As long
as the later retained messages on its topic are empty too: the entry of the
topic is the last of them, which a clear removes; a subscribe that matches puts
the entry on its channel and no other message on the topic; and the subscribers
at the time were sent the message once. -/
theorem empty_retained_kept {clientId : String} {pre post : List Event} {w w₁ w₂ : MockWorld B}
    {m : MqttMessage} {out : Outcome Reply}
    (hpre : (mock B p clientId).Trace pre w)
    (hretain : m.retain = true) (hempty : m.payload = [])
    (hstep : (mock B p clientId).step w ⟨.simulateReceive m, out⟩ w₁)
    (hpost : (mock B p clientId).Run w₁ post w₂)
    (hlater : ∀ e ∈ post, ∀ m', e.writes = some (m.topic, m') → m'.payload = []) :
    (∀ m', w₂.retained.lookup m.topic = some m' ↔
      LastRetained (pre ++ ⟨.simulateReceive m, out⟩ :: post) m.topic m') ∧
    (∀ m', w₂.retained.lookup m.topic = some m' → m'.payload = []) ∧
    ((∀ e ∈ post, e.clears = false) → ∃ m', w₂.retained.lookup m.topic = some m') ∧
    (∀ mid e after, post = mid ++ e :: after → e.clears = true →
      (∀ e' ∈ after, ∀ m', e'.writes ≠ some (m.topic, m')) →
      w₂.retained.lookup m.topic = none) ∧
    (∀ filter qos tx iter id w₃,
      (mock B p clientId).step w₂
        ⟨.subscribe filter qos tx iter, .returned (.subscribed (.ok id))⟩ w₃ →
      w₂.channels.Live tx → topicMatches filter m.topic = true →
      (∀ c, w₃.channels.sent c = w₂.channels.sent c ++
        Bank.onChannel c (copies (Op.sends p w₂ (.subscribe filter qos tx iter)))) ∧
      (Op.sends p w₂ (.subscribe filter qos tx iter)).filter (fun d => d.2.topic = m.topic) =
        (w₂.retained.lookup m.topic).toList.map fun m' => (⟨filter, id, tx⟩, m')) ∧
    (Unobstructed w m → Isolated w m) := by
  have htrace := hpre.append (TSys.Run.cons hstep hpost)
  have hlast := retained_iff htrace m.topic
  have hwrite : Event.writes ⟨.simulateReceive m, out⟩ = some (m.topic, m) := if_pos hretain
  refine ⟨hlast, fun m' hlookup => ?_, fun hkeep => ?_, ?_, ?_, ?_⟩
  · rcases lastWrite_after hwrite ((hlast m').mp hlookup) with rfl | ⟨e, he, hm'⟩
    · exact hempty
    · exact hlater e he m' hm'
  · have hsome : ∃ m', LastRetained (pre ++ ⟨.simulateReceive m, out⟩ :: post) m.topic m' :=
      exists_lastWrite hwrite hkeep
    obtain ⟨m', hm'⟩ := hsome
    exact ⟨m', (hlast m').mpr hm'⟩
  · rintro mid e after rfl hclear hkeep
    apply Option.eq_none_iff_forall_ne_some.mpr
    intro m' hlookup
    have hm' := (hlast m').mp hlookup
    rw [← List.cons_append, ← List.append_assoc] at hm'
    exact not_lastWrite_after_clear hclear (Event.writes_of_clears hclear) hkeep m' hm'
  · intro filter qos tx iter id w₃ hsub hlive hmatch
    have hw := mock_sound ⟨_, htrace⟩
    obtain ⟨-, heffect⟩ := mock_step hw hsub
    exact ⟨heffect.sent hw, sends_on_topic hw heffect hlive hmatch⟩
  · exact isolated_of_unobstructed (mock_sound ⟨pre, hpre⟩).locks

/-- After an empty retained message on `a` a publish, a second one and a retained
message on another topic: the store holds the second, and a subscribe to `+`
puts it on its channel. -/
theorem empty_retained_kept_run :
    let m := MqttMessage.simple "a" .atMostOnce true []
    let second := MqttMessage.simple "a" .atLeastOnce true []
    let before := execAll .debug (.new (.log MqttMessage) "mock-client") [.channel 4]
    let receive := Op.exec .debug (.simulateReceive m) before.2
    let after := execAll .debug receive.2
      [.publish (.simple "a" .atMostOnce false [1]), .simulateReceive second,
        .simulateReceive (.simple "b" .atMostOnce true [2])]
    let subscribe := Op.subscribe "+" .atMostOnce 0 (.stored _ _)
    let sub := subscribe.exec .debug after.2
    (∃ m', after.2.retained.lookup "a" = some m' ∧ m'.payload = []) ∧
      (∀ c, sub.2.channels.sent c = after.2.channels.sent c ++
        Bank.onChannel c (copies (subscribe.sends .debug after.2))) ∧
      (subscribe.sends .debug after.2).filter (fun d => d.2.topic = "a") =
        [(⟨"+", 1, 0⟩, second)] := by
  intro m second before receive after subscribe sub
  have hpre : (mock (.log MqttMessage) .debug "mock-client").Trace before.1 before.2 :=
    execAll_mock .debug (by decide)
  have hstep : (mock (.log MqttMessage) .debug "mock-client").step before.2
      ⟨.simulateReceive m, receive.1⟩ receive.2 := ⟨trivial, rfl⟩
  have hpost : (mock (.log MqttMessage) .debug "mock-client").Run receive.2 after.1 after.2 :=
    TSys.within_run (P := fun _ => True) (execAll_run .debug "mock-client" (by decide))
  have hsub : (mock (.log MqttMessage) .debug "mock-client").step after.2
      ⟨subscribe, .returned (.subscribed (.ok 1))⟩ sub.2 := ⟨by decide, rfl⟩
  have hlater : ∀ e ∈ after.1, ∀ m', e.writes = some ("a", m') → m'.payload = [] := by
    intro e he m' hm'
    have hall : ∀ e ∈ after.1, e.writes.all fun write =>
        write.1 ≠ "a" || write.2.payload = [] := by decide
    have hwrite := hall e he
    rw [hm'] at hwrite
    simpa using hwrite
  obtain ⟨-, hempty, hsome, -, hreplay, -⟩ :=
    empty_retained_kept hpre rfl rfl hstep hpost hlater
  obtain ⟨hsent, hsends⟩ := hreplay "+" .atMostOnce 0 _ 1 sub.2 hsub (by decide) (by decide)
  obtain ⟨m', hm'⟩ := hsome (by decide)
  exact ⟨⟨m', hm', hempty m' hm'⟩, hsent, hsends⟩

/-- An empty retained message does not clear its topic. -/
theorem empty_retained_not_cleared :
    ¬ ∀ w w' m out, (mock (.log MqttMessage) .debug "mock-client").Reachable w →
      (mock (.log MqttMessage) .debug "mock-client").step w ⟨.simulateReceive m, out⟩ w' →
      m.retain = true → m.payload = [] → w'.retained.lookup m.topic = none := by
  intro hall
  let m := MqttMessage.simple "a" .atMostOnce true []
  let w : MockWorld (.log MqttMessage) := .new _ "mock-client"
  have hnone := hall w (Op.exec .debug (.simulateReceive m) w).2 m
    (Op.exec .debug (.simulateReceive m) w).1 ⟨[], w, rfl, .nil⟩ ⟨trivial, rfl⟩ rfl rfl
  exact absurd hnone (by decide)

end StingerMqtt

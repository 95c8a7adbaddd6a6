import StingerMqtt.Mock.Delivery

/-!
# Subscribing on a new channel

A world that `Follows` another came out of it by calls that left the retained
store alone. A subscribe on a channel that was just created puts on it what it
replays and nothing else.
-/

namespace StingerMqtt

open Kit Mock MockWorld

variable {B : Broadcast MqttMessage} {p : Profile} {w : MockWorld B}

/-- `w'` comes after `w` by calls that drew `draws` ids and stored nothing. -/
structure Follows (w w' : MockWorld B) (draws : Nat) : Prop where
  sound : w'.Sound
  numbered : w'.Numbered
  retained : w'.retained = w.retained
  nextId : w'.nextId.toNat = w.nextId.toNat + draws

/-- A subscribe with room for one more id. -/
theorem subscribe_follows (hw : w.Sound) (hn : w.Numbered) (hroom : w.nextId.toNat + 1 < 2 ^ 32)
    {topic : String} {qos : QoS} {tx : ChannelId} {iter : IterOrder String MqttMessage}
    (htx : tx < w.channels.next) :
    ∃ w', subscribe p topic qos tx iter w = (.returned (.ok w.nextId), w') ∧ Follows w w' 1 ∧
      w.channels.Took (copies (replays w ⟨topic, w.nextId, tx⟩ iter)) w'.channels := by
  obtain ⟨hadd, -⟩ := addU32_eq p hroom
  obtain ⟨b, heq, htook⟩ := subscribe_eq hw.locks hn.healthy hadd topic qos tx iter
  have heffect : Effect p w (.subscribe topic qos tx iter) _ _ :=
    .subscribed hn.healthy hadd htook
  obtain ⟨hn', hnext⟩ := heffect.numbered hw hn (.inl hroom)
  exact ⟨_, heq, ⟨heffect.sound hw htx, hn', rfl, hnext⟩, htook⟩

/-- What a replay leaves on a live channel nothing was sent on. -/
theorem sent_replays {topic : String} {id : UInt32} {tx : ChannelId}
    {iter : IterOrder String MqttMessage} {b : Bank B} (hempty : w.channels.sent tx = [])
    (hlive : w.channels.Live tx)
    (htook : w.channels.Took (copies (replays w ⟨topic, id, tx⟩ iter)) b) :
    b.sent tx = (replayed topic iter w.retained).map fun m => m.tagged id := by
  rw [htook.sent, hempty, copies_replays, if_pos hlive, List.nil_append]
  unfold Bank.onChannel
  simp [List.filter_map, Function.comp_def]

/-- On a live channel nothing was sent on a subscribe leaves exactly what it
replays. -/
theorem subscribe_unused (hw : w.Sound) (hn : w.Numbered) (hroom : w.nextId.toNat + 1 < 2 ^ 32)
    {tx : ChannelId} (htx : tx < w.channels.next) (hempty : w.channels.sent tx = [])
    (hlive : w.channels.Live tx) (topic : String) (qos : QoS)
    (iter : IterOrder String MqttMessage) :
    ∃ w', subscribe p topic qos tx iter w = (.returned (.ok w.nextId), w') ∧ Follows w w' 1 ∧
      w'.channels.next = w.channels.next ∧
      w'.channels.sent tx = (replayed topic iter w.retained).map (fun m => m.tagged w.nextId) ∧
      B.capacity (w'.channels.get tx) = B.capacity (w.channels.get tx) := by
  obtain ⟨w', heq, hfollows, htook⟩ := subscribe_follows hw hn hroom htx
  exact ⟨w', heq, hfollows, htook.next, sent_replays hempty hlive htook, htook.capacity tx⟩

/-! ## Whatever the counter is -/

/-- A world with a new channel. -/
def opened (w : MockWorld B) (capacity : Nat) : MockWorld B :=
  w.setChannels (w.channels.channel capacity).2

theorem opened_sound (hw : w.Sound) (capacity : Nat) : (opened w capacity).Sound :=
  hw.rewired (Nat.le_succ _) (hw.sent_created capacity)

/-- A subscribe on a new channel that does not panic, wherever the counter is. -/
theorem subscribe_opened (hw : w.Sound) (h : w.poisoned = false) {nextId' : UInt32}
    (hadd : p.addU32 w.nextId 1 = some nextId') (capacity : Nat) (topic : String) (qos : QoS)
    (iter : IterOrder String MqttMessage) :
    ∃ b, subscribe p topic qos w.channels.next iter (opened w capacity) =
        (.returned (.ok w.nextId),
          (pushed (opened w capacity) topic w.channels.next nextId').setChannels b) ∧
      ((pushed (opened w capacity) topic w.channels.next nextId').setChannels b).Sound ∧
      b.next = w.channels.next + 1 ∧
      b.sent w.channels.next =
        (replayed topic iter w.retained).map (fun m => m.tagged w.nextId) ∧
      capacity ≤ B.capacity (b.get w.channels.next) ∧
      B.closed (b.get w.channels.next) = false := by
  have hsound := opened_sound hw capacity
  obtain ⟨hempty, hlive⟩ := Bank.channel_fresh w.channels capacity
  obtain ⟨b, heq, htook⟩ :=
    subscribe_eq hsound.locks h hadd topic qos w.channels.next iter
  have heffect : Effect p (opened w capacity) (.subscribe topic qos w.channels.next iter) _ _ :=
    .subscribed h hadd htook
  have hsent : b.sent w.channels.next =
      (replayed topic iter (opened w capacity).retained).map fun m => m.tagged w.nextId :=
    sent_replays hempty hlive htook
  obtain ⟨hcap, hopen⟩ := Bank.channel_open w.channels capacity
  refine ⟨b, heq, heffect.sound hsound (Nat.lt_succ_self _), htook.next, hsent, ?_, ?_⟩
  · rw [htook.capacity]
    exact hcap
  · rw [htook.closed]
    exact hopen

end StingerMqtt

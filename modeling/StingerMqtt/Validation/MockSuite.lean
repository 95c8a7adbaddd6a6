import StingerMqtt.Mock.FreshChannel
import StingerMqtt.Mock.RetainedStore
import StingerMqtt.Validation.Suite

/-!
# The validation suite on the mock client

The mock never hands a published message to its subscribers, so the last check
of the suite, which waits for the message it has published, gets one only if
the retained store replays one on its topic.
-/

namespace StingerMqtt

open Kit Mock MockWorld Validation

variable {B : Broadcast MqttMessage} {p : Profile} {iter : IterOrder String MqttMessage}
  {w w' w'' : MockWorld B}

/-- `w'` comes after `w` with the same retained store, this table and this
counter. -/
structure Kept (w w' : MockWorld B) (table : List Subscription) (nextId : UInt32) : Prop where
  sound : w'.Sound
  poisoned : w'.poisoned = w.poisoned
  retained : w'.retained = w.retained
  table : w'.table = table
  nextId : w'.nextId = nextId

theorem Kept.trans {table table' : List Subscription} {nextId nextId' : UInt32}
    (h : Kept w w' table nextId) (h' : Kept w' w'' table' nextId') :
    Kept w w'' table' nextId' where
  sound := h'.sound
  poisoned := h'.poisoned.trans h.poisoned
  retained := h'.retained.trans h.retained
  table := h'.table
  nextId := h'.nextId

/-- What comes after a world with the table and counter of `w`. -/
theorem Kept.after (h : Kept w w' w.table w.nextId) (h' : Kept w' w'' w'.table w'.nextId) :
    Kept w w'' w.table w.nextId where
  sound := h'.sound
  poisoned := h'.poisoned.trans h.poisoned
  retained := h'.retained.trans h.retained
  table := h'.table.trans h.table
  nextId := h'.nextId.trans h.nextId

/-! ## The checks that pass -/

theorem orFail_ok {C α : Type} {failure : String} {w w' : World C B} {value : α}
    {x : Act (World C B) (Except Mqtt5PubSubError α)} (h : x w = (.returned (.ok value), w')) :
    orFail failure x w = (.returned (.ok value), w') :=
  Act.mapError_ok h

theorem recordPublished_kept (hw : w.Sound) (success : MqttPublishSuccess) (m : MqttMessage) :
    ∃ w', recordPublished success m w = (.returned (.ok success), w') ∧
      Kept w w' w.table w.nextId :=
  ⟨_, recordPublished_eq hw.locks success m,
    ⟨hw.locks.setPublished _, hw.senders, hw.unused, hw.keys⟩, rfl, rfl, rfl, rfl⟩

theorem publishCheck_kept (hw : w.Sound) (topic : String) (qos : QoS) (payload failure : String) :
    ∃ w', publishCheck (pubSub p iter) topic qos payload failure w = (.returned (.ok ()), w') ∧
      Kept w w' w.table w.nextId := by
  obtain ⟨w', hpublish, hkept⟩ := recordPublished_kept hw (publishSuccess qos)
    (.simple topic qos false (Bytes.ofString payload))
  exact ⟨w', Act.try_ok (orFail_ok hpublish), hkept⟩

theorem testPublishNowait_kept (hw : w.Sound) :
    ∃ w', testPublishNowait (pubSub p iter) w = (.returned (.ok ()), w') ∧
      Kept w w' w.table w.nextId := by
  obtain ⟨w', hpublish, hkept⟩ := recordPublished_kept hw .queued
    (.simple "test/nowait" .atMostOnce false (Bytes.ofString "No-wait test message"))
  exact ⟨w', Act.try_ok (orFail_ok hpublish), hkept⟩

variable (iter) in
theorem testUnsubscribe_kept (hw : w.Sound) (h : w.poisoned = false) (topic : String) :
    ∃ w' : MockWorld B, testUnsubscribe (pubSub p iter) topic w = (.returned (.ok ()), w') ∧
      Kept w w' (w.table.filter fun s => s.topic ≠ topic) w.nextId :=
  ⟨_, orFail_ok (unsubscribe_eq topic h), hw.filtered _, rfl, rfl, rfl, rfl⟩

/-- A block answers what its body answers in the world with the new channel. -/
theorem withChannel_eq {α : Type} {capacity : Nat} {w' : MockWorld B}
    {body : ChannelId → B.Receiver → Check MockClient B α} {answer : Outcome (Except String α)}
    (hbody : body w.channels.next (B.channel capacity).2
      (w.setChannels (w.channels.channel capacity).2) = (answer, w')) :
    withChannel capacity body w =
      (answer, w'.setChannels (w'.channels.dropReceiver w.channels.next)) := by
  have hopen : withChannel capacity body w =
      (fun result : Outcome (Except String α) × MockWorld B =>
        (result.1, result.2.setChannels (result.2.channels.dropReceiver w.channels.next)))
      (body w.channels.next (B.channel capacity).2
        (w.setChannels (w.channels.channel capacity).2)) := rfl
  rw [hopen, hbody]

/-- What the check of the id answers. -/
def idAnswer (id : UInt32) : Except String UInt32 :=
  if id ≤ 0 then .error ("Invalid subscription ID returned: " ++ toString id) else .ok id

variable (iter) in
/-- The row of the check stays in the table, whatever the check answers. -/
theorem testSubscribe_kept (hw : w.Sound) (h : w.poisoned = false) {nextId' : UInt32}
    (hadd : p.addU32 w.nextId 1 = some nextId') :
    ∃ w' : MockWorld B, testSubscribe (pubSub p iter) w = (.returned (idAnswer w.nextId), w') ∧
      Kept w w' (w.table ++ [⟨"test/topic", w.nextId, w.channels.next⟩]) nextId' := by
  obtain ⟨b, hsub, hsound, hnext, -⟩ :=
    subscribe_opened hw h hadd 10 "test/topic" .atLeastOnce iter
  let w₁ := (pushed (opened w 10) "test/topic" w.channels.next nextId').setChannels b
  refine ⟨w₁.setChannels (w₁.channels.dropReceiver w.channels.next), withChannel_eq ?_, ?_⟩
  · refine (Act.try_ok (orFail_ok hsub)).trans ?_
    unfold idAnswer
    show (if w.nextId ≤ 0 then _ else _ : Check MockClient B UInt32) w₁ = _
    split <;> rfl
  · exact ⟨hsound.rewired (Nat.le_refl _) (Bank.sent_dropReceiver _ _), rfl, rfl, rfl, rfl⟩

/-! ## The check that waits for its message -/

/-- A literal filter replays the entry of its own topic and nothing else. -/
theorem replayed_literal (hw : w.Sound) {topic : String}
    (hlit : ∀ level ∈ levels topic, level ≠ "#" ∧ level ≠ "+") :
    replayed topic iter w.retained = (w.retained.lookup topic).toList := by
  have hself : topicMatches topic topic = true := (topicMatches_literal_iff hlit topic).mpr rfl
  rw [← replayed_on_topic hw hself iter]
  refine (List.filter_eq_self.mpr ?_).symm
  intro m hm
  obtain ⟨key, hlookup, hmatch⟩ := mem_replayed.mp hm
  rw [hw.keys key m hlookup]
  exact decide_eq_true ((topicMatches_literal_iff hlit key).mp hmatch)

/-- A first receive on a channel nothing was sent on, with a sender. -/
theorem recv_timeout {c : ChannelId} {capacity : Nat} (hsent : w.channels.sent c = [])
    (hopen : B.closed (w.channels.get c) = false) :
    recvWithTimeout c (B.channel capacity).2 w =
      (.returned (.error "Timeout waiting for message"), w) := by
  have hwait := B.recv_wait (w.channels.get c) (B.channel capacity).2 (by
    rw [B.position_channel]
    exact (congrArg List.length hsent).symm) hopen
  unfold recvWithTimeout
  rw [hwait]

/-- A first receive on a channel with one message. -/
theorem recv_message {c : ChannelId} {capacity : Nat} {m : MqttMessage}
    (hsent : w.channels.sent c = [m]) (hcap : 0 < B.capacity (w.channels.get c)) :
    recvWithTimeout c (B.channel capacity).2 w = (.returned (.ok m), w) := by
  have hsent : B.sent (w.channels.get c) = [m] := hsent
  have hpos := B.position_channel capacity
  -- the receiver is at the message and has not fallen behind
  obtain ⟨hmsg, -⟩ := B.recv_next (w.channels.get c) (B.channel capacity).2
    (by rw [hpos, hsent]; exact Nat.one_pos)
    (by rw [hpos, hsent, Nat.zero_add]; exact hcap)
  simp only [hsent, hpos] at hmsg
  unfold recvWithTimeout
  rw [hmsg]
  rfl

theorem checkReceived_passes (h : w.poisoned = false) {topic : String} {subId : UInt32}
    {received : MqttMessage} (hid : received.subscriptionId = some subId)
    (htopic : received.topic = topic) :
    checkReceived (pubSub p iter) topic subId received w =
      (.returned (.ok ()), w.setTable (w.table.filter fun s => s.topic ≠ topic)) := by
  unfold checkReceived
  rw [if_neg (not_not_intro hid), if_neg (not_not_intro htopic)]
  exact orFail_ok (unsubscribe_eq topic h)

/-- The answer of the last check. -/
def cycleAnswer : Option MqttMessage → Except String Unit
  | some _ => .ok ()
  | none => .error "Timeout waiting for message"

variable (iter) in
/-- The last check after its subscribe and its publish: its row is in the table,
and its channel holds what the subscribe replayed. -/
theorem receive_published (hw : w.Sound) (h : w.poisoned = false) {nextId' : UInt32}
    (hadd : p.addU32 w.nextId 1 = some nextId') :
    ∃ w' : MockWorld B,
      (∀ answer (w'' : MockWorld B),
        (recvWithTimeout w.channels.next (B.channel 10).2 >>=
          checkReceived (pubSub p iter) "test/subscribe" w.nextId) w' = (answer, w'') →
        testSubscribeReceiveUnsubscribe (pubSub p iter) w =
          (answer, w''.setChannels (w''.channels.dropReceiver w.channels.next))) ∧
      w'.poisoned = false ∧
      w'.table = w.table ++ [⟨"test/subscribe", w.nextId, w.channels.next⟩] ∧
      w'.channels.sent w.channels.next = (w.retained.lookup "test/subscribe").toList.map
        (fun m => m.tagged w.nextId) ∧
      0 < B.capacity (w'.channels.get w.channels.next) ∧
      B.closed (w'.channels.get w.channels.next) = false := by
  obtain ⟨b, hsub, hsound, -, hsent, hcap, hopen⟩ :=
    subscribe_opened hw h hadd 10 "test/subscribe" .atLeastOnce iter
  let message : MqttMessage :=
    .simple "test/subscribe" .atLeastOnce false (Bytes.ofString "Test subscription message")
  let w₁ := (pushed (opened w 10) "test/subscribe" w.channels.next nextId').setChannels b
  have hpublish := recordPublished_eq hsound.locks (publishSuccess .atLeastOnce) message
  rw [replayed_literal hw (by decide)] at hsent
  refine ⟨w₁.setPublished (w₁.client.publishedMessages.data ++ [message]), ?_, h, rfl, hsent,
    Nat.lt_of_lt_of_le (by decide) hcap, hopen⟩
  intro answer w'' hrest
  apply withChannel_eq
  exact (Act.try_ok (orFail_ok hsub)).trans ((Act.try_ok (orFail_ok hpublish)).trans hrest)

variable (iter) in
/-- Without a retained message the check times out and leaves its row. -/
theorem receive_times_out (hw : w.Sound) (h : w.poisoned = false) {nextId' : UInt32}
    (hadd : p.addU32 w.nextId 1 = some nextId')
    (hnone : w.retained.lookup "test/subscribe" = none) :
    ∃ w' : MockWorld B, testSubscribeReceiveUnsubscribe (pubSub p iter) w =
        (.returned (.error "Timeout waiting for message"), w') ∧
      w'.table = w.table ++ [⟨"test/subscribe", w.nextId, w.channels.next⟩] := by
  obtain ⟨w', hcheck, -, htable, hsent, -, hopen⟩ := receive_published iter hw h hadd
  rw [hnone] at hsent
  exact ⟨_, hcheck _ _ (Act.try_error (recv_timeout hsent hopen)), htable⟩

variable (iter) in
/-- With one it takes that message and unsubscribes. -/
theorem receive_replayed (hw : w.Sound) (h : w.poisoned = false) {nextId' : UInt32}
    (hadd : p.addU32 w.nextId 1 = some nextId') {m : MqttMessage}
    (hsome : w.retained.lookup "test/subscribe" = some m) :
    ∃ w' : MockWorld B, testSubscribeReceiveUnsubscribe (pubSub p iter) w =
        (.returned (.ok ()), w') ∧
      w'.table = w.table.filter fun s => s.topic ≠ "test/subscribe" := by
  obtain ⟨w', hcheck, hp, htable, hsent, hcap, -⟩ := receive_published iter hw h hadd
  rw [hsome] at hsent
  have hreceived : checkReceived (pubSub p iter) "test/subscribe" w.nextId (m.tagged w.nextId) w' =
      (.returned (.ok ()), w'.setTable (w'.table.filter fun s => s.topic ≠ "test/subscribe")) :=
    checkReceived_passes hp (MqttMessage.tagged_subscriptionId m w.nextId) (hw.keys _ m hsome)
  refine ⟨_, hcheck _ _ ((Act.try_ok (recv_message hsent hcap)).trans hreceived), ?_⟩
  show w'.table.filter _ = _
  rw [htable]
  simp

theorem testSubscribeReceiveUnsubscribe_eq (hw : w.Sound) (h : w.poisoned = false)
    {nextId' : UInt32} (hadd : p.addU32 w.nextId 1 = some nextId') :
    (testSubscribeReceiveUnsubscribe (pubSub p iter) w).1 =
      .returned (cycleAnswer (w.retained.lookup "test/subscribe")) := by
  cases hlookup : w.retained.lookup "test/subscribe" with
  | none =>
      obtain ⟨w', hcheck, -⟩ := receive_times_out iter hw h hadd hlookup
      rw [hcheck]
      rfl
  | some m =>
      obtain ⟨w', hcheck, -⟩ := receive_replayed iter hw h hadd hlookup
      rw [hcheck]
      rfl

/-! ## The whole suite -/

/-- The client id never changes. -/
theorem Effect.clientId {op : Op} {out : Outcome Reply} {w' : MockWorld B}
    (h : Effect p w op out w') : w'.client.clientId = w.client.clientId := by
  have hstored : ∀ m, (w.stored m).client.clientId = w.client.clientId := by
    intro m
    unfold MockWorld.stored
    split <;> rfl
  cases h with
  | receivePanicked => exact hstored _
  | received => exact hstored _
  | _ => rfl

theorem mock_clientId {clientId : String} (h : (mock B p clientId).Reachable w) :
    w.client.clientId = clientId := by
  let P : MockWorld B → Prop := fun w => w.Sound ∧ w.client.clientId = clientId
  have hP : (mock B p clientId).Inductive fun _ w => P w := by
    refine ⟨?_, ?_⟩
    · rintro w rfl
      exact ⟨.new clientId, rfl⟩
    · rintro _ w e w' ⟨hw, hid⟩ hstep
      obtain ⟨hvalid, heffect⟩ := mock_step hw hstep
      exact ⟨heffect.sound hw hvalid, heffect.clientId.trans hid⟩
  exact (hP.reachable h).2

variable (iter) in
/-- On a client with a name the suite comes to the check of the id. -/
theorem suite_publishes (hw : w.Sound) (hid : w.client.clientId ≠ "") :
    ∃ w' : MockWorld B, runFullPubsubValidationSuite (pubSub p iter) w =
        (testSubscribe (pubSub p iter) >>= fun _ =>
          testUnsubscribe (pubSub p iter) "test/topic" >>= fun _ =>
            testSubscribeReceiveUnsubscribe (pubSub p iter)) w' ∧
      Kept w w' w.table w.nextId := by
  have hname : testGetClientId (pubSub p iter) w = (.returned (.ok w.client.clientId), w) :=
    if_neg hid
  obtain ⟨w₁, hqos0, h₁⟩ := publishCheck_kept hw "test/qos0" .atMostOnce
    "QoS 0 test message" "Failed to publish QoS 0"
  obtain ⟨w₂, hqos1, h₂⟩ := publishCheck_kept h₁.sound "test/qos1" .atLeastOnce
    "QoS 1 test message" "Failed to publish QoS 1"
  obtain ⟨w₃, hqos2, h₃⟩ := publishCheck_kept h₂.sound "test/qos2" .exactlyOnce
    "QoS 2 test message" "Failed to publish QoS 2"
  obtain ⟨w₄, hnowait, h₄⟩ := testPublishNowait_kept h₃.sound
  refine ⟨w₄, ?_, ((h₁.after h₂).after h₃).after h₄⟩
  refine (Act.try_ok hname).trans ((Act.try_ok hqos0).trans ?_)
  refine (Act.try_ok hqos1).trans ((Act.try_ok hqos2).trans ?_)
  exact Act.try_ok hnowait

/-- What the suite answers on a client with a name and room for two more ids:
everything before the last check passes. -/
theorem suite_eq (hw : w.Sound) (hn : w.Numbered) (hroom : w.nextId.toNat + 2 < 2 ^ 32)
    (hid : w.client.clientId ≠ "") :
    (runFullPubsubValidationSuite (pubSub p iter) w).1 =
      .returned (cycleAnswer (w.retained.lookup "test/subscribe")) := by
  obtain ⟨hadd, hnext⟩ := addU32_eq p (show w.nextId.toNat + 1 < 2 ^ 32 by omega)
  obtain ⟨hadd', -⟩ := addU32_eq p (show (w.nextId + 1).toNat + 1 < 2 ^ 32 by omega)
  obtain ⟨w₁, hsuite, h₁⟩ := suite_publishes (p := p) iter hw hid
  have hp₁ : w₁.poisoned = false := h₁.poisoned.trans hn.healthy
  rw [← h₁.nextId] at hadd
  obtain ⟨w₂, hsub, h₂⟩ := testSubscribe_kept iter h₁.sound hp₁ hadd
  have hp₂ : w₂.poisoned = false := h₂.poisoned.trans hp₁
  obtain ⟨w₃, hunsub, h₃⟩ := testUnsubscribe_kept (p := p) iter h₂.sound hp₂ "test/topic"
  have hpos : ¬ w₁.nextId ≤ 0 := by
    rw [h₁.nextId, UInt32.not_le]
    exact UInt32.lt_of_lt_of_le (by decide) hn.positive
  rw [idAnswer, if_neg hpos] at hsub
  have hcycle : (testSubscribeReceiveUnsubscribe (pubSub p iter) w₃).1 = _ :=
    testSubscribeReceiveUnsubscribe_eq h₃.sound (h₃.poisoned.trans hp₂)
      (by rw [h₃.nextId, h₂.nextId, h₁.nextId]; exact hadd')
  -- none of them touched the retained store
  rw [h₃.retained, h₂.retained, h₁.retained] at hcycle
  rw [hsuite, Act.try_ok hsub, Act.try_ok hunsub]
  exact hcycle

/-- A mock client passes its own suite exactly when a retained message is
stored on the topic of the last check. -/
theorem suite_ok_iff {clientId : String} {tr : List Event}
    (htrace : (mock B p clientId).Trace tr w) (hid : clientId ≠ "")
    (hcount : subscribeCount tr < 2 ^ 32 - 3) :
    (runFullPubsubValidationSuite (pubSub p iter) w).1 = .returned (.ok ()) ↔
      ∃ m, w.retained.lookup "test/subscribe" = some m := by
  have hreach : (mock B p clientId).Reachable w := ⟨tr, htrace⟩
  obtain ⟨hn, hnext⟩ := mock_numbered htrace (by omega)
  rw [suite_eq (mock_sound hreach) hn (by omega) (by rw [mock_clientId hreach]; exact hid)]
  cases w.retained.lookup "test/subscribe" with
  | none => simp [cycleAnswer]
  | some m => simp [cycleAnswer]

/-- With a retained message on the topic the suite passes. -/
theorem suite_ok_run :
    let run := execAll .debug (.new (.log MqttMessage) "mock-client")
      [.simulateReceive (.simple "test/subscribe" .atMostOnce true [1])]
    (runFullPubsubValidationSuite (pubSub .debug (.stored _ _)) run.2).1 = .returned (.ok ()) := by
  intro run
  have htrace : (mock (.log MqttMessage) .debug "mock-client").Trace run.1 run.2 :=
    execAll_mock .debug (by decide)
  exact (suite_ok_iff htrace (by decide) (by decide)).mpr ⟨_, rfl⟩

/-- A new client fails the suite. -/
theorem suite_fails :
    ¬ ∀ tr w, (mock (.log MqttMessage) .debug "mock-client").Trace tr w →
      subscribeCount tr < 2 ^ 32 - 3 →
      (runFullPubsubValidationSuite (pubSub .debug (.stored _ _)) w).1 = .returned (.ok ()) := by
  intro hall
  have hnew := hall [] (.new _ "mock-client") ⟨_, rfl, .nil⟩ (by decide)
  rw [suite_eq (.new _) (.new _) (by decide) (by decide)] at hnew
  exact absurd hnew (by simp [cycleAnswer])

end StingerMqtt

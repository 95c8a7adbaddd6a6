import StingerMqtt.Validation.MockSuite

/-!
# What the receive check tells about a client

`test_subscribe_receive_unsubscribe` on any client, whose own tasks may go on
sending while the check waits. The check takes the first message on its channel
and looks at the subscription id and the topic of it. So what it takes need not
be what it published: the subscribe may have put a message there, and the
delivery one with another payload.
-/

namespace StingerMqtt

open Kit Validation

variable {C : Type} {B : Broadcast MqttMessage}

/-! ## Clients that only send -/

/-- The calls of a client send on channels: it is given senders, so it can take
back no message. Whether it keeps the senders is left open. -/
structure Mqtt5PubSub.OnlySends (client : Mqtt5PubSub C B) : Prop where
  subscribe : ∀ topic qos tx (w : World C B),
    w.channels.Grows (client.subscribe topic qos tx w).2.channels
  unsubscribe : ∀ topic (w : World C B), w.channels.Grows (client.unsubscribe topic w).2.channels
  publish : ∀ message (w : World C B), w.channels.Grows (client.publish message w).2.channels
  publishNoblock : ∀ message (w : World C B),
    w.channels.Grows (client.publishNoblock message w).2.channels
  publishNowait : ∀ message (w : World C B),
    w.channels.Grows (client.publishNowait message w).2.channels

/-- What the tasks of a client do while somebody waits for a message. What they
do during a call or right after it counts as part of the call. -/
structure Tasks (C : Type) (B : Broadcast MqttMessage) where
  run : World C B → World C B
  onlySends : ∀ w : World C B, w.channels.Grows (run w).channels

/-- A client without tasks. -/
def Tasks.none (C : Type) (B : Broadcast MqttMessage) : Tasks C B where
  run w := w
  onlySends w := .refl w.channels

namespace Validation

/-- `timeout(Duration::from_secs(5), rx.recv())` with a client whose tasks run
when the receiver has to wait. -/
def recvMeanwhile (tasks : Tasks C B) (tx : ChannelId) (rx : B.Receiver) :
    Check C B MqttMessage := fun w =>
  if (B.recv (w.channels.get tx) rx).1.isNone then recvWithTimeout tx rx (tasks.run w)
  else recvWithTimeout tx rx w

/-- The message the check publishes. -/
def checkMessage : MqttMessage :=
  .simple "test/subscribe" .atLeastOnce false (Bytes.ofString "Test subscription message")

/-- `test_subscribe_receive_unsubscribe` with a client that has tasks. -/
def receiveCheck (client : Mqtt5PubSub C B) (tasks : Tasks C B) : Check C B Unit :=
  withChannel 10 fun tx rx => do
    let topic := "test/subscribe"
    let subId ← orFail "Failed to subscribe" (client.subscribe topic .atLeastOnce tx)
    let _ ← orFail "Failed to publish" (client.publish checkMessage)
    let received ← recvMeanwhile tasks tx rx
    checkReceived client topic subId received

/-- Without tasks it is the check of the suite. -/
theorem receiveCheck_none (client : Mqtt5PubSub C B) :
    receiveCheck client (.none C B) = testSubscribeReceiveUnsubscribe client := by
  have hrecv : ∀ tx rx, recvMeanwhile (.none C B) tx rx = recvWithTimeout tx rx := by
    intro tx rx
    funext w
    unfold recvMeanwhile
    split <;> rfl
  unfold receiveCheck testSubscribeReceiveUnsubscribe
  simp only [hrecv]
  rfl

/-! ## A passing check -/

/-- The check up to its publish: the id it got, and the worlds after the
subscribe and after the publish. -/
structure Exchange (client : Mqtt5PubSub C B) (w : World C B) where
  subId : UInt32
  subscribed : World C B
  success : MqttPublishSuccess
  published : World C B
  subscribe_eq : client.subscribe "test/subscribe" .atLeastOnce w.channels.next
      { w with channels := (w.channels.channel 10).2 } = (.returned (.ok subId), subscribed)
  publish_eq : client.publish checkMessage subscribed = (.returned (.ok success), published)

variable {client : Mqtt5PubSub C B} {tasks : Tasks C B} {w : World C B}

/-- The receiver of the check. -/
abbrev checkReceiver (B : Broadcast MqttMessage) : B.Receiver := (B.channel 10).2

theorem position_checkReceiver (B : Broadcast MqttMessage) : B.position (checkReceiver B) = 0 :=
  B.position_channel 10

namespace Exchange

variable (x : Exchange client w)

/-- What the check's channel was sent until the publish. -/
def before : List MqttMessage := x.subscribed.channels.sent w.channels.next

/-- The world in which the check receives: the tasks run if it has to wait. -/
def waited (tasks : Tasks C B) : World C B :=
  if x.published.channels.sent w.channels.next = [] ∧
      B.closed (x.published.channels.get w.channels.next) = false then tasks.run x.published
  else x.published

/-- What the check's channel was sent until the check receives. -/
def sent (tasks : Tasks C B) : List MqttMessage := (x.waited tasks).channels.sent w.channels.next

/-- A message with the id the subscribe returned and the topic of the check. -/
def Addressed (m : MqttMessage) : Prop :=
  m.subscriptionId = some x.subId ∧ m.topic = "test/subscribe"

/-- The client puts no more messages on the channel than it has room for, and
its unsubscribe succeeds. -/
def Completes (tasks : Tasks C B) : Prop :=
  (x.sent tasks).length ≤ B.capacity ((x.waited tasks).channels.get w.channels.next) ∧
    (client.unsubscribe "test/subscribe" (x.waited tasks)).1 = .returned (.ok ())

/-- There is one exchange at most. -/
theorem unique (x y : Exchange client w) : x = y := by
  obtain ⟨subId, subscribed, success, published, hsub, hpub⟩ := x
  obtain ⟨subId', subscribed', success', published', hsub', hpub'⟩ := y
  cases hsub.symm.trans hsub'
  cases hpub.symm.trans hpub'
  rfl

/-- What the client does after the subscribe only adds to the channel. -/
theorem before_prefix (hclient : client.OnlySends) (tasks : Tasks C B) :
    x.before <+: x.sent tasks := by
  have hsubscribe : w.channels.next < x.subscribed.channels.next := by
    have hgrows := hclient.subscribe "test/subscribe" .atLeastOnce w.channels.next
      { w with channels := (w.channels.channel 10).2 }
    rw [x.subscribe_eq] at hgrows
    exact hgrows.next
  have hpublish := hclient.publish checkMessage x.subscribed
  rw [x.publish_eq] at hpublish
  have hwaited : x.published.channels.Grows (x.waited tasks).channels := by
    unfold Exchange.waited
    split
    · exact tasks.onlySends x.published
    · exact .refl _
  exact (hpublish.trans hwaited).sent w.channels.next hsubscribe

/-- So what the subscribe put there first stays first. -/
theorem head_before (hclient : client.OnlySends) (tasks : Tasks C B) {m : MqttMessage}
    (h : x.before.head? = some m) : (x.sent tasks).head? = some m := by
  obtain ⟨later, hsent⟩ := x.before_prefix hclient tasks
  rw [← hsent, List.head?_append, h]
  rfl

end Exchange

theorem recvWithTimeout_ok {tx : ChannelId} {rx : B.Receiver} {w w' : World C B}
    {m : MqttMessage} :
    recvWithTimeout tx rx w = (.returned (.ok m), w') ↔
      (B.recv (w.channels.get tx) rx).1 = some (.ok m) ∧ w' = w := by
  unfold recvWithTimeout
  generalize (B.recv (w.channels.get tx) rx).1 = got
  cases got with
  | none => simp
  | some answer =>
      cases answer with
      | error e => simp
      | ok received => simp [eq_comm]

/-- The receive of the check, from the world after its publish. -/
theorem recvMeanwhile_ok (hB : B.ReportsLag) (x : Exchange client w) {m : MqttMessage}
    {w' : World C B} :
    recvMeanwhile tasks w.channels.next (checkReceiver B) x.published =
        (.returned (.ok m), w') ↔
      (x.sent tasks).head? = some m ∧
        (x.sent tasks).length ≤ B.capacity ((x.waited tasks).channels.get w.channels.next) ∧
        w' = x.waited tasks := by
  have hpos := position_checkReceiver B
  have hwaits : recvMeanwhile tasks w.channels.next (checkReceiver B) x.published =
      recvWithTimeout w.channels.next (checkReceiver B) (x.waited tasks) := by
    have hnone : (B.recv (x.published.channels.get w.channels.next) (checkReceiver B)).1.isNone =
        true ↔ x.published.channels.sent w.channels.next = [] ∧
          B.closed (x.published.channels.get w.channels.next) = false :=
      Broadcast.recv_isNone hB hpos
    unfold recvMeanwhile Exchange.waited
    by_cases hwait : x.published.channels.sent w.channels.next = [] ∧
        B.closed (x.published.channels.get w.channels.next) = false
    · rw [if_pos (hnone.mpr hwait), if_pos hwait]
    · rw [if_neg fun h => hwait (hnone.mp h), if_neg hwait]
  rw [hwaits, recvWithTimeout_ok, Broadcast.recv_first hB hpos, and_assoc]
  rfl

/-- With an exchange the answer of the check is that of its receive and what comes
after it. -/
theorem receiveCheck_eq (x : Exchange client w) :
    (receiveCheck client tasks w).1 =
      ((recvMeanwhile tasks w.channels.next (checkReceiver B) >>= fun received =>
        checkReceived client "test/subscribe" x.subId received) x.published).1 := by
  refine (congrArg Prod.fst (Act.try_ok (orFail_ok x.subscribe_eq))).trans ?_
  exact congrArg Prod.fst (Act.try_ok (orFail_ok x.publish_eq))

/-- The end of the check. -/
theorem checkReceived_ok {topic : String} {subId : UInt32} {received : MqttMessage} :
    (checkReceived client topic subId received w).1 = .returned (.ok ()) ↔
      received.subscriptionId = some subId ∧ received.topic = topic ∧
        (client.unsubscribe topic w).1 = .returned (.ok ()) := by
  unfold checkReceived
  by_cases hid : received.subscriptionId = some subId
  · by_cases htopic : received.topic = topic
    · rw [if_neg (not_not_intro hid), if_neg (not_not_intro htopic)]
      constructor
      · intro h
        exact ⟨hid, htopic, congrArg Prod.fst (Act.mapError_inv (Prod.ext h rfl))⟩
      · rintro ⟨-, -, h⟩
        exact congrArg Prod.fst (orFail_ok (Prod.ext h rfl))
    · rw [if_neg (not_not_intro hid), if_pos htopic]
      constructor
      · intro h
        cases h
      · rintro ⟨-, h, -⟩
        exact absurd h htopic
  · rw [if_pos hid]
    constructor
    · intro h
      cases h
    · rintro ⟨h, -⟩
      exact absurd h hid

/-- The check succeeds exactly when the client completes an exchange and the first
message on the channel is addressed to the check. -/
theorem receiveCheck_ok_iff (hB : B.ReportsLag) :
    (receiveCheck client tasks w).1 = .returned (.ok ()) ↔
      ∃ (x : Exchange client w) (received : MqttMessage),
        x.Completes tasks ∧ (x.sent tasks).head? = some received ∧ x.Addressed received := by
  constructor
  · intro h
    obtain ⟨subId, subscribed, hsub, h⟩ := Act.try_inv h
    obtain ⟨success, published, hpub, h⟩ := Act.try_inv h
    obtain ⟨received, waited, hrecv, h⟩ := Act.try_inv h
    let x : Exchange client w :=
      ⟨subId, subscribed, success, published, Act.mapError_inv hsub, Act.mapError_inv hpub⟩
    obtain ⟨hhead, hcap, rfl⟩ := (recvMeanwhile_ok hB x).mp hrecv
    obtain ⟨hid, htopic, hunsubscribe⟩ := checkReceived_ok.mp h
    exact ⟨x, received, ⟨hcap, hunsubscribe⟩, hhead, hid, htopic⟩
  · rintro ⟨x, received, ⟨hcap, hunsubscribe⟩, hhead, hid, htopic⟩
    have hrecv := (recvMeanwhile_ok hB x).mpr ⟨hhead, hcap, rfl⟩
    rw [receiveCheck_eq x, Act.try_ok hrecv]
    exact checkReceived_ok.mpr ⟨hid, htopic, hunsubscribe⟩

/-- A client that sends nothing on the channel and drops every sender of it by the
publish fails the check at once. -/
theorem receiveCheck_closed (x : Exchange client w)
    (hempty : x.published.channels.sent w.channels.next = [])
    (hclosed : B.closed (x.published.channels.get w.channels.next) = true) :
    ∃ e, (receiveCheck client tasks w).1 =
      .returned (.error ("Failed to receive message: " ++ B.recvErrorText e)) := by
  have hpos := position_checkReceiver B
  obtain ⟨e, he⟩ := B.recv_closed (x.published.channels.get w.channels.next) (checkReceiver B)
    (by rw [hpos]; exact (congrArg List.length hempty).symm) hclosed
  have hrecv : recvMeanwhile tasks w.channels.next (checkReceiver B) x.published =
      (.returned (.error ("Failed to receive message: " ++ B.recvErrorText e)), x.published) := by
    unfold recvMeanwhile recvWithTimeout
    rw [he]
    rfl
  refine ⟨e, ?_⟩
  rw [receiveCheck_eq x, Act.try_error hrecv]

/-- A client that drops the sender it is given. -/
example :
    let client : Mqtt5PubSub MockClient (.log MqttMessage) :=
      { Mock.pubSub .debug (.stored _ _) with
        subscribe := fun _ _ tx w =>
          (.returned (.ok 1), { w with channels := w.channels.dropSenders tx }) }
    (receiveCheck client (.none _ _) (MockWorld.new _ "mock-client")).1 =
      .returned (.error "Failed to receive message: channel closed") := by
  decide

/-! ## Soundness of the check -/

/-- If the check succeeds, the message it took, the one at the position of its
receiver, was sent after the publish, with the topic and the payload that were
published. -/
def ReceiveSound (client : Mqtt5PubSub C B) (tasks : Tasks C B) (w : World C B) : Prop :=
  (receiveCheck client tasks w).1 = .returned (.ok ()) →
    ∃ (x : Exchange client w) (received : MqttMessage),
      (B.recv ((x.waited tasks).channels.get w.channels.next) (checkReceiver B)).1 =
        some (.ok received) ∧
      x.before.length ≤ B.position (checkReceiver B) ∧
      (x.sent tasks)[B.position (checkReceiver B)]? = some received ∧
      received.topic = checkMessage.topic ∧ received.payload = checkMessage.payload

/-- What a client may do with the check's channel in an exchange that it completes.
The subscribe puts nothing there first that is addressed to the check, such as
a retained message. If the subscribe puts nothing there, what is delivered
first has the published payload if it is addressed to the check. -/
def OwnFirst (client : Mqtt5PubSub C B) (tasks : Tasks C B) (w : World C B) : Prop :=
  ∀ x : Exchange client w, x.Completes tasks →
    (∀ m, x.before.head? = some m → ¬ x.Addressed m) ∧
    (x.before = [] → ∀ m, (x.sent tasks).head? = some m → x.Addressed m →
      m.payload = checkMessage.payload)

/-- Neither a publish nor the tasks after it put the published message on a
channel. -/
def NeverDelivers (client : Mqtt5PubSub C B) (tasks : Tasks C B) : Prop :=
  ∀ (message : MqttMessage) (w w' : World C B),
    w' = (client.publish message w).2 ∨ w' = tasks.run (client.publish message w).2 →
    ∀ c, ∀ m ∈ (w'.channels.sent c).drop (w.channels.sent c).length,
      m.topic ≠ message.topic ∨ m.payload ≠ message.payload

theorem receiveSound_of_ownFirst (hB : B.ReportsLag) (hclient : client.OnlySends)
    (h : OwnFirst client tasks w) : ReceiveSound client tasks w := by
  have hpos := position_checkReceiver B
  intro hpassed
  obtain ⟨x, received, hcompletes, hhead, haddressed⟩ := (receiveCheck_ok_iff hB).mp hpassed
  obtain ⟨hsubscribe, hdelivery⟩ := h x hcompletes
  have hbefore : x.before = [] := by
    cases hfirst : x.before.head? with
    | none => exact List.head?_eq_none_iff.mp hfirst
    | some m =>
        obtain rfl := Option.some.inj (hhead.symm.trans (x.head_before hclient tasks hfirst))
        exact absurd haddressed (hsubscribe received hfirst)
  refine ⟨x, received, (Broadcast.recv_first hB hpos).mpr ⟨hhead, hcompletes.1⟩, ?_, ?_,
    haddressed.2, hdelivery hbefore received hhead haddressed⟩
  · rw [hbefore]
    exact Nat.zero_le _
  · rw [hpos, ← List.head?_eq_getElem?]
    exact hhead

theorem ownFirst_of_receiveSound (hB : B.ReportsLag) (hclient : client.OnlySends)
    (h : ReceiveSound client tasks w) : OwnFirst client tasks w := by
  have hpos := position_checkReceiver B
  intro x hcompletes
  -- whatever is first and addressed to the check is what the check takes
  have htaken : ∀ m, (x.sent tasks).head? = some m → x.Addressed m →
      x.before = [] ∧ m.payload = checkMessage.payload := by
    intro m hhead haddressed
    obtain ⟨y, received, -, hbefore, hat, -, hpayload⟩ :=
      h ((receiveCheck_ok_iff hB).mpr ⟨x, m, hcompletes, hhead, haddressed⟩)
    obtain rfl := x.unique y
    rw [hpos] at hbefore hat
    rw [List.head?_eq_getElem?, hat] at hhead
    obtain rfl := Option.some.inj hhead
    exact ⟨List.eq_nil_of_length_eq_zero (Nat.le_zero.mp hbefore), hpayload⟩
  refine ⟨?_, ?_⟩
  · intro m hfirst haddressed
    obtain ⟨hnone, -⟩ := htaken m (x.head_before hclient tasks hfirst) haddressed
    rw [hnone] at hfirst
    cases hfirst
  · intro _ m hhead haddressed
    exact (htaken m hhead haddressed).2

/-- A client that never delivers what it publishes fails the check if the check is
sound on it. -/
theorem NeverDelivers.fails (hnever : NeverDelivers client tasks)
    (h : ReceiveSound client tasks w) : (receiveCheck client tasks w).1 ≠ .returned (.ok ()) := by
  have hpos := position_checkReceiver B
  intro hpassed
  obtain ⟨x, received, -, hbefore, hat, htopic, hpayload⟩ := h hpassed
  rw [hpos] at hbefore hat
  have hnone : x.subscribed.channels.sent w.channels.next = [] :=
    List.eq_nil_of_length_eq_zero (Nat.le_zero.mp hbefore)
  -- so the message came after the publish, which the client never brings about
  have hmem : received ∈ ((x.waited tasks).channels.sent w.channels.next).drop
      (x.subscribed.channels.sent w.channels.next).length := by
    rw [hnone]
    exact List.mem_of_getElem? hat
  have hpublished : x.published = (client.publish checkMessage x.subscribed).2 := by
    rw [x.publish_eq]
  have hwaited : x.waited tasks = (client.publish checkMessage x.subscribed).2 ∨
      x.waited tasks = tasks.run (client.publish checkMessage x.subscribed).2 := by
    unfold Exchange.waited
    rw [← hpublished]
    split
    · exact .inr rfl
    · exact .inl rfl
  rcases hnever checkMessage x.subscribed _ hwaited _ received hmem with hother | hother
  · exact hother htopic
  · exact hother hpayload

/-- On a client that only sends the check is sound exactly if the client keeps to
`OwnFirst`; and a client that never delivers what it publishes fails the check
exactly if it does. -/
theorem receiveSound_iff (hB : B.ReportsLag) {client : Mqtt5PubSub C B}
    (hclient : client.OnlySends) (tasks : Tasks C B) (w : World C B) :
    (ReceiveSound client tasks w ↔ OwnFirst client tasks w) ∧
    (NeverDelivers client tasks →
      ((receiveCheck client tasks w).1 ≠ .returned (.ok ()) ↔ OwnFirst client tasks w)) := by
  have hsound : ReceiveSound client tasks w ↔ OwnFirst client tasks w :=
    ⟨ownFirst_of_receiveSound hB hclient, receiveSound_of_ownFirst hB hclient⟩
  refine ⟨hsound, fun hnever => ⟨?_, fun hown => hnever.fails (hsound.mpr hown)⟩⟩
  intro hfails
  rw [← hsound]
  exact fun hpassed => absurd hpassed hfails

end Validation

/-! ## The mock client -/

section Mock

open Mock

variable {p : Profile} {iter : IterOrder String MqttMessage}

theorem Mock.recordPublished_channels (success : MqttPublishSuccess) (m : MqttMessage)
    (w : MockWorld B) : (recordPublished success m w).2.channels = w.channels := by
  unfold recordPublished
  split <;> rfl

theorem Mock.recordPublished_grows (success : MqttPublishSuccess) (m : MqttMessage)
    (w : MockWorld B) : w.channels.Grows (recordPublished success m w).2.channels := by
  rw [recordPublished_channels]
  exact .refl _

theorem Mock.unsubscribe_channels (topic : String) (w : MockWorld B) :
    (unsubscribe topic w).2.channels = w.channels := by
  unfold unsubscribe
  split <;> rfl

theorem Mock.subscribe_grows (topic : String) (qos : QoS) (tx : ChannelId) (w : MockWorld B) :
    w.channels.Grows (subscribe p topic qos tx iter w).2.channels := by
  let R : MockWorld B → MockWorld B → Prop := fun w w' => w.channels.Grows w'.channels
  have htrans : ∀ w w' w'', R w w' → R w' w'' → R w w'' := fun _ _ _ => Bank.Grows.trans
  have hlock : ∀ w, R w (lockSubscriptions w).2 := by
    intro w
    unfold lockSubscriptions
    split <;> exact .refl _
  have hallocate : ∀ w, R w (allocate p topic tx w).2 := by
    intro w
    unfold allocate
    split
    · exact .refl _
    · split <;> exact .refl _
  have hreplay : ∀ id w, R w (replay topic id tx iter w).2 := by
    intro id w
    unfold replay
    split
    · exact .refl _
    · rw [replayLoop_eq]
      exact (Bank.sendEach_took _ _).grows
  have hdone : ∀ (answer : Except Mqtt5PubSubError UInt32) w,
      R w ((pure answer : Act (MockWorld B) _) w).2 := fun _ w => Bank.Grows.refl w.channels
  show R w ((lockSubscriptions >>= fun _ => allocate p topic tx >>= fun id =>
    replay topic id tx iter >>= fun _ => pure (Except.ok id)) w).2
  apply Act.bind_rel R htrans hlock
  intro _
  apply Act.bind_rel R htrans hallocate
  intro id
  exact Act.bind_rel R htrans (hreplay id) fun _ => hdone (.ok id)

/-- The calls of the mock only send. -/
theorem pubSub_onlySends : (pubSub p iter : Mqtt5PubSub MockClient B).OnlySends where
  subscribe := subscribe_grows
  unsubscribe topic w := by
    show w.channels.Grows (unsubscribe topic w).2.channels
    rw [unsubscribe_channels]
    exact .refl _
  publish message w := recordPublished_grows _ message w
  publishNoblock message w := recordPublished_grows _ message w
  publishNowait message w := recordPublished_grows _ message w

/-- The mock never hands a published message to anybody. -/
theorem pubSub_neverDelivers :
    NeverDelivers (pubSub p iter : Mqtt5PubSub MockClient B) (.none MockClient B) := by
  intro message w w' hw' c m hm
  have hsame : w'.channels = w.channels := by
    rcases hw' with rfl | rfl
    · exact recordPublished_channels _ message w
    · exact recordPublished_channels _ message w
  rw [hsame, List.drop_length] at hm
  exact absurd hm List.not_mem_nil

/-- A mock client with a retained message on the topic of the check. -/
def replaying : MockWorld (.log MqttMessage) :=
  (execAll .debug (.new _ "mock-client")
    [.simulateReceive (.simple "test/subscribe" .atMostOnce true [1])]).2

theorem receiveSound_iff_replaying :
    let client := pubSub .debug (.stored _ _)
    (ReceiveSound client (.none _ _) replaying ↔ OwnFirst client (.none _ _) replaying) ∧
    (NeverDelivers client (.none _ _) →
      ((receiveCheck client (.none _ _) replaying).1 ≠ .returned (.ok ()) ↔
        OwnFirst client (.none _ _) replaying)) := by
  intro client
  exact receiveSound_iff (Broadcast.log_reportsLag _) pubSub_onlySends (.none _ _) replaying

/-- The mock passes with the message it replays, not with the published one. -/
theorem not_receiveSound :
    ¬ ∀ (C : Type) (B : Broadcast MqttMessage) (client : Mqtt5PubSub C B) (tasks : Tasks C B),
      B.ReportsLag → client.OnlySends → ∀ w, ReceiveSound client tasks w ∧
        (NeverDelivers client tasks →
          (receiveCheck client tasks w).1 ≠ .returned (.ok ())) := by
  intro hall
  let client := pubSub (B := .log MqttMessage) .debug (.stored _ _)
  obtain ⟨-, hfails⟩ := hall _ _ client (.none _ _) (Broadcast.log_reportsLag _) pubSub_onlySends
    replaying
  have hpasses : (receiveCheck client (.none _ _) replaying).1 = .returned (.ok ()) := by
    rw [receiveCheck_none]
    decide
  exact hfails pubSub_neverDelivers hpasses

end Mock

end StingerMqtt

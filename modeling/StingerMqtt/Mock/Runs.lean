import StingerMqtt.Kit.TSys
import StingerMqtt.Mock.Effects

/-!
# Runs of the mock client

The calls a program makes on a mock client, one after the other, together with
what it does to its own channels in between, as a labelled transition system:
a label is a call and how it ended. `Effect` lists once what a call can do;
the invariants below, and everything proved of whole runs later, split on it.
-/

namespace StingerMqtt

open Kit

/-- A call on the mock client, or something the program does to a channel. -/
inductive Op where
  | subscribe (topic : String) (qos : QoS) (tx : ChannelId) (iter : IterOrder String MqttMessage)
  | unsubscribe (topic : String)
  | simulateReceive (message : MqttMessage)
  | publish (message : MqttMessage)
  | publishNoblock (message : MqttMessage)
  | publishNowait (message : MqttMessage)
  | lastPublishedMessage
  | publishedMessages
  | clearPublishedMessages
  | retainedMessages
  | clearRetainedMessages
  | channel (capacity : Nat)
  | addReceiver (c : ChannelId)
  | dropReceiver (c : ChannelId)

/-- What a call returns. -/
inductive Reply where
  | subscribed (result : Except Mqtt5PubSubError UInt32)
  | unsubscribed (result : Except Mqtt5PubSubError Unit)
  | received (result : Except Mqtt5PubSubError Nat)
  | published (result : Except Mqtt5PubSubError MqttPublishSuccess)
  | lastMessage (message : Option MqttMessage)
  | messages (messages : List MqttMessage)
  | retained (messages : HashMap String MqttMessage)
  | sender (tx : ChannelId)
  | done

/-- The id a call returns. -/
def Reply.subscriptionId : Reply → Option UInt32
  | .subscribed (.ok id) => some id
  | _ => none

namespace Op

variable {B : Broadcast MqttMessage}

/-- Run a call. -/
def exec (p : Profile) : Op → Act (MockWorld B) Reply
  | .subscribe topic qos tx iter => (Mock.subscribe p topic qos tx iter).map .subscribed
  | .unsubscribe topic => (Mock.unsubscribe topic).map .unsubscribed
  | .simulateReceive message => (Mock.simulateReceive message).map .received
  | .publish message => (Mock.publish message).map .published
  | .publishNoblock message => (Mock.publishNoblock message).map .published
  | .publishNowait message => (Mock.publishNowait message).map .published
  | .lastPublishedMessage => Mock.lastPublishedMessage.map .lastMessage
  | .publishedMessages => Mock.publishedMessages.map .messages
  | .clearPublishedMessages => Mock.clearPublishedMessages.map fun _ => .done
  | .retainedMessages => Mock.retainedMessages.map .retained
  | .clearRetainedMessages => Mock.clearRetainedMessages.map fun _ => .done
  | .channel capacity => fun w =>
    (.returned (.sender (w.channels.channel capacity).1.1),
      w.setChannels (w.channels.channel capacity).2)
  | .addReceiver c => fun w => (.returned .done, w.setChannels (w.channels.addReceiver c))
  | .dropReceiver c => fun w => (.returned .done, w.setChannels (w.channels.dropReceiver c))

/-- A sender or receiver in a call belongs to a channel that was created, and
a channel holds at least one message. -/
def Valid (w : MockWorld B) : Op → Prop
  | .subscribe _ _ tx _ => tx < w.channels.next
  | .channel capacity => 0 < capacity
  | .addReceiver c => c < w.channels.next
  | .dropReceiver c => c < w.channels.next
  | _ => True

instance (w : MockWorld B) (op : Op) : Decidable (op.Valid w) := by
  cases op <;> unfold Valid <;> infer_instance

/-- The calls that only read or write the list of published messages, or only
read the retained store. -/
def quiet : Op → Bool
  | .publish _ | .publishNoblock _ | .publishNowait _ => true
  | .lastPublishedMessage | .publishedMessages | .clearPublishedMessages => true
  | .retainedMessages => true
  | _ => false

end Op

/-- A call and how it ended. -/
structure Event where
  op : Op
  outcome : Outcome Reply

/-- The mock client `MockClient::new(clientId)` in a build of profile `p`. -/
def mock (B : Broadcast MqttMessage) (p : Profile) (clientId : String) :
    TSys (MockWorld B) Event where
  init w := w = .new B clientId
  step w e w' := e.op.Valid w ∧ e.op.exec p w = (e.outcome, w')

/-! ## Running a list of calls -/

section

variable {B : Broadcast MqttMessage} (p : Profile)

/-- Run calls one after the other and write down how each ended. -/
def execAll (w : MockWorld B) : List Op → List Event × MockWorld B
  | [] => ([], w)
  | op :: ops =>
    let rest := execAll (op.exec p w).2 ops
    (⟨op, (op.exec p w).1⟩ :: rest.1, rest.2)

@[simp] theorem execAll_ops (w : MockWorld B) (ops : List Op) :
    (execAll p w ops).1.map Event.op = ops := by
  induction ops generalizing w with
  | nil => rfl
  | cons op ops ih => exact congrArg (op :: ·) (ih _)

/-- Every call of the list is valid and leads to a world of `P`. -/
def Passes (P : MockWorld B → Prop) (w : MockWorld B) : List Op → Prop
  | [] => True
  | op :: ops => (op.Valid w ∧ P (op.exec p w).2) ∧ Passes P (op.exec p w).2 ops

instance (P : MockWorld B → Prop) [DecidablePred P] (w : MockWorld B) (ops : List Op) :
    Decidable (Passes p P w ops) := by
  induction ops generalizing w with
  | nil => exact instDecidableTrue
  | cons op ops ih => exact @instDecidableAnd _ _ _ (ih _)

theorem execAll_run {P : MockWorld B → Prop} {w : MockWorld B} {ops : List Op} (clientId : String)
    (h : Passes p P w ops) :
    ((mock B p clientId).within P).Run w (execAll p w ops).1 (execAll p w ops).2 := by
  induction ops generalizing w with
  | nil => exact .nil
  | cons op ops ih =>
      obtain ⟨⟨hvalid, hP⟩, hrest⟩ := h
      exact .cons ⟨⟨hvalid, rfl⟩, hP⟩ (ih hrest)

theorem execAll_trace {P : MockWorld B → Prop} {clientId : String} {ops : List Op}
    (hnew : P (.new B clientId)) (h : Passes p P (.new B clientId) ops) :
    ((mock B p clientId).within P).Trace (execAll p (.new B clientId) ops).1
      (execAll p (.new B clientId) ops).2 :=
  ⟨.new B clientId, ⟨rfl, hnew⟩, execAll_run p clientId h⟩

theorem execAll_mock {clientId : String} {ops : List Op}
    (h : Passes p (fun _ : MockWorld B => True) (.new B clientId) ops) :
    (mock B p clientId).Trace (execAll p (.new B clientId) ops).1
      (execAll p (.new B clientId) ops).2 :=
  TSys.within_trace (execAll_trace p trivial h)

theorem execAll_reachable {clientId : String} {ops : List Op}
    (h : Passes p (fun _ : MockWorld B => True) (.new B clientId) ops) :
    (mock B p clientId).Reachable (execAll p (.new B clientId) ops).2 :=
  ⟨_, execAll_mock p h⟩

end

/-! ## What a call can do -/

section

open Mock

variable {B : Broadcast MqttMessage}

/-- The world after the first section of `simulate_receive`. -/
def MockWorld.stored (w : MockWorld B) (m : MqttMessage) : MockWorld B :=
  if m.retain then w.setRetained (w.retained.insert m.topic m) else w

/-- The messages a subscribe replays for the row it has created. -/
def replays (w : MockWorld B) (row : Subscription) (iter : IterOrder String MqttMessage) :
    List (Subscription × MqttMessage) :=
  if w.channels.Live row.tx then
    (replayed row.topic iter w.retained).map fun m => (row, m)
  else []

/-- The rows a fan-out gets to, with its message. -/
def fanOuts (w : MockWorld B) (m : MqttMessage) : List (Subscription × MqttMessage) :=
  (reached w m).map fun s => (s, m)

/-- What the channels accept for a list of rows and messages. -/
def copies (sends : List (Subscription × MqttMessage)) : List (ChannelId × MqttMessage) :=
  sends.map fun d => copyFor d.2 d.1

/-- `Effect p w op out w'`: in `w` the call `op` may end as `out` in `w'`. -/
inductive Effect (p : Profile) (w : MockWorld B) : Op → Outcome Reply → MockWorld B → Prop
  | subscribePanicked {topic qos tx iter} : w.poisoned = true →
      Effect p w (.subscribe topic qos tx iter) .panicked w
  | subscribeOverflow {topic qos tx iter} : w.poisoned = false →
      p.addU32 w.nextId 1 = none →
      Effect p w (.subscribe topic qos tx iter) .panicked w.poisonSubscribe
  | subscribed {topic qos tx iter nextId' b} : w.poisoned = false →
      p.addU32 w.nextId 1 = some nextId' →
      w.channels.Took (copies (replays w ⟨topic, w.nextId, tx⟩ iter)) b →
      Effect p w (.subscribe topic qos tx iter) (.returned (.subscribed (.ok w.nextId)))
        ((pushed w topic tx nextId').setChannels b)
  | unsubscribePanicked {topic} : w.poisoned = true →
      Effect p w (.unsubscribe topic) .panicked w
  | unsubscribed {topic} : w.poisoned = false →
      Effect p w (.unsubscribe topic) (.returned (.unsubscribed (.ok ())))
        (w.setTable (w.table.filter fun s => s.topic ≠ topic))
  | receivePanicked {m} : w.poisoned = true →
      Effect p w (.simulateReceive m) .panicked (w.stored m)
  | received {m result b} : w.poisoned = false →
      w.channels.Took (copies (fanOuts w m)) b →
      (result = .ok (addressed w.table m).length ↔
        ∀ s ∈ addressed w.table m, w.channels.Live s.tx) →
      Effect p w (.simulateReceive m) (.returned (.received result)) ((w.stored m).setChannels b)
  | quiet {op reply msgs} : op.quiet = true → reply.subscriptionId = none →
      Effect p w op (.returned reply) (w.setPublished msgs)
  | clearedRetained :
      Effect p w .clearRetainedMessages (.returned .done) (w.setRetained ∅)
  | created {capacity} :
      Effect p w (.channel capacity) (.returned (.sender w.channels.next))
        (w.setChannels (w.channels.channel capacity).2)
  | addedReceiver {c} :
      Effect p w (.addReceiver c) (.returned .done) (w.setChannels (w.channels.addReceiver c))
  | droppedReceiver {c} :
      Effect p w (.dropReceiver c) (.returned .done) (w.setChannels (w.channels.dropReceiver c))

variable {p : Profile} {w : MockWorld B}

/-- A call that only reads. -/
theorem Effect.read {op : Op} (hop : op.quiet = true) {reply : Reply}
    (hreply : reply.subscriptionId = none) : Effect p w op (.returned reply) w := by
  show Effect p w op (.returned reply) (w.setPublished w.client.publishedMessages.data)
  exact .quiet hop hreply

theorem MockWorld.Locks.stored (hw : w.Locks) (m : MqttMessage) : (w.stored m).Locks := by
  unfold MockWorld.stored
  split
  · exact hw.setRetained _
  · exact hw

@[simp] theorem table_stored (m : MqttMessage) : (w.stored m).table = w.table := by
  unfold MockWorld.stored; split <;> rfl

@[simp] theorem nextId_stored (m : MqttMessage) : (w.stored m).nextId = w.nextId := by
  unfold MockWorld.stored; split <;> rfl

@[simp] theorem poisoned_stored (m : MqttMessage) : (w.stored m).poisoned = w.poisoned := by
  unfold MockWorld.stored; split <;> rfl

@[simp] theorem channels_stored (m : MqttMessage) : (w.stored m).channels = w.channels := by
  unfold MockWorld.stored; split <;> rfl

theorem copies_replays (row : Subscription) (iter : IterOrder String MqttMessage) :
    copies (replays w row iter) =
      if w.channels.Live row.tx then
        (replayed row.topic iter w.retained).map fun m => (row.tx, m.tagged row.subId)
      else [] := by
  unfold copies replays
  split
  · rw [List.map_map]
    rfl
  · rfl

theorem copies_fanOuts (m : MqttMessage) :
    copies (fanOuts w m) = (reached w m).map (copyFor m) := by
  unfold copies fanOuts
  rw [List.map_map]
  rfl

/-- `simulate_receive` is its second section, after the message was stored. -/
theorem simulateReceive_eq (hw : w.Locks) (m : MqttMessage) :
    simulateReceive m w = fanOut m (w.stored m) := by
  unfold simulateReceive MockWorld.stored
  cases hretain : m.retain with
  | false => rfl
  | true => exact Act.bind_returned (storeRetained_eq hw m)

theorem receive_panicked (hw : w.Locks) (m : MqttMessage) (h : w.poisoned = true) :
    simulateReceive m w = (.panicked, w.stored m) := by
  rw [simulateReceive_eq hw]
  exact fanOut_panicked m ((poisoned_stored m).trans h)

/-- A receive stores a retained message, sends one copy to each row it gets to,
and succeeds exactly when it gets to every addressed row. -/
theorem receive_spec (hw : w.Locks) (m : MqttMessage) (h : w.poisoned = false) :
    ∃ result b, simulateReceive m w = (.returned result, (w.stored m).setChannels b) ∧
      w.channels.Took ((reached w m).map (copyFor m)) b ∧
      (result = .ok (addressed w.table m).length ↔
        ∀ s ∈ addressed w.table m, w.channels.Live s.tx) := by
  obtain ⟨result, b, hfan, htook, hok⟩ := fanOut_spec m ((poisoned_stored m).trans h)
  -- the fan-out finds the table and the channels as the call found them
  have hreached : reached (w.stored m) m = reached w m := by
    unfold reached
    rw [table_stored, channels_stored]
  rw [channels_stored, hreached] at htook
  rw [table_stored, channels_stored] at hok
  rw [simulateReceive_eq hw]
  exact ⟨result, b, hfan, htook, hok⟩

/-- A subscribe returns the next id, pushes its row and replays. -/
theorem subscribe_eq (hw : w.Locks) (h : w.poisoned = false) {nextId' : UInt32}
    (hadd : p.addU32 w.nextId 1 = some nextId') (topic : String) (qos : QoS) (tx : ChannelId)
    (iter : IterOrder String MqttMessage) :
    ∃ b, subscribe p topic qos tx iter w =
        (.returned (.ok w.nextId), (pushed w topic tx nextId').setChannels b) ∧
      w.channels.Took (copies (replays w ⟨topic, w.nextId, tx⟩ iter)) b := by
  have hpushed : (pushed w topic tx nextId').Locks := (hw.setNextId _).setTable _
  obtain ⟨b, hreplay, htook⟩ := replay_spec hpushed topic w.nextId tx iter
  refine ⟨b, ?_, ?_⟩
  · unfold subscribe
    rw [Act.bind_returned (lockSubscriptions_eq h),
      Act.bind_returned (allocate_eq hw h hadd topic tx), Act.bind_returned hreplay]
    rfl
  · rw [copies_replays]
    exact htook

private theorem subscribe_effect (hw : w.Locks) (topic : String) (qos : QoS) (tx : ChannelId)
    (iter : IterOrder String MqttMessage) :
    Effect p w (.subscribe topic qos tx iter)
      ((subscribe p topic qos tx iter w).1.map .subscribed)
      (subscribe p topic qos tx iter w).2 := by
  cases h : w.poisoned with
  | true =>
      unfold subscribe
      rw [Act.bind_panicked (lockSubscriptions_panicked h)]
      exact .subscribePanicked h
  | false =>
      cases hadd : p.addU32 w.nextId 1 with
      | none =>
          unfold subscribe
          rw [Act.bind_returned (lockSubscriptions_eq h),
            Act.bind_panicked (allocate_overflow hw h hadd topic tx)]
          exact .subscribeOverflow h hadd
      | some nextId' =>
          obtain ⟨b, heq, htook⟩ := subscribe_eq hw h hadd topic qos tx iter
          rw [heq]
          exact .subscribed h hadd htook

private theorem receive_effect (hw : w.Locks) (m : MqttMessage) :
    Effect p w (.simulateReceive m) ((simulateReceive m w).1.map .received)
      (simulateReceive m w).2 := by
  cases h : w.poisoned with
  | true =>
      rw [receive_panicked hw m h]
      exact .receivePanicked h
  | false =>
      obtain ⟨result, b, heq, htook, hok⟩ := receive_spec hw m h
      rw [heq]
      rw [← copies_fanOuts] at htook
      exact .received h htook hok

private theorem record_effect (hw : w.Locks) {op : Op} (hop : op.quiet = true)
    (success : MqttPublishSuccess) (m : MqttMessage) :
    Effect p w op ((recordPublished success m w).1.map .published)
      (recordPublished success m w).2 := by
  rw [recordPublished_eq hw]
  exact .quiet hop rfl

/-- Every call has one of the listed effects. -/
theorem exec_effect (hw : w.Locks) (op : Op) :
    Effect p w op (op.exec p w).1 (op.exec p w).2 := by
  cases op with
  | subscribe topic qos tx iter => exact subscribe_effect hw topic qos tx iter
  | unsubscribe topic =>
      show Effect p w _ ((unsubscribe topic w).1.map .unsubscribed) (unsubscribe topic w).2
      cases h : w.poisoned with
      | true =>
          rw [unsubscribe_panicked topic h]
          exact .unsubscribePanicked h
      | false =>
          rw [unsubscribe_eq topic h]
          exact .unsubscribed h
  | simulateReceive m => exact receive_effect hw m
  | publish m => exact record_effect hw rfl _ m
  | publishNoblock m => exact record_effect hw rfl _ m
  | publishNowait m => exact record_effect hw rfl _ m
  | lastPublishedMessage =>
      show Effect p w _ ((lastPublishedMessage w).1.map .lastMessage) w
      unfold lastPublishedMessage
      rw [Mutex.lock_of_healthy hw.published]
      exact .read rfl rfl
  | publishedMessages =>
      show Effect p w _ ((publishedMessages w).1.map .messages) w
      unfold publishedMessages
      rw [Mutex.lock_of_healthy hw.published]
      exact .read rfl rfl
  | clearPublishedMessages =>
      show Effect p w _ ((clearPublishedMessages w).1.map fun _ => .done)
        (clearPublishedMessages w).2
      rw [clearPublishedMessages_eq hw]
      exact .quiet rfl rfl
  | retainedMessages =>
      show Effect p w _ ((retainedMessages w).1.map .retained) (retainedMessages w).2
      rw [retainedMessages_eq hw]
      exact .read rfl rfl
  | clearRetainedMessages =>
      show Effect p w _ ((clearRetainedMessages w).1.map fun _ => .done)
        (clearRetainedMessages w).2
      rw [clearRetainedMessages_eq hw]
      exact .clearedRetained
  | channel capacity => exact .created
  | addReceiver c => exact .addedReceiver
  | dropReceiver c => exact .droppedReceiver

theorem Effect.locks {op : Op} {out : Outcome Reply} {w' : MockWorld B} (hw : w.Locks)
    (h : Effect p w op out w') : w'.Locks := by
  cases h with
  | subscribePanicked | unsubscribePanicked => exact hw
  | subscribeOverflow => exact hw.poisonSubscribe
  | subscribed => exact ((hw.setNextId _).setTable _).setChannels _
  | unsubscribed => exact hw.setTable _
  | receivePanicked => exact hw.stored _
  | received => exact (hw.stored _).setChannels _
  | quiet => exact hw.setPublished _
  | clearedRetained => exact hw.setRetained _
  | created | addedReceiver | droppedReceiver => exact hw.setChannels _

end

end StingerMqtt

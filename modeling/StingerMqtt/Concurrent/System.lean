import StingerMqtt.Mock.Invariants

/-!
# Clones of a mock client on several threads

Any number of threads run calls on clones of one mock client. A step is one
section under a mutex, so another thread can come in between the two sections
of `simulate_receive`, and between the three of `subscribe`, which holds
`subscriptions` from the first to the last. The sections are those of
`Mock.Client`; whoever needs `subscriptions` waits until nobody holds it. To
create a channel, or to create or drop a receiver, is a step too.

The last four fields of a configuration record what happened and are read by no
step: the calls are numbered, each row has the number of its subscribe, each
topic of the retained store the number of the `simulate_receive` that stored
its entry, and each message sent the numbers of the calls it is due to.
-/

namespace StingerMqtt

open Kit Mock

/-- The number of a thread. -/
abbrev ThreadId : Type := Nat

/-- The number of a call, in the order the calls are made. -/
abbrev CallId : Type := Nat

/-- Where a thread is: before which section of which call. -/
inductive Pc where
  | idle
  | store (call : CallId) (message : MqttMessage)
  | fanOut (call : CallId) (message : MqttMessage)
  | lock (call : CallId) (topic : String) (tx : ChannelId) (iter : IterOrder String MqttMessage)
  | allocate (call : CallId) (topic : String) (tx : ChannelId)
      (iter : IterOrder String MqttMessage)
  | replay (call : CallId) (topic : String) (tx : ChannelId) (iter : IterOrder String MqttMessage)
      (subscriptionId : UInt32)
  | atomic (call : CallId) (op : Op)
  | returning (call : CallId) (outcome : Outcome Reply)

/-- What a thread does in one step. -/
inductive Move where
  | invoke (call : CallId) (op : Op)
  | store (call : CallId) (message : MqttMessage)
  | fanOut (call : CallId) (message : MqttMessage)
  | lock (call : CallId)
  | allocate (call : CallId) (outcome : Outcome UInt32)
  | replay (call : CallId)
  | atomic (call : CallId) (op : Op)
  | ret (call : CallId) (outcome : Outcome Reply)

/-- One step of one thread. -/
structure Label where
  thread : ThreadId
  move : Move

/-- The two sections that send. -/
inductive Via where
  | fanOut
  | replay
  deriving DecidableEq

/-- A message that was sent: received by which call, for the row of which
subscribe, in which section. -/
structure Delivery where
  call : Option CallId
  subscription : CallId
  row : Subscription
  message : MqttMessage
  via : Via
  deriving DecidableEq

/-- The shared client, the threads, and the thread that holds `subscriptions`. -/
structure Config (B : Broadcast MqttMessage) where
  world : MockWorld B
  threads : ThreadId → Pc
  holder : Option ThreadId
  nextCall : CallId
  rows : List (CallId × Subscription)
  origin : String → Option CallId
  deliveries : List Delivery

/-- The first section of a call. -/
def Pc.start (call : CallId) : Op → Pc
  | .simulateReceive message =>
    if message.retain then .store call message else .fanOut call message
  | .subscribe topic _ tx iter => .lock call topic tx iter
  | op => .atomic call op

/-- The next section of a call, unless the last one panicked. -/
def Pc.after {α : Type} (call : CallId) (next : α → Pc) : Outcome α → Pc
  | .returned value => next value
  | .panicked => .returning call .panicked

/-- The calls with a section of their own under `subscriptions`. -/
def Op.locksTable : Op → Bool
  | .unsubscribe _ => true
  | _ => false

namespace Config

variable {B : Broadcast MqttMessage} (p : Profile) (cfg : Config B) (t : ThreadId)

/-- A new client, and nobody doing anything. -/
def new (B : Broadcast MqttMessage) (clientId : String) : Config B where
  world := .new B clientId
  threads _ := .idle
  holder := none
  nextCall := 0
  rows := []
  origin _ := none
  deliveries := []

/-- Thread `t` goes on at `pc`. -/
def goto (pc : Pc) : Config B := { cfg with threads := Function.update cfg.threads t pc }

/-- What a fan-out sends: one message for each matching row up to the first one
whose receivers are gone. -/
def fannedOut (call : CallId) (message : MqttMessage) : List Delivery :=
  ((cfg.rows.filter fun row => topicMatches row.2.topic message.topic).takeWhile fun row =>
    cfg.world.channels.Live row.2.tx).map fun row => ⟨some call, row.1, row.2, message, .fanOut⟩

/-- What a replay sends, if somebody listens. -/
def replayedTo (call : CallId) (row : Subscription) (iter : IterOrder String MqttMessage) :
    List Delivery :=
  if cfg.world.channels.Live row.tx then
    (replayed row.topic iter cfg.world.retained).map fun message =>
      ⟨cfg.origin message.topic, call, row, message, .replay⟩
  else []

/-- The rows after a call in one section. -/
def rowsAfter (rows : List (CallId × Subscription)) : Op → Outcome Reply →
    List (CallId × Subscription)
  | .unsubscribe topic, .returned _ => rows.filter fun row => row.2.topic ≠ topic
  | _, _ => rows

/-- Who stored what after a call in one section. -/
def originAfter (origin : String → Option CallId) : Op → String → Option CallId
  | .clearRetainedMessages => fun _ => none
  | _ => origin

/-- The next section of the call thread `t` is in; `none` if it has to wait. A
section is one step for everybody: also a thread that creates or drops a
receiver, which takes no mutex, comes before or after the sends of a fan-out or
replay, never in between. -/
def advance : Option (Move × Config B) :=
  match cfg.threads t with
  | .idle => none
  | .store call message =>
    -- never waits: `retained_messages` is held within one section only
    let result := storeRetained message cfg.world
    let cfg' := match result.1 with
      | .returned _ => { cfg with
          world := result.2
          origin := Function.update cfg.origin message.topic (some call) }
      | .panicked => { cfg with world := result.2 }
    some (.store call message, cfg'.goto t (.after call (fun _ => .fanOut call message) result.1))
  | .fanOut call message =>
    -- `subscriptions` may be held by a subscribe between its sections
    if cfg.holder = none then
      let result := Mock.fanOut message cfg.world
      let cfg' := match result.1 with
        | .returned _ => { cfg with
            world := result.2
            deliveries := cfg.deliveries ++ cfg.fannedOut call message }
        | .panicked => { cfg with world := result.2 }
      some (.fanOut call message, cfg'.goto t (.returning call (result.1.map .received)))
    else none
  | .lock call topic tx iter =>
    if cfg.holder = none then
      let result := lockSubscriptions cfg.world
      let cfg' := match result.1 with
        | .returned _ => { cfg with world := result.2, holder := some t }
        | .panicked => { cfg with world := result.2 }
      some (.lock call, cfg'.goto t (.after call (fun _ => .allocate call topic tx iter) result.1))
    else none
  | .allocate call topic tx iter =>
    let result := Mock.allocate p topic tx cfg.world
    let cfg' : Config B := match result.1 with
      | .returned id => { cfg with
          world := result.2
          rows := cfg.rows ++ [(call, ⟨topic, id, tx⟩)] }
      -- the panic unwinds `subscribe`, which drops both guards
      | .panicked => { cfg with world := result.2, holder := none }
    some (.allocate call result.1, cfg'.goto t (.after call (.replay call topic tx iter) result.1))
  | .replay call topic tx iter id =>
    let result := Mock.replay topic id tx iter cfg.world
    let cfg' := match result.1 with
      | .returned _ => { cfg with
          world := result.2
          holder := none
          -- the guards are dropped when `subscribe` returns
          deliveries := cfg.deliveries ++ cfg.replayedTo call ⟨topic, id, tx⟩ iter }
      | .panicked => { cfg with world := result.2, holder := none }
    some (.replay call, cfg'.goto t (.returning call (result.1.map fun _ => .subscribed (.ok id))))
  | .atomic call op =>
    -- the other calls in one section take mutexes nobody holds between sections
    if op.locksTable = false ∨ cfg.holder = none then
      let result := op.exec p cfg.world
      let cfg' := { cfg with
        world := result.2
        rows := rowsAfter cfg.rows op result.1
        origin := originAfter cfg.origin op }
      some (.atomic call op, cfg'.goto t (.returning call result.1))
    else none
  | .returning call outcome => some (.ret call outcome, cfg.goto t .idle)

/-- Thread `t` makes a call. -/
def invoke (op : Op) : Config B :=
  { cfg with nextCall := cfg.nextCall + 1 }.goto t (.start cfg.nextCall op)

end Config

/-- Clones of the mock client `MockClient::new(clientId)`: an idle thread makes
a call, or one that is in a call does its next section. -/
def clones (B : Broadcast MqttMessage) (p : Profile) (clientId : String) :
    TSys (Config B) Label where
  init cfg := cfg = .new B clientId
  step cfg l cfg' :=
    (∃ op, l.move = .invoke cfg.nextCall op ∧ cfg.threads l.thread = .idle ∧
      op.Valid cfg.world ∧ cfg' = cfg.invoke l.thread op) ∨
    cfg.advance p l.thread = some (l.move, cfg')

end StingerMqtt

import Mathlib.Algebra.Group.Nat.Defs
import StingerMqtt.PubSub
import StingerMqtt.Mock.TopicMatches

/-!
# The mock client (`mock/client.rs`)

`MockClient` and its operations. An operation is written as the sequence of
the sections it runs under its locks: a section takes one more mutex and goes
as far as the next `lock()`, so that a scheduler can later be put between any
two sections. `subscribe` has three, nested as in the source: it holds
`subscriptions` from the first on and `next_sub_id` from the second on, until
it returns.

The handles made by `Clone` share all mutexes, so one `MockClient` stands for
all of them. Lines printed to the console are left out.
-/

namespace StingerMqtt

open Kit

/-- Whether `+=` on a `u32` panics on overflow or wraps. -/
inductive Profile where
  | debug
  | release
  deriving DecidableEq, Repr

/-- `a += b` on `u32`; `none` is the overflow panic. -/
def Profile.addU32 : Profile → UInt32 → UInt32 → Option UInt32
  | .debug, a, b => if a.toNat + b.toNat < 2 ^ 32 then some (a + b) else none
  | .release, a, b => some (a + b)

/-- One row of the subscription table: filter, id and sender. -/
structure Subscription where
  topic : String
  subId : UInt32
  tx : ChannelId
  deriving DecidableEq, Repr

/-- The state all clones of a mock client share. -/
structure MockClient where
  clientId : String
  stateRx : MqttConnectionState
  publishedMessages : Mutex (List MqttMessage)
  subscriptions : Mutex (List Subscription)
  nextSubId : Mutex UInt32
  retainedMessages : Mutex (HashMap String MqttMessage)

/-- `MockClient::new`. The dropped sender leaves the state at `Connected`. -/
def MockClient.new (clientId : String) : MockClient where
  clientId := clientId
  stateRx := .connected
  publishedMessages := { data := [] }
  subscriptions := { data := [] }
  nextSubId := { data := 1 }
  retainedMessages := { data := ∅ }

/-- `MockClient::new_default`. -/
def MockClient.newDefault : MockClient := .new "mock-client"

/-- A mock client and the channels. -/
abbrev MockWorld (B : Broadcast MqttMessage) : Type := World MockClient B

namespace MockWorld

variable {B : Broadcast MqttMessage}

/-- A new client; no channel exists. -/
def new (B : Broadcast MqttMessage) (clientId : String) : MockWorld B :=
  ⟨.new clientId, .empty B⟩

/-- The subscription table. -/
def table (w : MockWorld B) : List Subscription := w.client.subscriptions.data

/-- The retained store. -/
def retained (w : MockWorld B) : HashMap String MqttMessage := w.client.retainedMessages.data

/-- The id the next subscription gets. -/
def nextId (w : MockWorld B) : UInt32 := w.client.nextSubId.data

/-- A subscribe panicked: its two mutexes are poisoned. -/
def poisoned (w : MockWorld B) : Bool := w.client.subscriptions.poisoned

def setRetained (w : MockWorld B) (m : HashMap String MqttMessage) : MockWorld B :=
  { w with client := { w.client with retainedMessages := w.client.retainedMessages.write m } }

def setTable (w : MockWorld B) (rows : List Subscription) : MockWorld B :=
  { w with client := { w.client with subscriptions := w.client.subscriptions.write rows } }

def setNextId (w : MockWorld B) (id : UInt32) : MockWorld B :=
  { w with client := { w.client with nextSubId := w.client.nextSubId.write id } }

def setPublished (w : MockWorld B) (msgs : List MqttMessage) : MockWorld B :=
  { w with client := { w.client with publishedMessages := w.client.publishedMessages.write msgs } }

def setChannels (w : MockWorld B) (b : Bank B) : MockWorld B := { w with channels := b }

/-- Unwinding drops the guard of `subscriptions`. -/
def poisonSubscriptions (w : MockWorld B) : MockWorld B :=
  { w with client := { w.client with subscriptions := w.client.subscriptions.poison } }

/-- Unwinding drops the guards of `next_sub_id` and `subscriptions`. -/
def poisonSubscribe (w : MockWorld B) : MockWorld B :=
  { w with client := { w.client with
      subscriptions := w.client.subscriptions.poison
      nextSubId := w.client.nextSubId.poison } }

end MockWorld

namespace Mock

variable {B : Broadcast MqttMessage}

/-! ## `simulate_receive` -/

/-- Store a retained message, under `retained_messages`. -/
def storeRetained (message : MqttMessage) : Act (MockWorld B) Unit := fun w =>
  match w.client.retainedMessages.lock with
  | .panicked => (.panicked, w)
  | .returned retained => (.returned (), w.setRetained (retained.insert message.topic message))

/-- The loop over the table; `?` leaves it at the first failed send. -/
def fanOutLoop : List Subscription → MqttMessage → Nat → Bank B →
    Except Mqtt5PubSubError Nat × Bank B
  | [], _, sentCount, b => (.ok sentCount, b)
  | ⟨topic, subId, tx⟩ :: rest, message, sentCount, b =>
    if topicMatches topic message.topic then
      -- the source sets the id on the message itself, so the next rows see it
      let message := { message with subscriptionId := some subId }
      match b.send tx message with
      | (.error e, b) =>
        -- `?`: the rows after this one get nothing
        (.error (.other ("Failed to send message to subscription: " ++ B.sendErrorText e)), b)
      | (.ok _, b) => fanOutLoop rest message (sentCount + 1) b
    else fanOutLoop rest message sentCount b

/-- Send a message to the matching rows, under `subscriptions`. -/
def fanOut (message : MqttMessage) : Act (MockWorld B) (Except Mqtt5PubSubError Nat) := fun w =>
  match w.client.subscriptions.lock with
  | .panicked => (.panicked, w)
  | .returned subscriptions =>
    let result := fanOutLoop subscriptions message 0 w.channels
    (.returned result.1, w.setChannels result.2)

/-- `MockClient::simulate_receive`. -/
def simulateReceive (message : MqttMessage) : Act (MockWorld B) (Except Mqtt5PubSubError Nat) := do
  let _ ← if message.retain then storeRetained message else pure ()
  fanOut message

/-! ## `subscribe` and `unsubscribe` -/

/-- Take `subscriptions`. -/
def lockSubscriptions : Act (MockWorld B) Unit := fun w =>
  match w.client.subscriptions.lock with
  | .panicked => (.panicked, w)
  | .returned _ => (.returned (), w)

/-- Draw an id and push the new row, under `next_sub_id` as well. -/
def allocate (p : Profile) (topic : String) (tx : ChannelId) : Act (MockWorld B) UInt32 := fun w =>
  match w.client.nextSubId.lock with
  | .panicked => (.panicked, w.poisonSubscriptions)
  | .returned nextId =>
    match p.addU32 nextId 1 with
    -- the overflow panics before the row is pushed
    | none => (.panicked, w.poisonSubscribe)
    | some nextId' =>
      (.returned nextId, (w.setNextId nextId').setTable (w.table ++ [⟨topic, nextId, tx⟩]))

/-- The loop over the retained store; `let _ =` ignores failed sends. -/
def replayLoop (topic : String) (subscriptionId : UInt32) (tx : ChannelId) :
    List (HashMap.Entry String MqttMessage) → Bank B → Bank B
  | [], b => b
  | ⟨retainedTopic, retainedMsg⟩ :: rest, b =>
    if topicMatches topic retainedTopic then
      let msg := { retainedMsg with subscriptionId := some subscriptionId }
      replayLoop topic subscriptionId tx rest (b.send tx msg).2
    else replayLoop topic subscriptionId tx rest b

/-- Replay the matching retained messages, under `retained_messages` as well.
`iter` is the order in which the store happens to be iterated. -/
def replay (topic : String) (subscriptionId : UInt32) (tx : ChannelId)
    (iter : IterOrder String MqttMessage) : Act (MockWorld B) Unit := fun w =>
  match w.client.retainedMessages.lock with
  | .panicked => (.panicked, w.poisonSubscribe)
  | .returned retained =>
    (.returned (),
      w.setChannels (replayLoop topic subscriptionId tx (iter.order retained.entries) w.channels))

/-- `MockClient::subscribe`. -/
def subscribe (p : Profile) (topic : String) (_qos : QoS) (tx : ChannelId)
    (iter : IterOrder String MqttMessage) : Act (MockWorld B) (Except Mqtt5PubSubError UInt32) := do
  lockSubscriptions
  let subscriptionId ← allocate p topic tx
  replay topic subscriptionId tx iter
  return .ok subscriptionId

/-- `MockClient::unsubscribe`. -/
def unsubscribe (topic : String) : Act (MockWorld B) (Except Mqtt5PubSubError Unit) := fun w =>
  match w.client.subscriptions.lock with
  | .panicked => (.panicked, w)
  | .returned subscriptions =>
    (.returned (.ok ()), w.setTable (subscriptions.filter fun s => s.topic ≠ topic))

/-! ## Publishing -/

/-- What `publish` and `publish_noblock` answer to a message of a QoS level. -/
def publishSuccess : QoS → MqttPublishSuccess
  | .atMostOnce => .sent
  | .atLeastOnce => .acknowledged
  | .exactlyOnce => .completed

/-- Keep a published message and answer `success`, under `published_messages`. -/
def recordPublished (success : MqttPublishSuccess) (message : MqttMessage) :
    Act (MockWorld B) (Except Mqtt5PubSubError MqttPublishSuccess) := fun w =>
  match w.client.publishedMessages.lock with
  | .panicked => (.panicked, w)
  | .returned msgs => (.returned (.ok success), w.setPublished (msgs ++ [message]))

/-- `MockClient::publish`. -/
def publish (message : MqttMessage) :
    Act (MockWorld B) (Except Mqtt5PubSubError MqttPublishSuccess) :=
  recordPublished (publishSuccess message.qos) message

/-- `MockClient::publish_noblock`: the value its oneshot receiver yields. -/
def publishNoblock (message : MqttMessage) :
    Act (MockWorld B) (Except Mqtt5PubSubError MqttPublishSuccess) :=
  recordPublished (publishSuccess message.qos) message

/-- `MockClient::publish_nowait`. -/
def publishNowait (message : MqttMessage) :
    Act (MockWorld B) (Except Mqtt5PubSubError MqttPublishSuccess) :=
  recordPublished .queued message

/-! ## Inspecting and clearing -/

/-- `MockClient::published_messages`. -/
def publishedMessages : Act (MockWorld B) (List MqttMessage) := fun w =>
  (w.client.publishedMessages.lock, w)

/-- `MockClient::last_published_message`. -/
def lastPublishedMessage : Act (MockWorld B) (Option MqttMessage) := fun w =>
  (w.client.publishedMessages.lock.map List.getLast?, w)

/-- `MockClient::clear_published_messages`. -/
def clearPublishedMessages : Act (MockWorld B) Unit := fun w =>
  match w.client.publishedMessages.lock with
  | .panicked => (.panicked, w)
  | .returned _ => (.returned (), w.setPublished [])

/-- `MockClient::retained_messages`. -/
def retainedMessages : Act (MockWorld B) (HashMap String MqttMessage) := fun w =>
  (w.client.retainedMessages.lock, w)

/-- `MockClient::clear_retained_messages`. -/
def clearRetainedMessages : Act (MockWorld B) Unit := fun w =>
  match w.client.retainedMessages.lock with
  | .panicked => (.panicked, w)
  | .returned _ => (.returned (), w.setRetained ∅)

/-- `impl Mqtt5PubSub for MockClient`, in a build of profile `p` whose retained
store is iterated in the order `iter`. -/
def pubSub (p : Profile) (iter : IterOrder String MqttMessage) : Mqtt5PubSub MockClient B where
  getClientId client := client.clientId
  getState client := client.stateRx
  subscribe topic qos tx := subscribe p topic qos tx iter
  unsubscribe topic := unsubscribe topic
  publish message := publish message
  publishNoblock message := publishNoblock message
  publishNowait message := publishNowait message

end Mock

end StingerMqtt

import StingerMqtt.PubSub

/-!
# The validation suite (`validation/mod.rs`)

The checks an implementation of `Mqtt5PubSub` is put through, for any client.
A check ends with an error text or goes on; the channels it opens lose their
receiver when it is left. Lines printed to the console are left out.
-/

namespace StingerMqtt

open Kit

/-- A check of a client of type `C`. -/
abbrev Check (C : Type) (B : Broadcast MqttMessage) : Type → Type :=
  ExceptT String (Act (World C B))

namespace Validation

variable {C : Type} {B : Broadcast MqttMessage} {α : Type}

/-- `map_err(|e| format!("{failure}: {e}"))?`. -/
def orFail (failure : String) (x : Act (World C B) (Except Mqtt5PubSubError α)) : Check C B α :=
  x.mapError fun e => failure ++ ": " ++ e.fmt

/-- A block with a channel of its own. Leaving the block drops the receiver. -/
def withChannel (capacity : Nat) (body : ChannelId → B.Receiver → Check C B α) : Check C B α :=
  fun w =>
    let opened := w.channels.channel capacity
    let result := body opened.1.1 opened.1.2 { w with channels := opened.2 }
    (result.1, { result.2 with channels := result.2.channels.dropReceiver opened.1.1 })

/-- `timeout(Duration::from_secs(5), rx.recv())`: nobody else sends or drops a
sender meanwhile, so a receiver that has to wait runs into the timeout. -/
def recvWithTimeout (tx : ChannelId) (rx : B.Receiver) : Check C B MqttMessage := fun w =>
  match (B.recv (w.channels.get tx) rx).1 with
  | none => (.returned (.error "Timeout waiting for message"), w)
  | some (.error e) =>
    (.returned (.error ("Failed to receive message: " ++ B.recvErrorText e)), w)
  | some (.ok received) => (.returned (.ok received), w)

/-- An optional id as `{:?}` shows it. -/
def debugId : Option UInt32 → String
  | none => "None"
  | some id => "Some(" ++ toString id ++ ")"

/-- `test_get_client_id`. -/
def testGetClientId (client : Mqtt5PubSub C B) : Check C B String := fun w =>
  let clientId := client.getClientId w.client
  if clientId = "" then (.returned (.error "Client ID is empty"), w)
  else (.returned (.ok clientId), w)

/-- The three publish checks differ in topic, level and texts. -/
def publishCheck (client : Mqtt5PubSub C B) (topic : String) (qos : QoS)
    (payload failure : String) : Check C B Unit := do
  let message := MqttMessage.simple topic qos false (Bytes.ofString payload)
  let _ ← orFail failure (client.publish message)
  return ()

/-- `test_publish_qos0`. -/
def testPublishQos0 (client : Mqtt5PubSub C B) : Check C B Unit :=
  publishCheck client "test/qos0" .atMostOnce "QoS 0 test message" "Failed to publish QoS 0"

/-- `test_publish_qos1`. -/
def testPublishQos1 (client : Mqtt5PubSub C B) : Check C B Unit :=
  publishCheck client "test/qos1" .atLeastOnce "QoS 1 test message" "Failed to publish QoS 1"

/-- `test_publish_qos2`. -/
def testPublishQos2 (client : Mqtt5PubSub C B) : Check C B Unit :=
  publishCheck client "test/qos2" .exactlyOnce "QoS 2 test message" "Failed to publish QoS 2"

/-- `test_publish_nowait`. -/
def testPublishNowait (client : Mqtt5PubSub C B) : Check C B Unit := do
  let message := MqttMessage.simple "test/nowait" .atMostOnce false
    (Bytes.ofString "No-wait test message")
  let _ ← orFail "Failed to publish_nowait" (client.publishNowait message)
  return ()

/-- `test_subscribe`. -/
def testSubscribe (client : Mqtt5PubSub C B) : Check C B UInt32 :=
  withChannel 10 fun tx _rx => do
    let subId ← orFail "Failed to subscribe" (client.subscribe "test/topic" .atLeastOnce tx)
    if subId ≤ 0 then
      throw ("Invalid subscription ID returned: " ++ toString subId)
    return subId

/-- `test_unsubscribe`. -/
def testUnsubscribe (client : Mqtt5PubSub C B) (topic : String) : Check C B Unit :=
  orFail "Failed to unsubscribe" (client.unsubscribe topic)

/-- The end of `test_subscribe_receive_unsubscribe`, once a message came. -/
def checkReceived (client : Mqtt5PubSub C B) (topic : String) (subId : UInt32)
    (received : MqttMessage) : Check C B Unit :=
  if received.subscriptionId ≠ some subId then
    throw ("Subscription ID mismatch: expected " ++ toString subId ++ ", got " ++
      debugId received.subscriptionId)
  else if received.topic ≠ topic then
    throw ("Topic mismatch: expected " ++ topic ++ ", got " ++ received.topic)
  else orFail "Failed to unsubscribe" (client.unsubscribe topic)

/-- `test_subscribe_receive_unsubscribe`. -/
def testSubscribeReceiveUnsubscribe (client : Mqtt5PubSub C B) : Check C B Unit :=
  withChannel 10 fun tx rx => do
    let topic := "test/subscribe"
    let subId ← orFail "Failed to subscribe" (client.subscribe topic .atLeastOnce tx)
    let message := MqttMessage.simple topic .atLeastOnce false
      (Bytes.ofString "Test subscription message")
    let _ ← orFail "Failed to publish" (client.publish message)
    let received ← recvWithTimeout tx rx
    checkReceived client topic subId received

/-- `run_full_pubsub_validation_suite`. -/
def runFullPubsubValidationSuite (client : Mqtt5PubSub C B) : Check C B Unit := do
  let _ ← testGetClientId client
  testPublishQos0 client
  testPublishQos1 client
  testPublishQos2 client
  testPublishNowait client
  let _ ← testSubscribe client
  testUnsubscribe client "test/topic"
  testSubscribeReceiveUnsubscribe client

end Validation

end StingerMqtt

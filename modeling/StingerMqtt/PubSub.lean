import StingerMqtt.Kit.Broadcast
import StingerMqtt.Kit.Panic
import StingerMqtt.Message

/-!
# The pub/sub interface (`lib.rs`)

Errors, publish results and connection states, and the trait `Mqtt5PubSub`
that every client implements. A client acts on its own state and on the
broadcast channels it was handed.
-/

namespace StingerMqtt

open Kit

/-- Errors of the pub/sub operations. -/
inductive Mqtt5PubSubError where
  | subscriptionError (msg : String)
  | unsubscribeError (msg : String)
  | publishError (msg : String)
  | invalidTopic (msg : String)
  | invalidQoS (msg : String)
  | timeoutError (msg : String)
  | other (msg : String)
  deriving DecidableEq, Repr

/-- The text an error is displayed as. -/
def Mqtt5PubSubError.fmt : Mqtt5PubSubError → String
  | .subscriptionError msg => "Subscription error: " ++ msg
  | .unsubscribeError msg => "Unsubscribe error: " ++ msg
  | .publishError msg => "Publish error: " ++ msg
  | .invalidTopic msg => "Invalid topic: " ++ msg
  | .invalidQoS msg => "Invalid QoS: " ++ msg
  | .timeoutError msg => "Timeout error: " ++ msg
  | .other msg => "Error: " ++ msg

/-- What a successful publish reports. -/
inductive MqttPublishSuccess where
  | sent
  | acknowledged
  | completed
  | queued
  deriving DecidableEq, Repr

/-- The connection state a client shows. -/
inductive MqttConnectionState where
  | disconnected
  | connecting
  | connected
  | disconnecting
  deriving DecidableEq, Repr

/-- A client of type `C` together with the channels that exist. -/
structure World (C : Type) (B : Broadcast MqttMessage) where
  client : C
  channels : Bank B

/-- The trait `Mqtt5PubSub`. The receiver `publishNoblock` hands back is the
value it yields. -/
structure Mqtt5PubSub (C : Type) (B : Broadcast MqttMessage) where
  getClientId : C → String
  getState : C → MqttConnectionState
  subscribe : String → QoS → ChannelId → Act (World C B) (Except Mqtt5PubSubError UInt32)
  unsubscribe : String → Act (World C B) (Except Mqtt5PubSubError Unit)
  publish : MqttMessage → Act (World C B) (Except Mqtt5PubSubError MqttPublishSuccess)
  publishNoblock : MqttMessage → Act (World C B) (Except Mqtt5PubSubError MqttPublishSuccess)
  publishNowait : MqttMessage → Act (World C B) (Except Mqtt5PubSubError MqttPublishSuccess)

end StingerMqtt

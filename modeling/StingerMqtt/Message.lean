import StingerMqtt.Kit.HashMap

/-!
# Messages (`message.rs`)

`QoS` and `MqttMessage`. Payloads are lists of bytes; the user properties are
a hash map.
-/

namespace StingerMqtt

open Kit

/-- Quality of service levels. -/
inductive QoS where
  | atMostOnce
  | atLeastOnce
  | exactlyOnce
  deriving DecidableEq, Repr

/-- `bytes::Bytes`. -/
abbrev Bytes : Type := List UInt8

/-- The bytes of a string, in UTF-8. -/
def Bytes.ofString (s : String) : Bytes := s.toUTF8.data.toList

/-- An MQTT message with its MQTT 5.0 properties. -/
structure MqttMessage where
  topic : String
  qos : QoS
  retain : Bool
  payload : Bytes
  contentType : Option String
  subscriptionId : Option UInt32
  correlationData : Option Bytes
  responseTopic : Option String
  messageExpiryInterval : Option UInt32
  userProperties : HashMap String String
  deriving DecidableEq

namespace MqttMessage

/-- A message with the required fields only. -/
def simple (topic : String) (qos : QoS) (retain : Bool) (payload : Bytes) : MqttMessage where
  topic := topic
  qos := qos
  retain := retain
  payload := payload
  contentType := none
  subscriptionId := none
  correlationData := none
  responseTopic := none
  messageExpiryInterval := none
  userProperties := ∅

/-- The copy of a message that goes out for subscription `id`. -/
def tagged (m : MqttMessage) (id : UInt32) : MqttMessage :=
  { m with subscriptionId := some id }

@[simp] theorem tagged_subscriptionId (m : MqttMessage) (id : UInt32) :
    (m.tagged id).subscriptionId = some id := rfl

end MqttMessage

end StingerMqtt

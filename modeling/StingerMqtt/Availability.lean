import StingerMqtt.Kit.Panic
import StingerMqtt.Message

/-!
# Availability messages (`availability_trait.rs`, `concrete.rs`)

The trait `AvailabilityHelper` with its provided methods, and the helper
`GenericAvailability`. The JSON and JSONPath libraries are a parameter.
-/

namespace StingerMqtt

open Kit

/-- What a JSONPath finds in a value. -/
inductive JsonPathValue (Value : Type) where
  | slice (value : Value) (path : String)
  | newValue (value : Value)
  | noValue

/-- The functions of the JSON libraries the helpers call. -/
structure JsonLibrary where
  Value : Type
  JsonPath : Type
  fromSlice : Bytes → Option Value
  asBool : Value → Option Bool
  fromStr : String → Option JsonPath
  findSlice : JsonPath → Value → List (JsonPathValue Value)

variable (J : JsonLibrary)

/-- The trait `AvailabilityHelper`: its required methods. Intervals are in
nanoseconds. -/
structure AvailabilityHelper where
  getClientOnlineMessage : MqttMessage
  getClientOfflineMessage : MqttMessage
  getOnlineJsonPath : Outcome J.JsonPath
  getRepublishInterval : Option Nat

namespace AvailabilityHelper

variable {J} (helper : AvailabilityHelper J)

/-- `get_client_online_topic`. -/
def getClientOnlineTopic : String := helper.getClientOnlineMessage.topic

/-- Whether something a path found is the boolean `true`. -/
def isTrueSlice : JsonPathValue J.Value → Bool
  | .slice value _ => J.asBool value == some true
  | _ => false

/-- `client_is_online`. -/
def clientIsOnline (msg : MqttMessage) : Outcome Bool :=
  helper.getOnlineJsonPath.map fun path =>
    match J.fromSlice msg.payload with
    | none => false
    | some value => (J.findSlice path value).any isTrueSlice

end AvailabilityHelper

/-- `GenericAvailability`. -/
structure GenericAvailability where
  onlineMessage : MqttMessage
  offlineMessage : MqttMessage
  republishInterval : Option Nat

namespace GenericAvailability

/-- The payload of a report. -/
def payload : Bool → Bytes
  | true => Bytes.ofString "\x7b\"online\":true\x7d"
  | false => Bytes.ofString "\x7b\"online\":false\x7d"

/-- `GenericAvailability::new`. -/
def new (clientId : String) : GenericAvailability where
  onlineMessage := .simple ("system/" ++ clientId) .atLeastOnce true (payload true)
  offlineMessage := .simple ("system/" ++ clientId) .atLeastOnce true (payload false)
  republishInterval := none

/-- `impl AvailabilityHelper for GenericAvailability`. -/
def helper (availability : GenericAvailability) : AvailabilityHelper J where
  getClientOnlineMessage := availability.onlineMessage
  getClientOfflineMessage := availability.offlineMessage
  getOnlineJsonPath :=
    match J.fromStr "$.online" with
    | some path => .returned path
    | none => .panicked
  getRepublishInterval := availability.republishInterval

/-- The message that reports a client online or offline. -/
def report (clientId : String) (online : Bool) : MqttMessage :=
  if online then (new clientId).onlineMessage else (new clientId).offlineMessage

@[simp] theorem report_topic (clientId : String) (online : Bool) :
    (report clientId online).topic = "system/" ++ clientId := by
  cases online <;> rfl

@[simp] theorem report_retain (clientId : String) (online : Bool) :
    (report clientId online).retain = true := by
  cases online <;> rfl

@[simp] theorem report_payload (clientId : String) (online : Bool) :
    (report clientId online).payload = payload online := by
  cases online <;> rfl

end GenericAvailability

/-- What is assumed of the JSON libraries: the path `$.online` parses, both
payloads parse, and the path selects exactly their boolean. -/
structure JsonLibrary.SelectsOnline : Prop where
  selects : ∃ path, J.fromStr "$.online" = some path ∧ ∀ online, ∃ value found at',
    J.fromSlice (GenericAvailability.payload online) = some value ∧
      J.findSlice path value = [.slice found at'] ∧ J.asBool found = some online

namespace GenericAvailability

/-- Every helper reads off a report what it reports. -/
theorem clientIsOnline_payload (hJ : J.SelectsOnline) (availability : GenericAvailability)
    {msg : MqttMessage} {online : Bool} (hpayload : msg.payload = payload online) :
    (availability.helper J).clientIsOnline msg = .returned online := by
  obtain ⟨path, hpath, hselect⟩ := hJ.selects
  obtain ⟨value, found, at', hparse, hfind, hbool⟩ := hselect online
  have hhelper : (availability.helper J).getOnlineJsonPath = .returned path := by
    unfold helper
    rw [hpath]
  unfold AvailabilityHelper.clientIsOnline
  rw [hhelper, hpayload]
  show Outcome.returned (match J.fromSlice (payload online) with
    | none => false
    | some value => (J.findSlice path value).any AvailabilityHelper.isTrueSlice) = _
  rw [hparse]
  show Outcome.returned ((J.findSlice path value).any AvailabilityHelper.isTrueSlice) = _
  rw [hfind]
  cases online <;> simp [AvailabilityHelper.isTrueSlice, hbool]

end GenericAvailability

end StingerMqtt

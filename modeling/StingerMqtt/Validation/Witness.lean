import StingerMqtt.Kit.TSys
import StingerMqtt.Message

/-!
# The witness client (`validation/witness.rs`)

`WitnessClient`, which captures what the broker delivers to it, and
`verify_publish`, which publishes and waits until the witness has captured the
message. Any number of calls of `verify_publish` share one witness. A step is
one section under the witness's mutex, one publish, or one delivery; no section
panics, so the mutex is never poisoned. Timestamps and the list of subscribed
topics are left out, nothing reads them.
-/

namespace StingerMqtt

open Kit

/-- The quality of service levels of `rumqttc`. -/
inductive RumqttcQoS where
  | atMostOnce
  | atLeastOnce
  | exactlyOnce
  deriving DecidableEq, Repr

/-- The conversion in `verify_publish`. -/
def QoS.toRumqttc : QoS → RumqttcQoS
  | .atMostOnce => .atMostOnce
  | .atLeastOnce => .atLeastOnce
  | .exactlyOnce => .exactlyOnce

/-- The conversion in the capture loop. -/
def RumqttcQoS.toQoS : RumqttcQoS → QoS
  | .atMostOnce => .atMostOnce
  | .atLeastOnce => .atLeastOnce
  | .exactlyOnce => .exactlyOnce

/-- A publish packet. Publishers hand over the topic as a string, so the lossy
conversion from its bytes gives the string back. -/
structure Publish where
  topic : String
  payload : Bytes
  qos : RumqttcQoS
  retain : Bool
  deriving DecidableEq

/-- `CapturedMessage`. -/
structure CapturedMessage where
  topic : String
  payload : Bytes
  qos : QoS
  retain : Bool
  deriving DecidableEq

/-- `WitnessClient`: what its mutex guards. -/
structure WitnessClient where
  receivedMessages : List CapturedMessage

namespace WitnessClient

/-- The arm of the capture loop for an incoming publish packet. -/
def capture (witness : WitnessClient) (publish : Publish) : WitnessClient where
  receivedMessages := witness.receivedMessages ++
    [⟨publish.topic, publish.payload, publish.qos.toQoS, publish.retain⟩]

/-- `get_messages_for_topic`. -/
def getMessagesForTopic (witness : WitnessClient) (topic : String) : List CapturedMessage :=
  witness.receivedMessages.filter fun msg => msg.topic = topic

/-- `clear`. -/
def clear (_witness : WitnessClient) : WitnessClient where
  receivedMessages := []

/-- One round of the loop of `wait_for_payload`; `late` is whether the time is
up. The loop sleeps and goes on if there is no answer. -/
def pollPayload (witness : WitnessClient) (topic : String) (expectedPayload : Bytes)
    (late : Bool) : Option (Except String CapturedMessage) :=
  let messages := witness.getMessagesForTopic topic
  match messages.find? fun m => m.payload = expectedPayload with
  | some msg => some (.ok msg)
  | none =>
    if late then
      some (.error ("Timeout waiting for payload on '" ++ topic ++ "'. Received " ++
        toString messages.length ++ " messages"))
    else none

end WitnessClient

/-! ## Calls of `verify_publish` -/

/-- The number of a published packet, in the order of publishing. -/
abbrev PacketId : Type := Nat

/-- The number of a call of `verify_publish`. -/
abbrev VerifyId : Type := Nat

/-- What a call is given, besides the publisher and the witness. -/
structure VerifyArgs where
  topic : String
  payload : Bytes
  qos : QoS

/-- The packet a call publishes. -/
def VerifyArgs.publish (args : VerifyArgs) : Publish :=
  ⟨args.topic, args.payload, args.qos.toRumqttc, false⟩

/-- Where a call is. -/
inductive VerifyPc where
  | clearing
  | publishing
  | waiting (packet : PacketId)
  | sleeping (packet : PacketId)
  | returned (result : Except String Unit)

/-- The witness, all packets published so far, and the calls. -/
structure Verification where
  witness : WitnessClient
  packets : List Publish
  pcs : VerifyId → VerifyPc

/-- What can happen. -/
inductive VerifyLabel where
  | clear (call : VerifyId)
  | publish (call : VerifyId) (packet : PacketId)
  | publishFailed (call : VerifyId) (error : String)
  | poll (call : VerifyId) (late : Bool)
  | giveUp (call : VerifyId)
  | other (publish : Publish)
  | capture (packet : PacketId) (qos : RumqttcQoS) (retain : Bool)
  deriving DecidableEq

namespace Verification

/-- Nobody has published or called. -/
def new : Verification where
  witness := ⟨[]⟩
  packets := []
  pcs _ := .clearing

variable (args : VerifyId → VerifyArgs) (cfg : Verification)

/-- Call `n` goes on at `pc`. -/
def goto (n : VerifyId) (pc : VerifyPc) : Verification :=
  { cfg with pcs := Function.update cfg.pcs n pc }

/-- Call `n`, whose packet has the number `packet`, looks for its message. -/
def poll (n : VerifyId) (packet : PacketId) (late : Bool) : Verification :=
  match cfg.witness.pollPayload (args n).topic (args n).payload late with
  | some result => cfg.goto n (.returned (result.map fun _ => ()))
  | none => cfg.goto n (.sleeping packet)

/-- What the configuration becomes; `none` if that cannot happen in it. -/
def advance : VerifyLabel → Option Verification
  | .clear n =>
    match cfg.pcs n with
    | .clearing => some ({ cfg with witness := cfg.witness.clear }.goto n .publishing)
    | _ => none
  | .publish n packet =>
    match cfg.pcs n with
    | .publishing =>
      if packet = cfg.packets.length then
        some ({ cfg with packets := cfg.packets ++ [(args n).publish] }.goto n (.waiting packet))
      else none
    | _ => none
  | .publishFailed n error =>
    match cfg.pcs n with
    | .publishing => some (cfg.goto n (.returned (.error ("Failed to publish: " ++ error))))
    | _ => none
  | .poll n late =>
    match cfg.pcs n with
    | .waiting packet | .sleeping packet => some (cfg.poll args n packet late)
    | _ => none
  | .giveUp n =>
    -- the outer timeout looks at the clock only when the loop sleeps
    match cfg.pcs n with
    | .sleeping _ =>
      some (cfg.goto n (.returned (.error "Timeout waiting for message verification")))
    | _ => none
  | .other publish => some { cfg with packets := cfg.packets ++ [publish] }
  | .capture packet qos retain =>
    -- the broker delivers what was published, whenever and as often as it likes
    match cfg.packets[packet]? with
    | some publish =>
      some { cfg with witness := cfg.witness.capture { publish with qos := qos, retain := retain } }
    | none => none

end Verification

/-- Calls of `verify_publish` with the arguments `args` on one witness, with a
broker and other publishers. -/
def verification (args : VerifyId → VerifyArgs) : TSys Verification VerifyLabel where
  init cfg := cfg = .new
  step cfg l cfg' := cfg.advance args l = some cfg'

/-- A run of `verification` from its list of steps. -/
theorem Verification.runAll_trace (args : VerifyId → VerifyArgs) (tr : List VerifyLabel)
    {cfg : Verification} (h : TSys.runAll (advance args) .new tr = some cfg) :
    (verification args).Trace tr cfg :=
  ⟨.new, rfl, TSys.runAll_run (fun _ _ _ hstep => hstep) h⟩

end StingerMqtt

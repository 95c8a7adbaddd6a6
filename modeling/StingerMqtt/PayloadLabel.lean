import StingerMqtt.MessageBuilder

/-!
# The label of a payload

`object_payload` sets the payload and labels it `application/json`; the setter
of the payload sets the payload only. So the label stays when a payload of
another kind replaces the one it was set for.
-/

namespace StingerMqtt

open Kit MqttMessageBuilder

variable {J : SerdeJson}

/-- The payload of the last `object_payload` that succeeded. -/
def lastJson (calls : List (BuilderCall J)) : Option Bytes :=
  lastValue BuilderCall.jsonPayload calls

/-- The payload last set by its setter since then. -/
def lastPlain (calls : List (BuilderCall J)) : Option Bytes :=
  lastValue (BuilderCall.setter .payload) (since BuilderCall.jsonPayload calls)

/-- The message is labelled as JSON if and only if its payload is the one of the
last `object_payload`. -/
def Labelled (calls : List (BuilderCall J)) (m : MqttMessage) : Prop :=
  m.contentType = some "application/json" ↔ lastJson calls = some m.payload

theorem lastSet_payload (calls : List (BuilderCall J)) :
    lastSet .payload calls = (lastPlain calls).or (lastJson calls) :=
  lastValue_or (BuilderCall.setter .payload) BuilderCall.jsonPayload calls

theorem setter_eq_none {f : MessageField} {calls : List (BuilderCall J)}
    (hf : ∀ v, .set f v ∉ calls) {c : BuilderCall J} (hc : c ∈ calls) : c.setter f = none := by
  cases c with
  | set g v =>
      have hg : g ≠ f := by
        rintro rfl
        exact hf v hc
      simp [BuilderCall.setter, hg]
  | userProperty key value => rfl
  | objectPayload obj => rfl
  | build => rfl

theorem lastSet_contentType {calls : List (BuilderCall J)}
    (hlabel : ∀ v, .set .contentType v ∉ calls) :
    lastSet .contentType calls = (lastJson calls).map fun _ => some "application/json" := by
  rw [lastJson, ← lastValue_map]
  apply lastValue_congr
  intro c hc
  rw [BuilderCall.sets, setter_eq_none hlabel hc, Option.or_none]
  rfl

theorem contentType_built {D : DerivedBuilder} {calls : List (BuilderCall J)} {m : MqttMessage}
    (hlabel : ∀ v, .set .contentType v ∉ calls) (hm : build D (run D calls) = .ok m) :
    m.contentType = (lastJson calls).map fun _ => "application/json" := by
  have h := (build_ok_iff _ m).mp hm .contentType
  rw [stored_run (by decide), lastSet_contentType hlabel] at h
  cases hjson : lastJson calls with
  | none =>
      rw [hjson] at h
      exact (Option.some.inj h).symm
  | some bytes =>
      rw [hjson] at h
      exact (Option.some.inj h).symm

theorem payload_built {D : DerivedBuilder} {calls : List (BuilderCall J)} {m : MqttMessage}
    (hm : build D (run D calls) = .ok m) :
    some m.payload = (lastPlain calls).or (lastJson calls) := by
  have h := (build_ok_iff _ m).mp hm .payload
  rw [show MessageField.payload.default = none from rfl, Option.or_none] at h
  rw [← lastSet_payload, ← stored_run (by decide), h]
  rfl

/-- As long as nobody sets the content type, a message is labelled as JSON if an
`object_payload` succeeded before it was built. Its payload is the one of the
last of them, or the one set since then; so the label is right if and only if no
`object_payload` succeeded, or no payload was set since, or the same bytes. -/
theorem payload_label (D : DerivedBuilder) {calls before after : List (BuilderCall J)}
    {m : MqttMessage} (hlabel : ∀ v, .set .contentType v ∉ calls)
    (hcalls : calls = before ++ .build :: after) (hm : build D (run D before) = .ok m) :
    m.contentType = ((lastJson before).map fun _ => "application/json") ∧
    some m.payload = (lastPlain before).or (lastJson before) ∧
    (Labelled before m ↔
      lastJson before = none ∨ lastPlain before = none ∨ lastPlain before = lastJson before) := by
  have hbefore : ∀ v, .set .contentType v ∉ before := by
    intro v hv
    apply hlabel v
    rw [hcalls]
    exact List.mem_append_left _ hv
  have hcontent := contentType_built hbefore hm
  have hpayload := payload_built hm
  refine ⟨hcontent, hpayload, ?_⟩
  rw [Labelled, hcontent]
  cases hjson : lastJson before with
  | none => simp
  | some bytes =>
      rw [hjson] at hpayload
      rw [hpayload]
      cases hplain : lastPlain before <;> simp [eq_comm]

/-- The calls for a boolean as JSON, and those of `rest` before the build. -/
def boolCalls (value : Bool) (rest : List (BuilderCall .bool)) : List (BuilderCall .bool) :=
  [.set .topic "sensor/door", .set .qos .atLeastOnce, .set .retain false,
    .objectPayload value] ++ rest

theorem payload_label_bool :
    ∃ m, build plainBuilder (run plainBuilder (boolCalls true [])) = .ok m ∧
      Labelled (boolCalls true []) m := by
  obtain ⟨m, hm⟩ : ∃ m, build plainBuilder (run plainBuilder (boolCalls true [])) = .ok m :=
    ⟨_, rfl⟩
  have hlabel : ∀ v, .set .contentType v ∉ boolCalls true [.build] := by
    simp [boolCalls]
  obtain ⟨-, -, hlabelled⟩ := payload_label plainBuilder hlabel rfl hm
  exact ⟨m, hm, hlabelled.mpr (.inr (.inl rfl))⟩

/-- A payload set after an `object_payload` keeps its label. -/
theorem payload_mislabelled :
    ¬ ∀ (calls before after : List (BuilderCall .bool)) (m : MqttMessage),
      (∀ v, .set .contentType v ∉ calls) → calls = before ++ .build :: after →
        build plainBuilder (run plainBuilder before) = .ok m → Labelled before m := by
  intro hall
  obtain ⟨m, hm⟩ :
      ∃ m, build plainBuilder (run plainBuilder (boolCalls true [.set .payload [1]])) = .ok m :=
    ⟨_, rfl⟩
  have hlabelled := hall (boolCalls true [.set .payload [1], .build]) _ [] m (by simp [boolCalls])
    rfl hm
  obtain rfl := Except.ok.inj hm
  have hjson := hlabelled.mp rfl
  revert hjson
  decide

end StingerMqtt

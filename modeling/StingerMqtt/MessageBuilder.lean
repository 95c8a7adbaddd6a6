import StingerMqtt.Message
import StingerMqtt.Kit.Builder

/-!
# The message builder (`message.rs`)

`MqttMessageBuilder` is derived from `MqttMessage`; `object_payload` and
`user_property` are written by hand over the derived setters. After any calls a
field holds what was last stored in it, and a key of the user properties what
it was last given.
-/

namespace StingerMqtt

open Kit

/-- The fields of a message. -/
inductive MessageField where
  | topic
  | qos
  | retain
  | payload
  | contentType
  | subscriptionId
  | correlationData
  | responseTopic
  | messageExpiryInterval
  | userProperties
  deriving DecidableEq, Repr

namespace MessageField

@[reducible] def Value : MessageField → Type
  | topic => String
  | qos => QoS
  | retain => Bool
  | payload => Bytes
  | contentType => Option String
  | subscriptionId => Option UInt32
  | correlationData => Option Bytes
  | responseTopic => Option String
  | messageExpiryInterval => Option UInt32
  | userProperties => HashMap String String

/-- `#[builder(default)]` -/
def default : ∀ f : MessageField, Option f.Value
  | topic | qos | retain | payload => none
  | contentType => some none
  | subscriptionId => some none
  | correlationData => some none
  | responseTopic => some none
  | messageExpiryInterval => some none
  | userProperties => some ∅

def all : List MessageField :=
  [topic, qos, retain, payload, contentType, subscriptionId, correlationData, responseTopic,
    messageExpiryInterval, userProperties]

theorem mem_all (f : MessageField) : f ∈ all := by
  cases f <;> simp [all]

/-- The fields without a default. -/
def required : List MessageField := [topic, qos, retain, payload]

theorem default_eq_none_iff (f : MessageField) : f.default = none ↔ f ∈ required := by
  cases f <;> simp [default, required]

end MessageField

namespace MqttMessage

def ofFields (values : ∀ f : MessageField, f.Value) : MqttMessage where
  topic := values .topic
  qos := values .qos
  retain := values .retain
  payload := values .payload
  contentType := values .contentType
  subscriptionId := values .subscriptionId
  correlationData := values .correlationData
  responseTopic := values .responseTopic
  messageExpiryInterval := values .messageExpiryInterval
  userProperties := values .userProperties

def get (m : MqttMessage) : ∀ f : MessageField, f.Value
  | .topic => m.topic
  | .qos => m.qos
  | .retain => m.retain
  | .payload => m.payload
  | .contentType => m.contentType
  | .subscriptionId => m.subscriptionId
  | .correlationData => m.correlationData
  | .responseTopic => m.responseTopic
  | .messageExpiryInterval => m.messageExpiryInterval
  | .userProperties => m.userProperties

@[simp] theorem get_ofFields (values : ∀ f : MessageField, f.Value) :
    (ofFields values).get = values := by
  funext f
  cases f <;> rfl

end MqttMessage

/-- `serde_json::to_vec`, on values of any serialisable type. -/
structure SerdeJson where
  Object : Type
  Error : Type
  toVec : Object → Except Error Bytes

/-- `serde_json::to_vec` on booleans. -/
def SerdeJson.bool : SerdeJson where
  Object := Bool
  Error := Empty
  toVec value := .ok (Bytes.ofString (if value then "true" else "false"))

/-- What is derived from `MqttMessage`. -/
abbrev DerivedBuilder : Type 1 :=
  DeriveBuilder MessageField MessageField.Value MessageField.default

/-- A derived builder that is nothing but its slots. -/
def plainBuilder : DerivedBuilder := .slots MessageField.all MessageField.mem_all

/-- A call on a builder: a derived setter, one of the two written by hand, or a
build. -/
inductive BuilderCall (J : SerdeJson) where
  | set (f : MessageField) (v : f.Value)
  | userProperty (key value : String)
  | objectPayload (obj : J.Object)
  | build

namespace MqttMessageBuilder

variable (D : DerivedBuilder) {J : SerdeJson}

/-- Serialise an object, and set the payload and its content type. -/
def objectPayload (obj : J.Object) (b : D.Builder) : Except J.Error Unit × D.Builder :=
  match J.toVec obj with
  | .error e => (.error e, b)
  | .ok jsonPayload =>
    let b := D.set .payload jsonPayload b
    let b := D.set .contentType (some "application/json") b
    (.ok (), b)

/-- Add one property to those in the slot. -/
def userProperty (key value : String) (b : D.Builder) : D.Builder :=
  -- `take` leaves the slot empty, the setter fills it again
  let props := (D.stored b .userProperties).getD ∅
  let b := D.take .userProperties b
  D.set .userProperties (props.insert key value) b

def build (b : D.Builder) : Except D.BuildError MqttMessage :=
  (D.build b).map MqttMessage.ofFields

def exec (b : D.Builder) : BuilderCall J → D.Builder
  | .set f v => D.set f v b
  | .userProperty key value => userProperty D key value b
  | .objectPayload obj => (objectPayload D obj b).2
  | .build => b

/-- A fresh builder after the calls. -/
def run (calls : List (BuilderCall J)) : D.Builder :=
  calls.foldl (exec D) D.default

end MqttMessageBuilder

/-! ## What a call stores -/

namespace BuilderCall

variable {J : SerdeJson}

/-- The payload that a successful `object_payload` makes. -/
def jsonPayload : BuilderCall J → Option Bytes
  | objectPayload obj => (J.toVec obj).toOption
  | _ => none

/-- The value a call of the setter of `f` stores. -/
def setter (f : MessageField) : BuilderCall J → Option f.Value
  | set g v => if h : g = f then some (h ▸ v) else none
  | _ => none

/-- The value an `object_payload` stores in `f`. -/
def objectSets (c : BuilderCall J) : ∀ f : MessageField, Option f.Value
  | .payload => c.jsonPayload
  | .contentType => c.jsonPayload.map fun _ => some "application/json"
  | _ => none

/-- The value a call stores in `f` whatever was there. -/
def sets (f : MessageField) (c : BuilderCall J) : Option f.Value :=
  (c.objectSets f).or (c.setter f)

/-- The value a call stores under one key of the user properties. -/
def property (key : String) : BuilderCall J → Option String
  | userProperty key' value => if key' = key then some value else none
  | _ => none

end BuilderCall

/-- The value last stored in `f` as a whole. -/
def lastSet {J : SerdeJson} (f : MessageField) (calls : List (BuilderCall J)) : Option f.Value :=
  lastValue (BuilderCall.sets f) calls

/-- The value last given to a key of the user properties since they were last
set as a whole. -/
def lastProperty {J : SerdeJson} (key : String) (calls : List (BuilderCall J)) : Option String :=
  lastValue (BuilderCall.property key) (since (BuilderCall.sets .userProperties) calls)

namespace MqttMessageBuilder

open BuilderCall

variable {D : DerivedBuilder} {J : SerdeJson}

/-- The user properties in the slot, none if it is empty. -/
def props (b : D.Builder) : HashMap String String :=
  (D.stored b .userProperties).getD ∅

theorem sets_set_self (f : MessageField) (v : f.Value) : (set (J := J) f v).sets f = some v := by
  cases f <;> simp [sets, objectSets, setter, jsonPayload]

theorem sets_set_of_ne {f g : MessageField} (h : g ≠ f) (v : g.Value) :
    (set (J := J) g v).sets f = none := by
  cases f <;> simp [sets, objectSets, setter, jsonPayload, h]

theorem stored_objectPayload (obj : J.Object) (b : D.Builder) (f : MessageField) :
    D.stored (objectPayload D obj b).2 f =
      ((BuilderCall.objectPayload obj).objectSets f).or (D.stored b f) := by
  cases h : J.toVec obj with
  | error e =>
      have hkept : (objectPayload D obj b).2 = b := by
        simp [MqttMessageBuilder.objectPayload, h]
      rw [hkept]
      cases f <;> simp [objectSets, jsonPayload, h, Except.toOption]
  | ok bytes =>
      have hset : (objectPayload D obj b).2 =
          D.set .contentType (some "application/json") (D.set .payload bytes b) := by
        simp [MqttMessageBuilder.objectPayload, h]
      rw [hset, D.stored_set, D.stored_set]
      cases f <;> simp [objectSets, jsonPayload, h, Except.toOption]

/-- The slot is empty only between `take` and the setter. -/
theorem stored_userProperty (key value : String) (b : D.Builder) :
    D.stored (userProperty D key value b) =
      Function.update (D.stored b) .userProperties (some ((props b).insert key value)) := by
  unfold MqttMessageBuilder.userProperty
  rw [D.stored_set, D.stored_take, Function.update_idem]
  rfl

/-- A field other than the user properties is stored as a whole or kept. -/
theorem stored_exec {f : MessageField} (hf : f ≠ .userProperties) (b : D.Builder)
    (c : BuilderCall J) : D.stored (exec D b c) f = (c.sets f).or (D.stored b f) := by
  cases c with
  | set g v =>
      show D.stored (D.set g v b) f = _
      by_cases h : g = f
      · subst h
        rw [DeriveBuilder.stored_set_self, sets_set_self, Option.some_or]
      · rw [DeriveBuilder.stored_set_of_ne (Ne.symm h), sets_set_of_ne h, Option.none_or]
  | userProperty key value =>
      show D.stored (userProperty D key value b) f = _
      rw [stored_userProperty, Function.update_of_ne hf]
      cases f <;> rfl
  | objectPayload obj =>
      show D.stored (objectPayload D obj b).2 f = _
      rw [stored_objectPayload]
      simp [sets, setter]
  | build => cases f <;> rfl

theorem props_exec_replaced {c : BuilderCall J} {m : HashMap String String}
    (h : c.sets .userProperties = some m) (b : D.Builder) : props (exec D b c) = m := by
  cases c with
  | set g v =>
      by_cases hg : g = .userProperties
      · subst hg
        rw [sets_set_self] at h
        obtain rfl := Option.some.inj h
        show (D.stored (D.set .userProperties v b) .userProperties).getD ∅ = v
        rw [DeriveBuilder.stored_set_self]
        rfl
      · rw [sets_set_of_ne hg] at h
        cases h
  | userProperty key value => cases h
  | objectPayload obj => cases h
  | build => cases h

theorem lookup_exec_kept {c : BuilderCall J} (h : c.sets .userProperties = none)
    (b : D.Builder) (key : String) :
    (props (exec D b c)).lookup key = (c.property key).or ((props b).lookup key) := by
  cases c with
  | set g v =>
      have hg : g ≠ .userProperties := by
        rintro rfl
        rw [sets_set_self] at h
        cases h
      show ((D.stored (D.set g v b) .userProperties).getD ∅).lookup key = _
      rw [DeriveBuilder.stored_set_of_ne hg.symm]
      rfl
  | userProperty key' value =>
      show ((D.stored (userProperty D key' value b) .userProperties).getD ∅).lookup key = _
      rw [stored_userProperty, Function.update_self]
      by_cases hkey : key' = key
      · subst hkey
        simp [property]
      · simp [property, hkey, AList.lookup_insert_ne (Ne.symm hkey)]
  | objectPayload obj =>
      show ((D.stored (objectPayload D obj b).2 .userProperties).getD ∅).lookup key = _
      rw [stored_objectPayload]
      rfl
  | build => rfl

/-! ## Any calls -/

theorem run_snoc (calls : List (BuilderCall J)) (c : BuilderCall J) :
    run D (calls ++ [c]) = exec D (run D calls) c := by
  simp [run]

theorem stored_run {f : MessageField} (hf : f ≠ .userProperties) (calls : List (BuilderCall J)) :
    D.stored (run D calls) f = lastSet f calls :=
  DeriveBuilder.stored_foldl (stored_exec hf) calls

theorem lookup_run (calls : List (BuilderCall J)) (key : String) :
    (props (run D calls)).lookup key =
      (lastProperty key calls).or (((lastSet .userProperties calls).getD ∅).lookup key) := by
  induction calls using List.reverseRecOn with
  | nil =>
      show ((D.stored D.default .userProperties).getD ∅).lookup key = _
      rw [D.stored_default]
      rfl
  | append_singleton calls c ih =>
      rw [run_snoc, lastProperty, lastSet, lastValue_snoc]
      cases h : c.sets .userProperties with
      | some m =>
          rw [props_exec_replaced h, since_snoc_some (by simp [h])]
          rfl
      | none =>
          rw [lookup_exec_kept h, ih, since_snoc_none h, lastValue_snoc, Option.none_or,
            Option.or_assoc]
          rfl

/-! ## The message built -/

theorem build_ok_iff (b : D.Builder) (m : MqttMessage) :
    build D b = .ok m ↔ ∀ f, (D.stored b f).or f.default = some (m.get f) := by
  rw [← D.build_ok_iff]
  unfold MqttMessageBuilder.build
  cases D.build b with
  | error e => simp [Except.map]
  | ok values =>
      constructor
      · intro h
        obtain rfl := Except.ok.inj h
        rw [MqttMessage.get_ofFields]
      · intro h
        obtain rfl := Except.ok.inj h
        rfl

theorem props_built {b : D.Builder} {m : MqttMessage} (hm : build D b = .ok m) :
    props b = m.userProperties := by
  have h := (build_ok_iff b m).mp hm .userProperties
  rw [show MessageField.userProperties.default = some ∅ from rfl, Option.or_some] at h
  exact Option.some.inj h

theorem exists_build_iff (b : D.Builder) :
    (∃ m, build D b = .ok m) ↔ ∀ f ∈ MessageField.required, (D.stored b f).isSome := by
  have hbuild : (∃ m, build D b = .ok m) ↔ ∃ values, D.build b = .ok values := by
    unfold MqttMessageBuilder.build
    cases D.build b <;> simp [Except.map]
  rw [hbuild, DeriveBuilder.exists_build_iff]
  simp only [MessageField.default_eq_none_iff]

theorem notMem_required {f : MessageField} (hf : f ∈ MessageField.required) :
    f ≠ .userProperties := by
  rintro rfl
  simp [MessageField.required] at hf

/-- After any calls a build succeeds if the required fields have been set. Then
every field is what was last stored in it, and a key of the user properties is
what it was given since they were last set, or what it was then. A failing
`object_payload` and a build change nothing. -/
theorem last_writer_wins (D : DerivedBuilder) (calls : List (BuilderCall J)) :
    ((∃ m, build D (run D calls) = .ok m) ↔
      ∀ f ∈ MessageField.required, ∃ c ∈ calls, (c.sets f).isSome) ∧
    (∀ m, build D (run D calls) = .ok m →
      (∀ f, f ≠ .userProperties → (lastSet f calls).or f.default = some (m.get f)) ∧
      ∀ key, m.userProperties.lookup key =
        (lastProperty key calls).or (((lastSet .userProperties calls).getD ∅).lookup key)) ∧
    (∀ obj e, J.toVec obj = .error e →
      run D (calls ++ [.objectPayload obj]) = run D calls) ∧
    run D (calls ++ [.build]) = run D calls := by
  refine ⟨?_, ?_, ?_, ?_⟩
  · rw [exists_build_iff]
    have hset : ∀ f ∈ MessageField.required,
        (D.stored (run D calls) f).isSome ↔ ∃ c ∈ calls, (c.sets f).isSome := by
      intro f hf
      rw [stored_run (notMem_required hf), lastSet, lastValue_isSome]
    constructor
    · intro h f hf
      exact (hset f hf).mp (h f hf)
    · intro h f hf
      exact (hset f hf).mpr (h f hf)
  · intro m hm
    constructor
    · intro f hf
      rw [← (build_ok_iff _ m).mp hm f, stored_run hf]
    · intro key
      rw [← props_built hm, lookup_run]
  · intro obj e he
    rw [run_snoc]
    show (objectPayload D obj (run D calls)).2 = run D calls
    simp [MqttMessageBuilder.objectPayload, he]
  · exact run_snoc calls .build

theorem last_writer_wins_bool :
    ∃ m, build plainBuilder (run plainBuilder (J := .bool)
      [.set .topic "a", .set .qos .atMostOnce, .userProperty "unit" "cm", .set .retain false,
        .set .userProperties ∅, .userProperty "unit" "m", .build, .objectPayload true]) = .ok m ∧
      m.payload = Bytes.ofString "true" ∧ m.userProperties.lookup "unit" = some "m" := by
  obtain ⟨hbuilds, hbuilt, -⟩ := last_writer_wins (J := .bool) plainBuilder
    [.set .topic "a", .set .qos .atMostOnce, .userProperty "unit" "cm", .set .retain false,
      .set .userProperties ∅, .userProperty "unit" "m", .build, .objectPayload true]
  obtain ⟨m, hm⟩ := hbuilds.mpr (by decide)
  obtain ⟨hfields, hprops⟩ := hbuilt m hm
  exact ⟨m, hm, (Option.some.inj (hfields .payload (by decide))).symm, hprops "unit"⟩

end MqttMessageBuilder

end StingerMqtt

import StingerMqtt.MessageBuilder

/-!
# Messages through builders

The setters of the fields of a message, called in any order and as often as one
likes, put these fields into what the builder makes next and leave the other
fields as they were. So a message comes back if its fields are set on a new
builder, or all of them on a used one.
-/

namespace StingerMqtt

open Kit MqttMessageBuilder

variable {D : DerivedBuilder} {J : SerdeJson}

/-- Calls of the setters of some fields with the values a message has there. -/
def settersOf (m : MqttMessage) (fields : List MessageField) : List (BuilderCall J) :=
  fields.map fun f => .set f (m.get f)

/-- The message with some fields taken from another. -/
def MqttMessage.overlay (m₀ m : MqttMessage) (fields : List MessageField) : MqttMessage :=
  .ofFields fun f => if f ∈ fields then m.get f else m₀.get f

theorem MqttMessage.overlay_get (m₀ m : MqttMessage) (fields : List MessageField)
    (f : MessageField) :
    (m₀.overlay m fields).get f = if f ∈ fields then m.get f else m₀.get f := by
  unfold overlay
  rw [get_ofFields]

theorem run_append (calls calls' : List (BuilderCall J)) :
    run D (calls ++ calls') = calls'.foldl (exec D) (run D calls) := by
  unfold run
  rw [List.foldl_append]

/-- What is in the slots after the setters. -/
theorem stored_settersOf (b : D.Builder) (m : MqttMessage) (fields : List MessageField)
    (f : MessageField) :
    D.stored ((settersOf (J := J) m fields).foldl (exec D) b) f =
      if f ∈ fields then some (m.get f) else D.stored b f := by
  induction fields using List.reverseRecOn with
  | nil => simp [settersOf]
  | append_singleton fields g ih =>
      have hsnoc : (settersOf (J := J) m (fields ++ [g])).foldl (exec D) b =
          D.set g (m.get g) ((settersOf (J := J) m fields).foldl (exec D) b) := by
        unfold settersOf
        rw [List.map_append, List.foldl_append]
        rfl
      rw [hsnoc]
      by_cases hg : f = g
      · subst hg
        rw [DeriveBuilder.stored_set_self, if_pos (by simp)]
      · rw [DeriveBuilder.stored_set_of_ne hg, ih]
        simp [hg]

/-- A builder makes a message after some of its setters if and only if the slots
of the other fields already had what the message has. -/
theorem build_settersOf_iff (calls : List (BuilderCall J)) (m m' : MqttMessage)
    (fields : List MessageField) :
    build D (run D (calls ++ settersOf m fields)) = .ok m' ↔
      (∀ f ∈ fields, m'.get f = m.get f) ∧
      ∀ f ∉ fields, (D.stored (run D calls) f).or f.default = some (m'.get f) := by
  rw [build_ok_iff, run_append]
  have hfield : ∀ f, (D.stored ((settersOf (J := J) m fields).foldl (exec D) (run D calls)) f).or
      f.default = some (m'.get f) ↔
        (f ∈ fields → m'.get f = m.get f) ∧
        (f ∉ fields → (D.stored (run D calls) f).or f.default = some (m'.get f)) := by
    intro f
    rw [stored_settersOf]
    by_cases hf : f ∈ fields
    · simp [hf, eq_comm]
    · simp [hf]
  constructor
  · intro h
    exact ⟨fun f => ((hfield f).mp (h f)).1, fun f => ((hfield f).mp (h f)).2⟩
  · intro ⟨hset, hkept⟩ f
    exact (hfield f).mpr ⟨hset f, hkept f⟩

/-- The setters of the fields of a message, in any order and any number of
times: on a new builder they make the message if the fields left out have their
defaults; on a builder that makes another message they put these fields into it;
and the setters of all fields make the message whatever was called before. -/
theorem builder_round_trip (D : DerivedBuilder) (m : MqttMessage) (fields : List MessageField) :
    (build D (run D (settersOf (J := J) m fields)) = .ok m ↔
      ∀ f ∉ fields, f.default = some (m.get f)) ∧
    (∀ (calls : List (BuilderCall J)) m₀, build D (run D calls) = .ok m₀ →
      build D (run D (calls ++ settersOf m fields)) = .ok (m₀.overlay m fields)) ∧
    ((∀ f, f ∈ fields) → ∀ calls : List (BuilderCall J),
      build D (run D (calls ++ settersOf m fields)) = .ok m) := by
  refine ⟨?_, ?_, ?_⟩
  · have hnew := build_settersOf_iff (D := D) (J := J) [] m m fields
    rw [List.nil_append] at hnew
    rw [hnew]
    have hempty : ∀ f, D.stored (run D ([] : List (BuilderCall J))) f = none := D.stored_default
    simp only [hempty, Option.none_or]
    exact ⟨fun h => h.2, fun h => ⟨fun _ _ => trivial, h⟩⟩
  · intro calls m₀ hbuilt
    have hslots := (build_ok_iff _ m₀).mp hbuilt
    refine (build_settersOf_iff calls m _ fields).mpr ⟨?_, ?_⟩
    · intro f hf
      rw [MqttMessage.overlay_get, if_pos hf]
    · intro f hf
      rw [MqttMessage.overlay_get, if_neg hf]
      exact hslots f
  · intro hall calls
    refine (build_settersOf_iff calls m m fields).mpr ⟨fun _ _ => rfl, ?_⟩
    intro f hf
    exact absurd (hall f) hf

/-- The four required setters make what `MqttMessage::simple` makes. -/
theorem builder_round_trip_simple :
    build plainBuilder (run plainBuilder (settersOf (J := .bool)
      (.simple "a/b" .exactlyOnce true [1]) [.payload, .topic, .retain, .qos])) =
        .ok (.simple "a/b" .exactlyOnce true [1]) := by
  refine (builder_round_trip plainBuilder _ _).1.mpr ?_
  intro f hf
  cases f <;> first | rfl | exact absurd (by decide) hf

end StingerMqtt

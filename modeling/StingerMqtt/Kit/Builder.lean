import Mathlib.Logic.Function.Basic
import Mathlib.Data.List.DropRight
import Mathlib.Data.List.Induction

/-!
# Builders with one slot a field, and the last value given

`DeriveBuilder F V default?` is what a program may rely on of a derived builder
of records with fields `F`: every field has a slot, a setter fills it, `build`
reads the slots and takes the default of a field whose slot is empty.
`lastValue give ls` is the value the last label of a history gave, `since` the
labels behind that one.
-/

namespace Kit

variable {F L : Type}

/-! ## The last value given -/

section LastValue

variable {α : Type} (give : L → Option α)

/-- The value that the last of the labels `ls` to give one gave. -/
def lastValue (ls : List L) : Option α :=
  (ls.filterMap give).getLast?

/-- The labels behind the last one that gave a value. -/
def since (ls : List L) : List L :=
  ls.rtakeWhile fun l => (give l).isNone

@[simp] theorem lastValue_nil : lastValue give [] = none := rfl

@[simp] theorem lastValue_snoc (ls : List L) (l : L) :
    lastValue give (ls ++ [l]) = (give l).or (lastValue give ls) := by
  cases h : give l <;> simp [lastValue, h]

variable {give}

theorem since_snoc_some {l : L} (h : (give l).isSome) (ls : List L) :
    since give (ls ++ [l]) = [] := by
  apply List.rtakeWhile_concat_neg
  simp [Option.isSome_iff_ne_none.mp h]

theorem since_snoc_none {l : L} (h : give l = none) (ls : List L) :
    since give (ls ++ [l]) = since give ls ++ [l] := by
  apply List.rtakeWhile_concat_pos
  simp [h]

theorem since_append_none {ls ls' : List L} (h : ∀ l ∈ ls', give l = none) :
    since give (ls ++ ls') = since give ls ++ ls' := by
  induction ls' using List.reverseRecOn with
  | nil => simp
  | append_singleton init l ih =>
      have hinit : ∀ l ∈ init, give l = none := fun l hl => h l (List.mem_append_left _ hl)
      rw [← List.append_assoc, since_snoc_none (h l (by simp)), ih hinit, List.append_assoc]

theorem lastValue_isSome {ls : List L} :
    (lastValue give ls).isSome ↔ ∃ l ∈ ls, (give l).isSome := by
  induction ls using List.reverseRecOn with
  | nil => simp
  | append_singleton ls l ih => simp [ih, or_comm]

theorem lastValue_congr {give' : L → Option α} {ls : List L} (h : ∀ l ∈ ls, give l = give' l) :
    lastValue give ls = lastValue give' ls := by
  unfold lastValue
  rw [List.filterMap_congr h]

theorem lastValue_map {β : Type} (g : α → β) (ls : List L) :
    lastValue (fun l => (give l).map g) ls = (lastValue give ls).map g := by
  induction ls using List.reverseRecOn with
  | nil => rfl
  | append_singleton ls l ih => rw [lastValue_snoc, lastValue_snoc, ih, Option.map_or]

theorem lastValue_append (ls ls' : List L) :
    lastValue give (ls ++ ls') = (lastValue give ls').or (lastValue give ls) := by
  unfold lastValue
  rw [List.filterMap_append, List.getLast?_append]

theorem lastValue_eq_none {ls : List L} (h : ∀ l ∈ ls, give l = none) :
    lastValue give ls = none := by
  rw [← Option.not_isSome_iff_eq_none, lastValue_isSome]
  intro ⟨l, hl, hsome⟩
  rw [h l hl] at hsome
  cases hsome

/-- If all values given are the same, that is the last one. -/
theorem lastValue_eq_some {ls : List L} {l : L} {v : α} (hl : l ∈ ls) (hv : give l = some v)
    (hsame : ∀ l' ∈ ls, ∀ v', give l' = some v' → v' = v) : lastValue give ls = some v := by
  have hsome : (lastValue give ls).isSome := lastValue_isSome.mpr ⟨l, hl, by simp [hv]⟩
  obtain ⟨v', hv'⟩ := Option.isSome_iff_exists.mp hsome
  obtain ⟨l', hl', hgive⟩ := List.mem_filterMap.mp (List.mem_of_getLast? hv')
  rw [hv', hsame l' hl' v' hgive]

/-- Of two ways to give a value the last one counts: the first one as far as it
was used behind the last use of the second. -/
theorem lastValue_or (give give' : L → Option α) (ls : List L) :
    lastValue (fun l => (give' l).or (give l)) ls =
      (lastValue give (since give' ls)).or (lastValue give' ls) := by
  induction ls using List.reverseRecOn with
  | nil => rfl
  | append_singleton ls l ih =>
      rw [lastValue_snoc, lastValue_snoc, ih]
      cases h : give' l with
      | some v =>
          have hsome : (give' l).isSome := by simp [h]
          rw [since_snoc_some hsome]
          simp
      | none => simp [since_snoc_none h, Option.or_assoc]

end LastValue

/-! ## Builders -/

/-- A builder of records with fields `F`. `stored` is the slot of a field. -/
structure DeriveBuilder (F : Type) [DecidableEq F] (V : F → Type)
    (default? : ∀ f, Option (V f)) where
  Builder : Type
  BuildError : Type
  default : Builder
  stored : Builder → ∀ f, Option (V f)
  set : (f : F) → V f → Builder → Builder
  /-- `Option::take` on the slot of a field. -/
  take : F → Builder → Builder
  build : Builder → Except BuildError (∀ f, V f)
  stored_default : ∀ f, stored default f = none
  stored_set : ∀ f v b, stored (set f v b) = Function.update (stored b) f (some v)
  stored_take : ∀ f b, stored (take f b) = Function.update (stored b) f none
  build_ok_iff : ∀ b values,
    build b = .ok values ↔ ∀ f, (stored b f).or (default? f) = some (values f)

namespace DeriveBuilder

variable [DecidableEq F] {V : F → Type} {default? : ∀ f, Option (V f)}

section

variable {D : DeriveBuilder F V default?}

attribute [simp] stored_default

@[simp] theorem stored_set_self (f : F) (v : V f) (b : D.Builder) :
    D.stored (D.set f v b) f = some v := by
  rw [D.stored_set, Function.update_self]

theorem stored_set_of_ne {f g : F} (h : g ≠ f) (v : V f) (b : D.Builder) :
    D.stored (D.set f v b) g = D.stored b g := by
  rw [D.stored_set, Function.update_of_ne h]

/-- A build succeeds if every field without a default is set. -/
theorem exists_build_iff (b : D.Builder) :
    (∃ values, D.build b = .ok values) ↔ ∀ f, default? f = none → (D.stored b f).isSome := by
  constructor
  · intro ⟨values, hbuild⟩ f hdefault
    have hvalue := (D.build_ok_iff b values).mp hbuild f
    rw [hdefault, Option.or_none] at hvalue
    simp [hvalue]
  · intro hset
    have hsome : ∀ f, ((D.stored b f).or (default? f)).isSome := by
      intro f
      cases hdefault : default? f with
      | none => simpa using hset f hdefault
      | some v => simp
    refine ⟨fun f => ((D.stored b f).or (default? f)).get (hsome f), ?_⟩
    rw [D.build_ok_iff]
    intro f
    simp

/-- If every step of a run fills the slot of `f` as `give` says and else leaves
it as it is, the slot holds the last value given. -/
theorem stored_foldl {exec : D.Builder → L → D.Builder} {f : F} {give : L → Option (V f)}
    (hexec : ∀ b l, D.stored (exec b l) f = (give l).or (D.stored b f)) (ls : List L) :
    D.stored (ls.foldl exec D.default) f = lastValue give ls := by
  induction ls using List.reverseRecOn with
  | nil => simp
  | append_singleton ls l ih =>
      rw [List.foldl_append, lastValue_snoc, ← ih]
      exact hexec _ l

end

/-- The builder that is its slots. A build that fails names the first field of
`fields` that is missing. -/
def slots (fields : List F) (hfields : ∀ f, f ∈ fields) : DeriveBuilder F V default? where
  Builder := ∀ f, Option (V f)
  BuildError := F
  default := fun _ => none
  stored := id
  set f v b := Function.update b f (some v)
  take f b := Function.update b f none
  build b :=
    match h : fields.find? fun f => ((b f).or (default? f)).isNone with
    | some f => .error f
    | none => .ok fun f => ((b f).or (default? f)).get (by
        simpa only [Bool.not_eq_true, Option.isNone_eq_false_iff]
          using List.find?_eq_none.mp h f (hfields f))
  stored_default _ := rfl
  stored_set _ _ _ := rfl
  stored_take _ _ := rfl
  build_ok_iff b values := by
    constructor
    · intro hbuild f
      split at hbuild
      · cases hbuild
      · obtain rfl := Except.ok.inj hbuild
        simp
    · intro hvalues
      split
      · next f hf =>
          have hmissing := List.find?_some hf
          have hvalue := hvalues f
          rw [id_eq] at hvalue
          rw [hvalue] at hmissing
          cases hmissing
      · congr 1
        funext f
        exact Option.get_of_eq_some _ (hvalues f)

end DeriveBuilder

end Kit

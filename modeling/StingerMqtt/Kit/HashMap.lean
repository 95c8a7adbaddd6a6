import Mathlib.Data.List.AList
import Mathlib.Data.List.Induction

/-!
# Hash maps with an arbitrary iteration order, and the last write to a key

`HashMap` is a finite map with unique keys. The order in which it is iterated
is not a function of its contents, so a loop over it takes an `IterOrder`.
`LastWrite` says of a history of labels, some of which write a key and some of
which clear the map, which value each key was given last.
-/

namespace Kit

/-- A finite map with unique keys. -/
abbrev HashMap (K V : Type) : Type := AList fun _ : K => V

/-- One entry of a map. -/
abbrev HashMap.Entry (K V : Type) : Type := Sigma fun _ : K => V

instance {K V : Type} [DecidableEq K] [DecidableEq V] : DecidableEq (HashMap K V) :=
  fun a b => decidable_of_iff (a.entries = b.entries) AList.ext_iff.symm

/-- An order in which the entries of a map are visited: each entry once. -/
structure IterOrder (K V : Type) where
  order : List (HashMap.Entry K V) → List (HashMap.Entry K V)
  perm : ∀ entries, (order entries).Perm entries

/-- The entries in the order they are stored. -/
def IterOrder.stored (K V : Type) : IterOrder K V := ⟨id, fun _ => .refl _⟩

/-! ## The last write -/

section LastWrite

variable {K V L : Type} (writes : L → Option (K × V)) (clears : L → Bool)

/-- In the history `ls` the last write to `k` since the last clear stored `v`. -/
def LastWrite (ls : List L) (k : K) (v : V) : Prop :=
  ∃ before l after, ls = before ++ l :: after ∧ writes l = some (k, v) ∧
    ∀ l' ∈ after, clears l' = false ∧ ∀ v', writes l' ≠ some (k, v')

variable {writes clears}

/-- A last write is a write. -/
theorem LastWrite.exists_mem {ls : List L} {k : K} {v : V} (h : LastWrite writes clears ls k v) :
    ∃ l ∈ ls, writes l = some (k, v) := by
  obtain ⟨before, l, after, rfl, hl, -⟩ := h
  exact ⟨l, by simp, hl⟩

theorem not_lastWrite_nil {k : K} {v : V} : ¬ LastWrite writes clears [] k v := by
  rintro ⟨before, l, after, h, _⟩
  simp at h

/-- How one more label changes the last write: it is the write itself, or it
neither writes the key nor clears. -/
theorem lastWrite_snoc {ls : List L} {l : L} {k : K} {v : V} :
    LastWrite writes clears (ls ++ [l]) k v ↔
      writes l = some (k, v) ∨
        (clears l = false ∧ (∀ v', writes l ≠ some (k, v')) ∧
          LastWrite writes clears ls k v) := by
  constructor
  · rintro ⟨before, w, after, hls, hw, hafter⟩
    rcases after.eq_nil_or_concat with rfl | ⟨after', l', rfl⟩
    · obtain ⟨-, hl⟩ := List.append_inj' hls rfl
      obtain rfl : l = w := by simpa using hl
      exact .inl hw
    · have hls' : ls ++ [l] = (before ++ w :: after') ++ [l'] := by
        simpa using hls
      obtain ⟨rfl, hl⟩ := List.append_inj' hls' rfl
      obtain rfl : l = l' := by simpa using hl
      have hlast := hafter l (by simp)
      exact .inr ⟨hlast.1, hlast.2, before, w, after', rfl, hw,
        fun x hx => hafter x (by simp [hx])⟩
  · rintro (hw | ⟨hclear, hkeep, before, w, after, rfl, hw, hafter⟩)
    · exact ⟨ls, l, [], rfl, hw, by simp⟩
    · refine ⟨before, w, after ++ [l], by simp, hw, ?_⟩
      intro x hx
      rcases List.mem_append.mp hx with hx | hx
      · exact hafter x hx
      · obtain rfl : x = l := by simpa using hx
        exact ⟨hclear, hkeep⟩

/-- After a write to the key the last one is that write or a later one. -/
theorem lastWrite_after {before after : List L} {l : L} {k : K} {v v' : V}
    (hw : writes l = some (k, v)) (h : LastWrite writes clears (before ++ l :: after) k v') :
    v' = v ∨ ∃ l' ∈ after, writes l' = some (k, v') := by
  induction after using List.reverseRecOn with
  | nil =>
      rcases lastWrite_snoc.mp h with hl | ⟨-, hkeep, -⟩
      · left
        rw [hw] at hl
        simpa using hl.symm
      · exact absurd hw (hkeep v)
  | append_singleton after l' ih =>
      rw [← List.cons_append, ← List.append_assoc] at h
      rcases lastWrite_snoc.mp h with hl | ⟨-, -, hlast⟩
      · exact .inr ⟨l', by simp, hl⟩
      · rcases ih hlast with heq | ⟨l'', hmem, hl''⟩
        · exact .inl heq
        · exact .inr ⟨l'', by simp [hmem], hl''⟩

/-- After a write to the key there is a last one as long as nothing clears. -/
theorem exists_lastWrite {before after : List L} {l : L} {k : K} {v : V}
    (hw : writes l = some (k, v)) (hclear : ∀ l' ∈ after, clears l' = false) :
    ∃ v', LastWrite writes clears (before ++ l :: after) k v' := by
  induction after using List.reverseRecOn with
  | nil => exact ⟨v, lastWrite_snoc.mpr (.inl hw)⟩
  | append_singleton after l' ih =>
      rw [← List.cons_append, ← List.append_assoc]
      by_cases hwrite : ∃ v', writes l' = some (k, v')
      · obtain ⟨v', hv'⟩ := hwrite
        exact ⟨v', lastWrite_snoc.mpr (.inl hv')⟩
      · obtain ⟨v', hlast⟩ := ih fun x hx => hclear x (by simp [hx])
        exact ⟨v', lastWrite_snoc.mpr (.inr ⟨hclear l' (by simp),
          fun v'' hv'' => hwrite ⟨v'', hv''⟩, hlast⟩)⟩

/-- After a clear there is no last write until the key is written again. -/
theorem not_lastWrite_after_clear {before after : List L} {l : L} {k : K}
    (hclear : clears l = true) (hapart : writes l = none)
    (hkeep : ∀ l' ∈ after, ∀ v, writes l' ≠ some (k, v)) (v : V) :
    ¬ LastWrite writes clears (before ++ l :: after) k v := by
  induction after using List.reverseRecOn with
  | nil =>
      intro h
      rcases lastWrite_snoc.mp h with hl | ⟨hl, -⟩
      · rw [hapart] at hl
        cases hl
      · rw [hclear] at hl
        cases hl
  | append_singleton after l' ih =>
      intro h
      rw [← List.cons_append, ← List.append_assoc] at h
      rcases lastWrite_snoc.mp h with hl | ⟨-, -, hlast⟩
      · exact hkeep l' (by simp) v hl
      · exact ih (fun x hx => hkeep x (by simp [hx])) hlast

/-- The effect of one label on a map. -/
def applyWrite [DecidableEq K] (writes : L → Option (K × V)) (clears : L → Bool)
    (m : HashMap K V) (l : L) : HashMap K V :=
  if clears l then ∅
  else match writes l with
    | some (k, v) => m.insert k v
    | none => m

theorem applyWrite_some [DecidableEq K] {m : HashMap K V} {l : L} {k : K} {v : V}
    (hclear : clears l = false) (hw : writes l = some (k, v)) :
    applyWrite writes clears m l = m.insert k v := by
  simp [applyWrite, hclear, hw]

theorem applyWrite_none [DecidableEq K] {m : HashMap K V} {l : L}
    (hclear : clears l = false) (hw : writes l = none) : applyWrite writes clears m l = m := by
  simp [applyWrite, hclear, hw]

/-- A map that holds the last writes still does after one more label, as long
as no label both writes and clears. -/
theorem lookup_applyWrite_iff [DecidableEq K]
    (hapart : ∀ l, clears l = true → writes l = none)
    {m : HashMap K V} {ls : List L} {l : L}
    (h : ∀ k v, m.lookup k = some v ↔ LastWrite writes clears ls k v) (k : K) (v : V) :
    (applyWrite writes clears m l).lookup k = some v ↔
      LastWrite writes clears (ls ++ [l]) k v := by
  rw [lastWrite_snoc]
  cases hclear : clears l with
  | true => simp [applyWrite, hclear, hapart l hclear]
  | false =>
      cases hw : writes l with
      | none => simp [applyWrite, hclear, hw, h]
      | some kv =>
          obtain ⟨k', v'⟩ := kv
          by_cases hk : k = k'
          · subst hk
            simp [applyWrite, hclear, hw]
          · simp [applyWrite, hclear, hw, AList.lookup_insert_ne hk, h, Ne.symm hk]

/-- What is at the key after the history `ls`, if `old` was there before: the
last value written, as far as `f` shows it, or still `old`. -/
structure Holds {W : Type} (writes : L → Option (K × V)) (f : V → W) (ls : List L) (k : K)
    (old now : Option W) : Prop where
  last : ∀ v, LastWrite writes (fun _ => false) ls k v → now = some (f v)
  kept : (∀ l ∈ ls, ∀ v, writes l ≠ some (k, v)) → now = old

variable {W : Type} {f : V → W} {ls : List L} {l : L} {k : K} {old now : Option W}

theorem Holds.nil : Holds writes f [] k old old where
  last _ h := absurd h not_lastWrite_nil
  kept _ := rfl

theorem Holds.write (v : V) (hw : writes l = some (k, v)) :
    Holds writes f (ls ++ [l]) k old (some (f v)) where
  last v' h := by
    rcases lastWrite_snoc.mp h with hl | ⟨-, hkeep, -⟩
    · rw [hw] at hl
      obtain rfl : v = v' := by simpa using hl
      rfl
    · exact absurd hw (hkeep v)
  kept h := absurd hw (h l (by simp) v)

theorem Holds.skip (h : Holds writes f ls k old now) (hw : ∀ v, writes l ≠ some (k, v)) :
    Holds writes f (ls ++ [l]) k old now where
  last v' hlast := by
    rcases lastWrite_snoc.mp hlast with hl | ⟨-, -, hlast⟩
    · exact absurd hl (hw v')
    · exact h.last v' hlast
  kept hnone := h.kept fun l' hl' => hnone l' (List.mem_append_left _ hl')

end LastWrite

end Kit

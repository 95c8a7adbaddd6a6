import Mathlib.Data.List.Pairwise

/-!
# Histories of calls

A history is a list of labels, each of which belongs to a call; some label
begins a call and some label ends it. Two calls that do not overlap have an
order in real time, and whatever picks labels out of the history in their order
respects it.
-/

namespace Kit

variable {Label Call Point : Type}

/-- How to read a history: the call of each label, and whether the label begins
or ends it. -/
structure Brackets (Label Call : Type) where
  call : Label → Call
  begins : Label → Prop
  ends : Label → Prop

namespace Brackets

variable (b : Brackets Label Call) (ls : List Label)

/-- No label of a call comes before the one that begins it or after the one that
ends it. -/
def WellNested : Prop :=
  ls.Pairwise fun l l' => b.call l = b.call l' → ¬ b.ends l ∧ ¬ b.begins l'

/-- Call `c` has ended before call `c'` begins. -/
def Before (c c' : Call) : Prop :=
  ∃ fst snd, ls = fst ++ snd ∧ (∃ l ∈ fst, b.ends l ∧ b.call l = c) ∧
    ∃ l ∈ snd, b.begins l ∧ b.call l = c'

variable {b ls}

/-- No label of a call comes after a label of a call that begins later. -/
theorem WellNested.pairwise (h : b.WellNested ls) :
    ls.Pairwise fun l l' => ¬ b.Before ls (b.call l') (b.call l) := by
  unfold WellNested at h
  rw [List.pairwise_iff_getElem] at h ⊢
  intro i j hi hj hij hbefore
  obtain ⟨fst, snd, hls, ⟨r, hr, hends, hr'⟩, ⟨s, hs, hbegins, hs'⟩⟩ := hbefore
  obtain ⟨a, ha, rfl⟩ := List.getElem_of_mem hr
  obtain ⟨c, hc, rfl⟩ := List.getElem_of_mem hs
  subst hls
  -- the end of the call of `j` stands at `a`, the beginning of the call of `i` after `fst`
  have hfst : a < (fst ++ snd).length := by
    rw [List.length_append]
    omega
  have hsnd : fst.length + c < (fst ++ snd).length := by
    rw [List.length_append]
    omega
  have hleft : (fst ++ snd)[a] = fst[a] := List.getElem_append_left ha
  have hright : (fst ++ snd)[fst.length + c] = snd[c] := by
    rw [List.getElem_append_right (by omega)]
    simp
  rw [← hleft] at hends hr'
  rw [← hright] at hbegins hs'
  have hja : j ≤ a := by
    by_contra hlt
    exact (h a j _ _ (by omega) hr').1 hends
  have hci : fst.length + c ≤ i := by
    by_contra hlt
    exact (h i (fst.length + c) _ _ (by omega) hs'.symm).2 hbegins
  omega

/-- What is picked out of a history in its order, at most one thing a label,
respects the order of the calls in real time. -/
theorem WellNested.realTime (h : b.WellNested ls) {point : Point → Call} {es : List Point}
    (hpicked : (es.map point).Sublist (ls.map b.call)) :
    es.Pairwise fun e e' => ¬ b.Before ls (point e') (point e) := by
  have hcalls : (ls.map b.call).Pairwise fun c c' => ¬ b.Before ls c' c :=
    List.pairwise_map.mpr h.pairwise
  exact List.pairwise_map.mp (hcalls.sublist hpicked)

end Brackets

end Kit

import Mathlib.Data.List.Basic

/-!
# Splitting a string at a separator

`splitAt sep s` cuts `s` at every occurrence of `sep`, so it always has at
least one piece, and joining the pieces gives `s` back. Pieces without
separator, joined and cut again, are the same pieces.
-/

namespace Kit

/-- The pieces of `s` between the occurrences of `sep`. -/
def splitAt (sep : Char) (s : String) : List String :=
  (s.toList.splitOn sep).map String.ofList

theorem splitAt_ne_nil (sep : Char) (s : String) : splitAt sep s ≠ [] := by
  unfold splitAt
  intro h
  exact List.splitOn_ne_nil sep s.toList (List.map_eq_nil_iff.mp h)

private theorem ofList_injective : Function.Injective String.ofList := by
  intro a b h
  have hlist := congrArg String.toList h
  simpa using hlist

/-- A string is determined by its pieces. -/
theorem splitAt_injective (sep : Char) : Function.Injective (splitAt sep) := by
  intro s t h
  have hpieces : s.toList.splitOn sep = t.toList.splitOn sep :=
    ofList_injective.list_map h
  have hlist : s.toList = t.toList := by
    have hjoin : [sep].intercalate (s.toList.splitOn sep) = s.toList :=
      List.intercalate_splitOn sep
    rw [← hjoin, hpieces, List.intercalate_splitOn]
  exact String.toList_inj.mp hlist

/-- The first piece ends at the first separator. -/
theorem splitAt_append {sep : Char} {s head tail : String} (h : sep ∉ head.toList)
    (hs : s.toList = head.toList ++ sep :: tail.toList) :
    splitAt sep s = head :: splitAt sep tail := by
  unfold splitAt
  rw [hs, List.splitOn_append_cons_self_of_not_mem h]
  simp

/-- One more character in front stays in the first piece. -/
theorem splitAt_cons {sep c : Char} {s t : String} (hc : c ≠ sep)
    (ht : t.toList = c :: s.toList) :
    ∃ piece rest, splitAt sep s = piece :: rest ∧
      splitAt sep t = String.ofList (c :: piece.toList) :: rest := by
  unfold splitAt
  rw [ht, List.splitOn_cons_eq_if_modifyHead]
  cases hsplit : s.toList.splitOn sep with
  | nil => exact absurd hsplit (List.splitOn_ne_nil sep s.toList)
  | cons piece rest =>
      refine ⟨String.ofList piece, rest.map String.ofList, rfl, ?_⟩
      simp [hc]

/-- A separator in the middle cuts the string. -/
theorem splitAt_append_sep {sep : Char} {s head tail : String}
    (hs : s.toList = head.toList ++ sep :: tail.toList) :
    splitAt sep s = splitAt sep head ++ splitAt sep tail := by
  unfold splitAt
  rw [hs, List.splitOn_append_cons_self, List.map_append]

/-! ## Joining pieces -/

/-- The pieces with `sep` between them. -/
def joinWith (sep : Char) (pieces : List String) : String :=
  (String.singleton sep).intercalate pieces

@[simp] theorem joinWith_singleton (sep : Char) (piece : String) : joinWith sep [piece] = piece :=
  String.intercalate_singleton

theorem joinWith_append {sep : Char} {front back : List String} (hfront : front ≠ [])
    (hback : back ≠ []) :
    joinWith sep (front ++ back) =
      joinWith sep front ++ String.singleton sep ++ joinWith sep back :=
  String.intercalate_append_of_ne_nil hfront hback

theorem toList_joinWith (sep : Char) (pieces : List String) :
    (joinWith sep pieces).toList = [sep].intercalate (pieces.map String.toList) := by
  unfold joinWith
  rw [String.toList_intercalate, String.toList_singleton]

@[simp] theorem joinWith_splitAt (sep : Char) (s : String) : joinWith sep (splitAt sep s) = s := by
  apply String.toList_inj.mp
  rw [toList_joinWith, splitAt, List.map_map]
  have hid : String.toList ∘ String.ofList = id := by
    funext piece
    simp
  rw [hid, List.map_id, List.intercalate_splitOn]

theorem splitAt_joinWith {sep : Char} {pieces : List String}
    (hsep : ∀ piece ∈ pieces, sep ∉ piece.toList) (hne : pieces ≠ []) :
    splitAt sep (joinWith sep pieces) = pieces := by
  unfold splitAt
  rw [toList_joinWith, List.splitOn_intercalate]
  · rw [List.map_map]
    have hid : String.ofList ∘ String.toList = id := by
      funext piece
      simp
    rw [hid, List.map_id]
  · intro chars hchars
    obtain ⟨piece, hpiece, rfl⟩ := List.mem_map.mp hchars
    exact hsep piece hpiece
  · simpa using hne

private theorem notMem_of_mem_splitOn {sep : Char} {chars piece : List Char}
    (h : piece ∈ chars.splitOn sep) : sep ∉ piece := by
  induction chars generalizing piece with
  | nil =>
      rw [List.splitOn_nil, List.mem_singleton] at h
      rw [h]
      exact List.not_mem_nil
  | cons c chars ih =>
      rw [List.splitOn_cons_eq_if_modifyHead] at h
      by_cases hc : c = sep
      · rw [if_pos (by simpa using hc)] at h
        rcases List.mem_cons.mp h with rfl | h
        · exact List.not_mem_nil
        · exact ih h
      · rw [if_neg (by simpa using hc)] at h
        cases hsplit : chars.splitOn sep with
        | nil => exact absurd hsplit (List.splitOn_ne_nil sep chars)
        | cons first rest =>
            rw [hsplit] at h ih
            rcases List.mem_cons.mp h with rfl | h
            · have hfirst := ih List.mem_cons_self
              simp [hfirst, Ne.symm hc]
            · exact ih (List.mem_cons_of_mem _ h)

/-- No piece contains the separator. -/
theorem notMem_of_mem_splitAt {sep : Char} {s piece : String} (h : piece ∈ splitAt sep s) :
    sep ∉ piece.toList := by
  obtain ⟨chars, hchars, rfl⟩ := List.mem_map.mp h
  rw [String.toList_ofList]
  exact notMem_of_mem_splitOn hchars

private theorem mem_intercalate_iff {sep c : Char} (hc : c ≠ sep) (pieces : List (List Char)) :
    c ∈ [sep].intercalate pieces ↔ ∃ piece ∈ pieces, c ∈ piece := by
  induction pieces with
  | nil => simp
  | cons piece pieces ih =>
      cases pieces with
      | nil => simp
      | cons next rest =>
          rw [List.intercalate_cons_cons, List.mem_append, List.mem_append, ih]
          simp [hc]

/-- Any other character of a string is in one of its pieces. -/
theorem mem_iff_mem_splitAt {sep c : Char} (hc : c ≠ sep) (s : String) :
    c ∈ s.toList ↔ ∃ piece ∈ splitAt sep s, c ∈ piece.toList := by
  rw [← joinWith_splitAt sep s, toList_joinWith, mem_intercalate_iff hc, joinWith_splitAt]
  simp

/-- Pieces from the front of a string, joined, are what stands before a
separator of it. -/
theorem splitAt_eq_append {sep : Char} {s : String} {front back : List String} (hfront : front ≠ [])
    (hback : back ≠ []) (h : splitAt sep s = front ++ back) :
    splitAt sep (joinWith sep front) = front ∧
      s = joinWith sep front ++ String.singleton sep ++ joinWith sep back := by
  constructor
  · apply splitAt_joinWith _ hfront
    intro piece hpiece
    apply notMem_of_mem_splitAt (s := s)
    rw [h]
    exact List.mem_append_left _ hpiece
  · rw [← joinWith_append hfront hback, ← h, joinWith_splitAt]

end Kit

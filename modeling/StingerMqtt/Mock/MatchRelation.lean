import Mathlib.Data.List.Forall2
import StingerMqtt.Mock.TopicMatches

/-!
# What `topic_matches` decides

The match relation of MQTT as a statement about strings: the topic is the filter
with something put in the place of its wildcards. On well-formed filters
`topic_matches` decides it, for every topic.
-/

namespace StingerMqtt

open Kit

/-- `+` and `#` are whole levels, and `#` is the last one. -/
structure WellFormed (filter : String) : Prop where
  plus : ∀ level ∈ levels filter, '+' ∈ level.toList → level = "+"
  hash : ∀ level ∈ levels filter, '#' ∈ level.toList → level = "#"
  last : ∀ level ∈ (levels filter).dropLast, '#' ∉ level.toList

/-- What may stand in the place of a level: for `+` any string without `/`. -/
def Stands (level part : String) : Prop :=
  if level = "+" then '/' ∉ part.toList else part = level

/-- `topic` is `filter` with every level `+` replaced. -/
def Filled (filter topic : String) : Prop :=
  ∃ parts, List.Forall₂ Stands (levels filter) parts ∧ topic = joinWith '/' parts

/-- `topic` is `filter` with every wildcard replaced. -/
inductive Replaced : String → String → Prop where
  | plain {filter topic : String} (hlast : (levels filter).getLast? ≠ some "#")
      (hfilled : Filled filter topic) : Replaced filter topic
  | parent {name topic : String} (hfilled : Filled name topic) : Replaced (name ++ "/#") topic
  | below {name filled : String} (hfilled : Filled name filled) (rest : String) :
      Replaced (name ++ "/#") (filled ++ "/" ++ rest)
  | all (topic : String) : Replaced "#" topic

/-! ## Levels -/

/-- A level of the topic meets a level of the filter other than `#`. -/
def Meets (level part : String) : Prop := level = "+" ∨ part = level

theorem matchLevels_iff_meets {front : List String} (hfront : "#" ∉ front)
    (topicParts : List String) :
    matchLevels front topicParts = true ↔ List.Forall₂ Meets front topicParts := by
  induction front generalizing topicParts with
  | nil => simp [matchLevels]
  | cons f front ih =>
      obtain ⟨hhash, hrest⟩ := List.ne_and_not_mem_of_not_mem_cons hfront
      cases topicParts with
      | nil => simp [matchLevels_nil_right (Ne.symm hhash)]
      | cons t topicParts =>
          rw [List.forall₂_cons, ← ih hrest]
          by_cases hplus : f = "+"
          · subst hplus
            simp [Meets]
          · rw [matchLevels_literal (Ne.symm hhash) hplus]
            simp [Meets, hplus]

/-- With `#` behind them the levels have to meet a first part of the topic. -/
theorem matchLevels_hash_iff_meets {front : List String} (hfront : "#" ∉ front)
    (topicParts : List String) :
    matchLevels (front ++ ["#"]) topicParts = true ↔
      ∃ taken rest, topicParts = taken ++ rest ∧ List.Forall₂ Meets front taken := by
  induction front generalizing topicParts with
  | nil => simp
  | cons f front ih =>
      obtain ⟨hhash, hrest⟩ := List.ne_and_not_mem_of_not_mem_cons hfront
      cases topicParts with
      | nil =>
          rw [List.cons_append, matchLevels_nil_right (Ne.symm hhash)]
          simp
      | cons t topicParts =>
          have hstep : matchLevels (f :: front ++ ["#"]) (t :: topicParts) = true ↔
              Meets f t ∧ matchLevels (front ++ ["#"]) topicParts = true := by
            by_cases hplus : f = "+"
            · subst hplus
              simp [Meets]
            · rw [List.cons_append, matchLevels_literal (Ne.symm hhash) hplus]
              simp [Meets, hplus]
          rw [hstep, ih hrest]
          constructor
          · rintro ⟨hmeets, taken, rest, rfl, htaken⟩
            exact ⟨t :: taken, rest, rfl, .cons hmeets htaken⟩
          · rintro ⟨taken, rest, hparts, htaken⟩
            cases htaken with
            | cons hmeets htaken =>
                obtain ⟨rfl, rfl⟩ := List.cons.inj hparts
                exact ⟨hmeets, _, rest, rfl, htaken⟩

/-! ## Strings -/

theorem stands_iff_meets {level part : String} (hlevel : '/' ∉ level.toList) :
    Stands level part ↔ Meets level part ∧ '/' ∉ part.toList := by
  unfold Stands Meets
  by_cases hplus : level = "+"
  · simp [hplus]
  · rw [if_neg hplus]
    constructor
    · rintro rfl
      exact ⟨.inr rfl, hlevel⟩
    · rintro ⟨hmeets, -⟩
      exact hmeets.resolve_left hplus

theorem stands_iff_meets_all {front : List String} (hfront : ∀ level ∈ front, '/' ∉ level.toList)
    (parts : List String) :
    List.Forall₂ Stands front parts ↔
      List.Forall₂ Meets front parts ∧ ∀ part ∈ parts, '/' ∉ part.toList := by
  induction front generalizing parts with
  | nil =>
      rw [List.forall₂_nil_left_iff, List.forall₂_nil_left_iff]
      constructor
      · rintro rfl
        exact ⟨rfl, fun part hpart => absurd hpart List.not_mem_nil⟩
      · rintro ⟨hparts, -⟩
        exact hparts
  | cons level front ih =>
      obtain ⟨hlevel, hrest⟩ := List.forall_mem_cons.mp hfront
      cases parts with
      | nil => simp
      | cons part parts =>
          rw [List.forall₂_cons, List.forall₂_cons, stands_iff_meets hlevel, ih hrest,
            List.forall_mem_cons]
          tauto

/-- A filter is filled exactly if it is met level by level. -/
theorem filled_iff_meets {filter topic : String} :
    Filled filter topic ↔ List.Forall₂ Meets (levels filter) (levels topic) := by
  have hlevels : ∀ level ∈ levels filter, '/' ∉ level.toList :=
    fun level => notMem_of_mem_splitAt
  constructor
  · rintro ⟨parts, hstands, rfl⟩
    obtain ⟨hmeets, hparts⟩ := (stands_iff_meets_all hlevels parts).mp hstands
    have hne : parts ≠ [] := by
      rintro rfl
      exact splitAt_ne_nil '/' filter (List.forall₂_nil_right_iff.mp hmeets)
    rw [levels, levels, splitAt_joinWith hparts hne]
    exact hmeets
  · intro hmeets
    refine ⟨levels topic, ?_, (joinWith_splitAt '/' topic).symm⟩
    exact (stands_iff_meets_all hlevels _).mpr ⟨hmeets, fun part => notMem_of_mem_splitAt⟩

theorem levels_hash (name : String) : levels (name ++ "/#") = levels name ++ ["#"] := by
  have hsplit : levels (name ++ "/#") = levels name ++ levels "#" :=
    splitAt_append_sep (by simp)
  rw [hsplit]
  rfl

theorem levels_below (filled rest : String) :
    levels (filled ++ "/" ++ rest) = levels filled ++ levels rest :=
  splitAt_append_sep (by simp)

/-! ## The match relation -/

theorem WellFormed.front {filter : String} (hwf : WellFormed filter) {front : List String}
    {level : String} (h : levels filter = front ++ [level]) : "#" ∉ front := by
  intro hmem
  refine hwf.last "#" ?_ (by decide)
  rw [h, List.dropLast_concat]
  exact hmem

/-- `name/#` matches what fills `name` and everything below it. -/
theorem topicMatches_hash_iff {name : String} (hname : "#" ∉ levels name) (topic : String) :
    topicMatches (name ++ "/#") topic = true ↔
      Filled name topic ∨ ∃ filled rest, Filled name filled ∧ topic = filled ++ "/" ++ rest := by
  unfold topicMatches
  rw [levels_hash, matchLevels_hash_iff_meets hname]
  constructor
  · rintro ⟨taken, rest, hlevels, hmeets⟩
    have htaken : taken ≠ [] := by
      rintro rfl
      exact splitAt_ne_nil '/' name (List.forall₂_nil_right_iff.mp hmeets)
    by_cases hrest : rest = []
    · left
      rw [hrest, List.append_nil] at hlevels
      rw [filled_iff_meets, hlevels]
      exact hmeets
    · right
      obtain ⟨hsplit, htopic⟩ := splitAt_eq_append htaken hrest hlevels
      refine ⟨joinWith '/' taken, joinWith '/' rest, filled_iff_meets.mpr ?_, htopic⟩
      rw [levels, levels, hsplit]
      exact hmeets
  · rintro (hfilled | ⟨filled, rest, hfilled, rfl⟩)
    · exact ⟨levels topic, [], (List.append_nil _).symm, filled_iff_meets.mp hfilled⟩
    · exact ⟨levels filled, levels rest, levels_below filled rest, filled_iff_meets.mp hfilled⟩

/-- Without wildcards there is nothing to fill. -/
theorem filled_literal_iff {name : String} (hlit : ∀ level ∈ levels name, level ≠ "#" ∧ level ≠ "+")
    (topic : String) : Filled name topic ↔ topic = name := by
  have hhash : "#" ∉ levels name := fun hmem => (hlit "#" hmem).1 rfl
  rw [filled_iff_meets, ← matchLevels_iff_meets hhash]
  exact topicMatches_literal_iff hlit topic

/-- Without wildcards in `name`, `name/#` matches `name` itself and everything
below it. -/
theorem topicMatches_below_iff {name : String}
    (hlit : ∀ level ∈ levels name, level ≠ "#" ∧ level ≠ "+") (topic : String) :
    topicMatches (name ++ "/#") topic = true ↔
      topic = name ∨ ∃ rest : String, topic = name ++ "/" ++ rest := by
  rw [topicMatches_hash_iff fun hmem => (hlit "#" hmem).1 rfl]
  simp only [filled_literal_iff hlit]
  constructor
  · rintro (htopic | ⟨filled, rest, rfl, htopic⟩)
    · exact .inl htopic
    · exact .inr ⟨rest, htopic⟩
  · rintro (htopic | ⟨rest, htopic⟩)
    · exact .inl htopic
    · exact .inr ⟨name, rest, rfl, htopic⟩

/-- A filter with `#` in its last level only is matched level by level, ends in
`/#` or is `#`. -/
theorem wellFormed_shape {filter : String} (hwf : WellFormed filter) :
    "#" ∉ levels filter ∨ (∃ name, filter = name ++ "/#" ∧ "#" ∉ levels name) ∨ filter = "#" := by
  obtain ⟨front, last, hlevels⟩ : ∃ front last, levels filter = front ++ [last] :=
    ⟨_, _, (List.dropLast_append_getLast (splitAt_ne_nil '/' filter)).symm⟩
  have hfront := hwf.front hlevels
  by_cases hlast : last = "#"
  · right
    subst hlast
    by_cases hne : front = []
    · right
      apply splitAt_injective '/'
      show levels filter = levels "#"
      rw [hlevels, hne]
      rfl
    · left
      obtain ⟨hsplit, hfilter⟩ := splitAt_eq_append hne (by simp) hlevels
      refine ⟨joinWith '/' front, ?_, ?_⟩
      · rw [hfilter, joinWith_singleton, String.append_assoc]
        rfl
      · rw [levels, hsplit]
        exact hfront
  · left
    rw [hlevels, List.mem_append, List.mem_singleton, not_or]
    exact ⟨hfront, Ne.symm hlast⟩

/-- On a well-formed filter `topic_matches` decides the match relation; without
wildcards that is equality. -/
theorem topicMatches_iff_replaced {filter : String} (hwf : WellFormed filter) (topic : String) :
    (topicMatches filter topic = true ↔ Replaced filter topic) ∧
    ((∀ level ∈ levels filter, level ≠ "+" ∧ level ≠ "#") →
      (topicMatches filter topic = true ↔ topic = filter)) := by
  refine ⟨⟨?_, ?_⟩, ?_⟩
  · intro hmatches
    rcases wellFormed_shape hwf with hplain | ⟨name, rfl, hname⟩ | rfl
    · refine .plain ?_ (filled_iff_meets.mpr ((matchLevels_iff_meets hplain _).mp hmatches))
      intro hlast
      exact hplain (List.mem_of_getLast? hlast)
    · rcases (topicMatches_hash_iff hname topic).mp hmatches with
        hfilled | ⟨filled, rest, hfilled, rfl⟩
      · exact .parent hfilled
      · exact .below hfilled rest
    · exact .all topic
  · intro hreplaced
    cases hreplaced with
    | plain hlast hfilled =>
        rcases wellFormed_shape hwf with hplain | ⟨name, rfl, -⟩ | rfl
        · exact (matchLevels_iff_meets hplain _).mpr (filled_iff_meets.mp hfilled)
        · exact absurd (by rw [levels_hash, List.getLast?_concat]) hlast
        · exact absurd rfl hlast
    | parent hfilled =>
        exact (topicMatches_hash_iff (hwf.front (levels_hash _)) topic).mpr (.inl hfilled)
    | below hfilled rest =>
        exact (topicMatches_hash_iff (hwf.front (levels_hash _)) _).mpr
          (.inr ⟨_, rest, hfilled, rfl⟩)
    | all => rfl
  · intro hlit
    exact topicMatches_literal_iff (fun level hlevel => (hlit level hlevel).symm) topic

theorem topicMatches_iff_replaced_sensors :
    (topicMatches "sensor/+/#" "sensor/room1/temp" = true ↔
      Replaced "sensor/+/#" "sensor/room1/temp") ∧
    ((∀ level ∈ levels "sensor/+/#", level ≠ "+" ∧ level ≠ "#") →
      (topicMatches "sensor/+/#" "sensor/room1/temp" = true ↔
        "sensor/room1/temp" = "sensor/+/#")) :=
  topicMatches_iff_replaced ⟨by decide, by decide, by decide⟩ "sensor/room1/temp"

end StingerMqtt

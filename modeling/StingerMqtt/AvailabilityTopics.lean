import StingerMqtt.Availability
import StingerMqtt.Mock.TopicMatches

/-!
# Which clients an availability topic covers

A client id stands in the topic as it is, and the topic of one client may be the
filter of a subscription. An id with a wildcard among its levels then covers
other clients too.
-/

namespace StingerMqtt

open Kit GenericAvailability

variable (J : JsonLibrary)

/-- Levels match what is made of them by changing wildcard levels only. -/
theorem matchLevels_map {f : String → String} (hf : ∀ level, level ≠ "#" → level ≠ "+" →
    f level = level) (parts : List String) : matchLevels parts (parts.map f) = true := by
  induction parts with
  | nil => rfl
  | cons part parts ih =>
      rw [List.map_cons]
      by_cases hhash : part = "#"
      · rw [hhash, matchLevels_hash]
      · by_cases hplus : part = "+"
        · rw [hplus, matchLevels_plus, ih]
        · rw [hf part hhash hplus, matchLevels_literal hhash hplus, ih]
          simp

theorem matchLevels_self (parts : List String) : matchLevels parts parts = true := by
  have hmap : matchLevels parts (parts.map id) = true := matchLevels_map (fun _ _ _ => rfl) parts
  rw [List.map_id] at hmap
  exact hmap

/-- Emptying the wildcard levels gives levels that are matched. -/
def emptied (level : String) : String := if level = "+" ∨ level = "#" then "" else level

theorem matchLevels_emptied (parts : List String) :
    matchLevels parts (parts.map emptied) = true := by
  apply matchLevels_map
  intro level hhash hplus
  exact if_neg (not_or.mpr ⟨hplus, hhash⟩)

theorem emptied_plain (level : String) : emptied level ≠ "+" ∧ emptied level ≠ "#" := by
  unfold emptied
  split
  · decide
  · exact not_or.mp ‹_›

/-- The id with its wildcard levels emptied. -/
def emptiedId (clientId : String) : String := joinWith '/' ((levels clientId).map emptied)

theorem levels_emptiedId (clientId : String) :
    levels (emptiedId clientId) = (levels clientId).map emptied := by
  apply splitAt_joinWith
  · intro piece hpiece
    obtain ⟨level, hlevel, rfl⟩ := List.mem_map.mp hpiece
    unfold emptied
    split
    · simp
    · exact notMem_of_mem_splitAt hlevel
  · intro hnil
    exact splitAt_ne_nil '/' clientId (List.map_eq_nil_iff.mp hnil)

theorem levels_system (clientId : String) :
    levels ("system/" ++ clientId) = "system" :: levels clientId :=
  splitAt_append (by decide) (by simp)

/-- A topic of a client is matched like the id in it. -/
theorem topicMatches_system (a b : String) :
    topicMatches ("system/" ++ a) ("system/" ++ b) = topicMatches a b := by
  unfold topicMatches
  rw [levels_system, levels_system, matchLevels_literal (by decide) (by decide)]
  simp

/-- The topic of a client, as a filter, covers the client's own reports, and
those of other clients exactly if the id has a wildcard level. -/
theorem onlineTopic_covers (a : String) :
    (∀ online, topicMatches ((new a).helper J).getClientOnlineTopic (report a online).topic =
      true) ∧
    ((∀ b, b ≠ a → ∀ online,
        topicMatches ((new a).helper J).getClientOnlineTopic (report b online).topic = false) ↔
      ∀ level ∈ levels a, level ≠ "+" ∧ level ≠ "#") := by
  have hcovers : ∀ b online,
      topicMatches ((new a).helper J).getClientOnlineTopic (report b online).topic =
        topicMatches a b := by
    intro b online
    rw [report_topic]
    exact topicMatches_system a b
  refine ⟨?_, ⟨?_, ?_⟩⟩
  · intro online
    rw [hcovers]
    exact matchLevels_self (levels a)
  · intro halone level hlevel
    -- the id with its wildcards emptied is covered, so it has to be the same id
    have hself : emptiedId a = a := by
      by_contra hother
      have hnot := halone (emptiedId a) hother true
      rw [hcovers, topicMatches, levels_emptiedId, matchLevels_emptied] at hnot
      cases hnot
    have hlevels : levels a = (levels a).map emptied := by
      rw [← levels_emptiedId, hself]
    rw [hlevels] at hlevel
    obtain ⟨level', -, rfl⟩ := List.mem_map.mp hlevel
    exact emptied_plain level'
  · intro hplain b hne online
    rw [hcovers]
    apply Bool.eq_false_iff.mpr
    intro hmatches
    exact hne ((topicMatches_literal_iff (fun level h => (hplain level h).symm) b).mp hmatches)

/-- A client with the id `+` covers every client with an id of one level. -/
theorem onlineTopic_covers_others :
    ¬ ∀ (J : JsonLibrary) (a b : String), a ≠ b → ∀ online,
      topicMatches ((new a).helper J).getClientOnlineTopic (report b online).topic = false := by
  intro hall
  let J : JsonLibrary :=
    { Value := Unit, JsonPath := Unit, fromSlice := fun _ => none, asBool := fun _ => none,
      fromStr := fun _ => none, findSlice := fun _ _ => [] }
  have hnot := hall J "+" "my-device" (by decide) true
  revert hnot
  decide

end StingerMqtt

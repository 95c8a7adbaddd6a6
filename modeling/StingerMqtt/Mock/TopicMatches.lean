import StingerMqtt.Kit.Split

/-!
# Topic matching (`MockClient::topic_matches`)

The loop over the two `split('/')` iterators, on the lists of the levels the
iterators still have to yield, and what it decides for the shapes of filter
the rest of the development meets.
-/

namespace StingerMqtt

open Kit

/-- The levels of a topic or filter. -/
def levels (s : String) : List String := splitAt '/' s

/-- The loop of `topic_matches`: one round takes a level off each iterator. -/
def matchLevels : List String → List String → Bool
  | [], topicParts => topicParts.isEmpty
  | f :: filterParts, topicParts =>
    if f = "#" then true
    else if f = "+" then
      match topicParts with
      | [] => false
      | _ :: topicParts => matchLevels filterParts topicParts
    else
      match topicParts with
      | t :: topicParts => if t = f then matchLevels filterParts topicParts else false
      | [] => false

/-- `MockClient::topic_matches`. -/
def topicMatches (filter topic : String) : Bool :=
  matchLevels (levels filter) (levels topic)

@[simp] theorem matchLevels_hash (filterParts topicParts : List String) :
    matchLevels ("#" :: filterParts) topicParts = true := by
  simp [matchLevels]

@[simp] theorem matchLevels_plus (filterParts topicParts : List String) (t : String) :
    matchLevels ("+" :: filterParts) (t :: topicParts) = matchLevels filterParts topicParts := by
  simp [matchLevels]

/-- A level that is no wildcard has to be met by an equal level. -/
theorem matchLevels_literal {f : String} (hhash : f ≠ "#") (hplus : f ≠ "+")
    (filterParts topicParts : List String) (t : String) :
    matchLevels (f :: filterParts) (t :: topicParts) =
      (decide (t = f) && matchLevels filterParts topicParts) := by
  rw [matchLevels, if_neg hhash, if_neg hplus]
  by_cases h : t = f <;> simp [h]

/-- A topic that has run out of levels is matched by a trailing `#` only. -/
theorem matchLevels_nil_right {f : String} (hhash : f ≠ "#") (filterParts : List String) :
    matchLevels (f :: filterParts) [] = false := by
  simp [matchLevels, hhash]

/-! ## Filters without wildcards -/

/-- Levels none of which is a wildcard match the equal levels only. -/
theorem matchLevels_eq_iff {filterParts : List String}
    (hlit : ∀ f ∈ filterParts, f ≠ "#" ∧ f ≠ "+") (topicParts : List String) :
    matchLevels filterParts topicParts = true ↔ topicParts = filterParts := by
  induction filterParts generalizing topicParts with
  | nil => simp [matchLevels]
  | cons f filterParts ih =>
      obtain ⟨hhash, hplus⟩ := hlit f (by simp)
      have hrest : ∀ g ∈ filterParts, g ≠ "#" ∧ g ≠ "+" := fun g hg => hlit g (by simp [hg])
      cases topicParts with
      | nil => simp [matchLevels_nil_right hhash]
      | cons t topicParts =>
          rw [matchLevels_literal hhash hplus]
          simp [ih hrest]

/-- A filter without wildcard levels matches exactly the identical topic. -/
theorem topicMatches_literal_iff {filter : String}
    (hlit : ∀ f ∈ levels filter, f ≠ "#" ∧ f ≠ "+") (topic : String) :
    topicMatches filter topic = true ↔ topic = filter := by
  unfold topicMatches
  rw [matchLevels_eq_iff hlit]
  exact (splitAt_injective '/').eq_iff

/-! ## Wildcards in the first level -/

/-- The first level of a filter is a wildcard. -/
def wildcardFirst (filter : String) : Prop :=
  (levels filter).head? = some "+" ∨ (levels filter).head? = some "#"

instance (filter : String) : Decidable (wildcardFirst filter) :=
  inferInstanceAs (Decidable (_ ∨ _))

/-- A wildcard in the first level does not look at the first level of the
topic, so a character in front of the topic, other than `/`, is not seen. -/
theorem topicMatches_cons {filter s t : String} {c : Char} (hfirst : wildcardFirst filter)
    (hc : c ≠ '/') (ht : t.toList = c :: s.toList) :
    topicMatches filter t = topicMatches filter s := by
  obtain ⟨piece, rest, hs, ht'⟩ := splitAt_cons hc ht
  unfold topicMatches levels
  rw [hs, ht']
  unfold wildcardFirst levels at hfirst
  cases hlevels : splitAt '/' filter with
  | nil => exact absurd hlevels (splitAt_ne_nil '/' filter)
  | cons f filterParts =>
      rw [hlevels] at hfirst
      -- `+` takes the first level off unread, `#` ends the loop
      rcases hfirst with hplus | hhash
      · obtain rfl : f = "+" := by simpa using hplus
        simp
      · obtain rfl : f = "#" := by simpa using hhash
        simp

end StingerMqtt

import StingerMqtt.Mock.FreshChannel

/-!
# Filters with a misplaced `#`

`topic_matches` returns `true` at the first level `#` and does not look at the
levels behind it. So a `#` that is not the last level matches like one that is;
a `#` within a longer level is an ordinary character.
-/

namespace StingerMqtt

open Kit Mock MockWorld

variable {B : Broadcast MqttMessage} {p : Profile} {w : MockWorld B}

/-- A `#` stands in a level with other characters, or in a level that is not the
last one. -/
def Misplaced (filter : String) : Prop :=
  ∃ front level rest, levels filter = front ++ level :: rest ∧ '#' ∈ level.toList ∧
    (level ≠ "#" ∨ rest ≠ [])

/-- No topic without `#` is matched. -/
def NeverMatches (filter : String) : Prop :=
  ∀ topic : String, '#' ∉ topic.toList → topicMatches filter topic = false

/-- In no run a subscription with this filter is sent a message on a topic
without `#`, neither by a fan-out nor by its replay: what a step puts on the
channels are the copies of a list of rows and messages, and no row with this
filter stands there beside such a message. -/
def NeverReceives (B : Broadcast MqttMessage) (p : Profile) (clientId filter : String) : Prop :=
  ∀ (w w' : MockWorld B) (e : Event), (mock B p clientId).Reachable w →
    (mock B p clientId).step w e w' →
      (∀ c, w'.channels.sent c =
        w.channels.sent c ++ Bank.onChannel c (copies (e.op.sends p w))) ∧
      ∀ s m, s.topic = filter → (s, m) ∈ e.op.sends p w → '#' ∈ m.topic.toList

/-- The first of the levels that has a `#` in it. -/
def firstHash (parts : List String) : Option String :=
  parts.find? fun level => '#' ∈ level.toList

/-! ## Levels -/

theorem firstHash_cons_mem {f : String} (hf : '#' ∈ f.toList) (parts : List String) :
    firstHash (f :: parts) = some f := by
  simp [firstHash, hf]

theorem firstHash_cons_notMem {f : String} (hf : '#' ∉ f.toList) (parts : List String) :
    firstHash (f :: parts) = firstHash parts := by
  simp [firstHash, hf]

/-- A level with a `#` among other characters is met by no level without `#`. -/
theorem matchLevels_hash_inside {parts : List String} (hhash : ∃ f ∈ parts, '#' ∈ f.toList)
    (hfirst : firstHash parts ≠ some "#") {topicParts : List String}
    (hfree : ∀ t ∈ topicParts, '#' ∉ t.toList) : matchLevels parts topicParts = false := by
  induction parts generalizing topicParts with
  | nil => simp at hhash
  | cons f parts ih =>
      by_cases hf : '#' ∈ f.toList
      · -- this level decides
        rw [firstHash_cons_mem hf] at hfirst
        have hne : f ≠ "#" := fun h => hfirst (congrArg some h)
        have hplus : f ≠ "+" := by
          rintro rfl
          exact absurd hf (by decide)
        cases topicParts with
        | nil => exact matchLevels_nil_right hne parts
        | cons t topicParts =>
            have ht : t ≠ f := by
              rintro rfl
              exact hfree t List.mem_cons_self hf
            rw [matchLevels_literal hne hplus]
            simp [ht]
      · rw [firstHash_cons_notMem hf] at hfirst
        have hne : f ≠ "#" := by
          rintro rfl
          exact hf (by decide)
        have hrest : ∃ g ∈ parts, '#' ∈ g.toList := by
          obtain ⟨g, hg, hmem⟩ := hhash
          rcases List.mem_cons.mp hg with rfl | hg
          · exact absurd hmem hf
          · exact ⟨g, hg, hmem⟩
        cases topicParts with
        | nil => exact matchLevels_nil_right hne parts
        | cons t topicParts =>
            have hmatch : matchLevels parts topicParts = false :=
              ih hrest hfirst fun t' ht' => hfree t' (List.mem_cons_of_mem _ ht')
            by_cases hplus : f = "+"
            · rw [hplus, matchLevels_plus]
              exact hmatch
            · rw [matchLevels_literal hne hplus, hmatch, Bool.and_false]

/-- The levels in front of the first `#` are matched by themselves. -/
theorem matchLevels_before_hash {parts : List String} (hfirst : firstHash parts = some "#") :
    matchLevels parts (parts.takeWhile fun level => '#' ∉ level.toList) = true := by
  induction parts with
  | nil => cases hfirst
  | cons f parts ih =>
      by_cases hf : '#' ∈ f.toList
      · rw [firstHash_cons_mem hf] at hfirst
        obtain rfl := Option.some.inj hfirst
        exact matchLevels_hash _ _
      · rw [firstHash_cons_notMem hf] at hfirst
        have hne : f ≠ "#" := by
          rintro rfl
          exact hf (by decide)
        rw [List.takeWhile_cons_of_pos (by simpa using hf)]
        by_cases hplus : f = "+"
        · rw [hplus, matchLevels_plus]
          exact ih hfirst
        · rw [matchLevels_literal hne hplus, ih hfirst]
          simp

/-! ## Topics -/

theorem hash_mem_iff (s : String) : '#' ∈ s.toList ↔ ∃ level ∈ levels s, '#' ∈ level.toList :=
  mem_iff_mem_splitAt (by decide) s

/-- If the first level with a `#` is `#` alone, some topic without `#` is matched. -/
theorem exists_matched {filter : String} (hfirst : firstHash (levels filter) = some "#") :
    ∃ topic : String, '#' ∉ topic.toList ∧ topicMatches filter topic = true := by
  let front := (levels filter).takeWhile fun level => '#' ∉ level.toList
  have hfront : ∀ level ∈ front, level ∈ levels filter ∧ '#' ∉ level.toList := by
    intro level hlevel
    refine ⟨(List.takeWhile_sublist _).subset hlevel, ?_⟩
    simpa using List.mem_takeWhile_imp hlevel
  have hmatch : matchLevels (levels filter) front = true := matchLevels_before_hash hfirst
  by_cases hempty : front = []
  · -- the filter starts with `#`, which matches whatever comes
    refine ⟨"", by decide, ?_⟩
    unfold topicMatches
    cases hparts : levels filter with
    | nil => exact absurd hparts (splitAt_ne_nil '/' filter)
    | cons f parts =>
        rw [hempty, hparts] at hmatch
        by_cases hf : f = "#"
        · rw [hf]
          exact matchLevels_hash _ _
        · rw [matchLevels_nil_right hf] at hmatch
          cases hmatch
  · have hlevels : levels (joinWith '/' front) = front := by
      apply splitAt_joinWith _ hempty
      intro level hlevel
      exact notMem_of_mem_splitAt (hfront level hlevel).1
    refine ⟨joinWith '/' front, ?_, ?_⟩
    · rw [hash_mem_iff, hlevels]
      rintro ⟨level, hlevel, hmem⟩
      exact (hfront level hlevel).2 hmem
    · rw [topicMatches, hlevels]
      exact hmatch

theorem neverMatches_iff {filter : String} (hhash : '#' ∈ filter.toList) :
    NeverMatches filter ↔ firstHash (levels filter) ≠ some "#" := by
  constructor
  · intro hnever hfirst
    obtain ⟨topic, hfree, hmatch⟩ := exists_matched hfirst
    rw [hnever topic hfree] at hmatch
    cases hmatch
  · intro hfirst topic hfree
    apply matchLevels_hash_inside ((hash_mem_iff filter).mp hhash) hfirst
    intro t ht hmem
    exact hfree ((hash_mem_iff topic).mpr ⟨t, ht, hmem⟩)

/-! ## Subscriptions -/

/-- A filter that matches a topic receives a message on it in some run: the
message is retained, and a subscribe replays it. -/
theorem exists_received (B : Broadcast MqttMessage) (p : Profile) (clientId : String)
    {filter topic : String} (h : topicMatches filter topic = true) :
    ∃ (w w' : MockWorld B) (e : Event) (s : Subscription) (m : MqttMessage),
      (mock B p clientId).Reachable w ∧ (mock B p clientId).step w e w' ∧ s.topic = filter ∧
        (s, m) ∈ e.op.sends p w ∧ m.topic = topic := by
  let m : MqttMessage := .simple topic .atMostOnce true []
  let w₀ : MockWorld B := (new B clientId).stored m
  have hw₀ : w₀.Sound := (Sound.new clientId).stored m
  have hpasses : Passes p (fun _ : MockWorld B => True) (new B clientId)
      [.simulateReceive m, .channel 4] :=
    ⟨⟨trivial, trivial⟩, ⟨show 0 < 4 by omega, trivial⟩, trivial⟩
  have hreach : (mock B p clientId).Reachable (opened w₀ 4) := execAll_reachable p hpasses
  have hadd : p.addU32 w₀.nextId 1 = some 2 := by
    cases p <;> rfl
  obtain ⟨b, heq, -⟩ := subscribe_opened hw₀ rfl hadd 4 filter .atMostOnce (.stored _ _)
  let op : Op := .subscribe filter .atMostOnce w₀.channels.next (.stored _ _)
  have hexec : op.exec p (opened w₀ 4) = (.returned (.subscribed (.ok w₀.nextId)), _) :=
    congrArg (fun result => (Outcome.map Reply.subscribed result.1, result.2)) heq
  have hstep : (mock B p clientId).step (opened w₀ 4) ⟨op, _⟩ _ := ⟨Nat.lt_succ_self _, hexec⟩
  refine ⟨opened w₀ 4, _, _, ⟨filter, w₀.nextId, w₀.channels.next⟩, m, hreach, hstep, rfl, ?_, rfl⟩
  obtain ⟨-, heffect⟩ := mock_step (mock_sound hreach) hstep
  rw [heffect.mem_sends (mock_sound hreach)]
  right
  refine ⟨_, _, rfl, rfl, (Bank.channel_fresh w₀.channels 4).2, ?_, h⟩
  show ((∅ : HashMap String MqttMessage).insert topic m).lookup topic = some m
  exact AList.lookup_insert _

theorem neverReceives_iff (B : Broadcast MqttMessage) (p : Profile) (clientId filter : String) :
    NeverReceives B p clientId filter ↔ NeverMatches filter := by
  constructor
  · intro hnever topic hfree
    by_contra hmatch
    obtain ⟨w, w', e, s, m, hreach, hstep, hs, hsent, hm⟩ :=
      exists_received B p clientId (eq_true_of_ne_false hmatch)
    obtain ⟨-, hhash⟩ := hnever w w' e hreach hstep
    have hmem := hhash s m hs hsent
    rw [hm] at hmem
    exact hfree hmem
  · intro hnever w w' e hreach hstep
    have hw := mock_sound hreach
    obtain ⟨-, heffect⟩ := mock_step hw hstep
    refine ⟨heffect.sent hw, ?_⟩
    intro s m hs hsent
    have hmatch : topicMatches s.topic m.topic = true := by
      rcases (heffect.mem_sends hw).mp hsent with ⟨-, -, hreached⟩ | ⟨-, -, -, -, -, -, hmatch⟩
      · obtain ⟨-, -, -, hmatch, -⟩ := mem_reached.mp hreached
        exact hmatch
      · exact hmatch
    by_contra hfree
    rw [hs, hnever m.topic hfree] at hmatch
    cases hmatch

/-- A filter with a misplaced `#` matches no topic without `#`, and never
receives a message on one, exactly if the first level with a `#` is not `#`
alone. -/
theorem misplaced_never_iff (B : Broadcast MqttMessage) (p : Profile) (clientId : String)
    {filter : String} (h : Misplaced filter) :
    (NeverMatches filter ↔ firstHash (levels filter) ≠ some "#") ∧
      (NeverReceives B p clientId filter ↔ firstHash (levels filter) ≠ some "#") := by
  obtain ⟨front, level, rest, hlevels, hmem, -⟩ := h
  have hhash : '#' ∈ filter.toList := by
    rw [hash_mem_iff, hlevels]
    exact ⟨level, by simp, hmem⟩
  have hnever := neverMatches_iff hhash
  exact ⟨hnever, (neverReceives_iff B p clientId filter).trans hnever⟩

theorem misplaced_never_iff_inside :
    NeverMatches "a#/b" ∧ NeverReceives (.log MqttMessage) .debug "mock-client" "a#/b" := by
  have h : Misplaced "a#/b" := ⟨[], "a#", ["b"], by decide, by decide, .inl (by decide)⟩
  obtain ⟨hmatches, hreceives⟩ := misplaced_never_iff (.log MqttMessage) .debug "mock-client" h
  exact ⟨hmatches.mpr (by decide), hreceives.mpr (by decide)⟩

/-- `a/#/b` matches like `a/#`. -/
theorem misplaced_matches :
    ¬ ∀ filter, Misplaced filter → NeverMatches filter ∧
      NeverReceives (.log MqttMessage) .debug "mock-client" filter := by
  intro hall
  obtain ⟨hnever, -⟩ := hall "a/#/b" ⟨["a"], "#", ["b"], by decide, by decide, .inr (by decide)⟩
  have hmatch := hnever "a/x" (by decide)
  revert hmatch
  decide

end StingerMqtt

import StingerMqtt.Validation.ReceiveCheck

/-!
# What the validation suite leaves behind in the mock client

Two checks of the suite subscribe on a channel of their own and lose its
receiver when they return. Their rows are removed by an unsubscribe that comes
later, which a check that fails in between never gets to.
-/

namespace StingerMqtt

open Kit Mock MockWorld Validation

variable {B : Broadcast MqttMessage} {p : Profile} {iter : IterOrder String MqttMessage}
  {w : MockWorld B}

/-! ## Checks that panic -/

/-- A subscribe panics on a poisoned mutex or on the overflow of the counter,
and then pushes no row. -/
theorem subscribe_panics (hw : w.Locks) (h : w.poisoned = true ∨ p.addU32 w.nextId 1 = none)
    (topic : String) (qos : QoS) (tx : ChannelId) (iter : IterOrder String MqttMessage) :
    ∃ w' : MockWorld B, subscribe p topic qos tx iter w = (.panicked, w') ∧ w'.table = w.table := by
  unfold subscribe
  cases hp : w.poisoned with
  | true => exact ⟨w, Act.bind_panicked (lockSubscriptions_panicked hp), rfl⟩
  | false =>
      have hadd : p.addU32 w.nextId 1 = none := h.resolve_left (by simp [hp])
      refine ⟨w.poisonSubscribe, ?_, rfl⟩
      rw [Act.bind_returned (lockSubscriptions_eq hp)]
      exact Act.bind_panicked (allocate_overflow hw hp hadd topic tx)

theorem testSubscribe_panics (hw : w.Sound)
    (h : w.poisoned = true ∨ p.addU32 w.nextId 1 = none) :
    ∃ w' : MockWorld B, testSubscribe (pubSub p iter) w = (.panicked, w') ∧
      w'.table = w.table := by
  obtain ⟨w', hsub, htable⟩ := subscribe_panics (opened_sound hw 10).locks h
    "test/topic" .atLeastOnce w.channels.next iter
  exact ⟨_, withChannel_eq (Act.try_panicked (Act.mapError_panicked hsub)), htable⟩

variable (iter) in
theorem receive_panics (hw : w.Sound) (h : w.poisoned = true ∨ p.addU32 w.nextId 1 = none) :
    ∃ w' : MockWorld B, testSubscribeReceiveUnsubscribe (pubSub p iter) w = (.panicked, w') ∧
      w'.table = w.table := by
  obtain ⟨w', hsub, htable⟩ := subscribe_panics (opened_sound hw 10).locks h
    "test/subscribe" .atLeastOnce w.channels.next iter
  exact ⟨_, withChannel_eq (Act.try_panicked (Act.mapError_panicked hsub)), htable⟩

/-! ## The last check and the table -/

theorem table_grown {table : List Subscription} (row : Subscription) : table ++ [row] ≠ table := by
  intro h
  have hlength := congrArg List.length h
  simp at hlength

theorem filter_own {table : List Subscription} {topic : String}
    (hfree : ∀ s ∈ table, s.topic ≠ topic) : table.filter (fun s => s.topic ≠ topic) = table := by
  apply List.filter_eq_self.mpr
  intro s hs
  simpa using hfree s hs

variable (iter) in
/-- What the last check does to a table without rows on its topic. -/
theorem receive_table_iff (hw : w.Sound) (h : w.poisoned = false)
    (hfree : ∀ s ∈ w.table, s.topic ≠ "test/subscribe") :
    MockWorld.table (testSubscribeReceiveUnsubscribe (pubSub p iter) w).2 = w.table ↔
      p.addU32 w.nextId 1 = none ∨ ∃ m, w.retained.lookup "test/subscribe" = some m := by
  cases hadd : p.addU32 w.nextId 1 with
  | none =>
      obtain ⟨w', hcheck, htable⟩ := receive_panics iter hw (.inr hadd)
      rw [hcheck]
      exact iff_of_true htable (.inl rfl)
  | some nextId' =>
      cases hlookup : w.retained.lookup "test/subscribe" with
      | none =>
          obtain ⟨w', hcheck, htable⟩ := receive_times_out iter hw h hadd hlookup
          rw [hcheck]
          refine iff_of_false ?_ (by simp)
          show w'.table ≠ w.table
          rw [htable]
          exact table_grown _
      | some m =>
          obtain ⟨w', hcheck, htable⟩ := receive_replayed iter hw h hadd hlookup
          rw [hcheck]
          exact iff_of_true (htable.trans (filter_own hfree)) (.inr ⟨m, rfl⟩)

/-! ## The whole suite -/

theorem addU32_some {id id' : UInt32} (h : p.addU32 id 1 = some id') : id' = id + 1 := by
  cases p with
  | debug =>
      have h : (if id.toNat + 1 < 2 ^ 32 then some (id + 1) else none) = some id' := h
      split at h
      · exact (Option.some_inj.mp h).symm
      · cases h
  | release => exact (Option.some_inj.mp h).symm

/-- The suite leaves the table as it was if it ends before its first subscribe
or at a panic, or if both of its subscribes get to their unsubscribe. -/
def Cleans (p : Profile) (w : MockWorld B) : Prop :=
  w.client.clientId = "" ∨ w.poisoned = true ∨ p.addU32 w.nextId 1 = none ∨
    w.nextId ≠ 0 ∧ (p.addU32 (w.nextId + 1) 1 = none ∨
      ∃ m, w.retained.lookup "test/subscribe" = some m)

/-- Whichever way the suite ends, it leaves a client without rows on its own two
topics as it was exactly if it gets to clean up. -/
theorem suite_table_iff {clientId : String} (hreach : (mock B p clientId).Reachable w)
    (hfree : ∀ s ∈ w.table, s.topic ≠ "test/topic" ∧ s.topic ≠ "test/subscribe") :
    MockWorld.table (runFullPubsubValidationSuite (pubSub p iter) w).2 = w.table ↔
      Cleans p w := by
  have hw := mock_sound hreach
  by_cases hid : w.client.clientId = ""
  · have hname : testGetClientId (pubSub p iter) w =
        (.returned (.error "Client ID is empty"), w) := if_pos hid
    have hsuite : runFullPubsubValidationSuite (pubSub p iter) w = _ := Act.try_error hname
    rw [hsuite]
    exact iff_of_true rfl (.inl hid)
  obtain ⟨w₁, hsuite, h₁⟩ := suite_publishes (p := p) iter hw hid
  rw [hsuite]
  by_cases hpanic : w.poisoned = true ∨ p.addU32 w.nextId 1 = none
  · have hpanic₁ : w₁.poisoned = true ∨ p.addU32 w₁.nextId 1 = none := by
      rw [h₁.poisoned, h₁.nextId]
      exact hpanic
    obtain ⟨w₂, hsub, htable⟩ := testSubscribe_panics (p := p) h₁.sound hpanic₁
    rw [Act.try_panicked hsub]
    exact iff_of_true (htable.trans h₁.table) (.inr (hpanic.imp_right .inl))
  obtain ⟨hp, hadd⟩ := not_or.mp hpanic
  have hp₁ : w₁.poisoned = false := h₁.poisoned.trans (Bool.eq_false_iff.mpr hp)
  obtain ⟨nextId', hsome⟩ := Option.ne_none_iff_exists'.mp hadd
  obtain rfl := addU32_some hsome
  obtain ⟨w₂, hsub, h₂⟩ := testSubscribe_kept iter h₁.sound hp₁
    (show p.addU32 w₁.nextId 1 = some (w.nextId + 1) by rw [h₁.nextId, hsome])
  rw [h₁.table, h₁.nextId] at h₂
  rw [h₁.nextId] at hsub
  by_cases hzero : w.nextId = 0
  · -- the counter has wrapped around, and the check of the id fails
    rw [idAnswer, if_pos (hzero ▸ UInt32.le_refl 0)] at hsub
    rw [Act.try_error hsub]
    refine iff_of_false ?_ ?_
    · show w₂.table ≠ w.table
      rw [h₂.table]
      exact table_grown _
    · rintro (h | h | h | ⟨h, -⟩)
      · exact hid h
      · exact hp h
      · exact hadd h
      · exact h hzero
  rw [idAnswer, if_neg (by grind)] at hsub
  have hp₂ : w₂.poisoned = false := h₂.poisoned.trans hp₁
  obtain ⟨w₃, hunsub, h₃⟩ := testUnsubscribe_kept (p := p) iter h₂.sound hp₂ "test/topic"
  rw [Act.try_ok hsub, Act.try_ok hunsub]
  have htable : w₃.table = w.table := by
    rw [h₃.table, h₂.table, List.filter_append, filter_own fun s hs => (hfree s hs).1]
    simp
  have hretained : w₃.retained = w.retained :=
    h₃.retained.trans (h₂.retained.trans h₁.retained)
  have hreceive := receive_table_iff (p := p) iter h₃.sound (h₃.poisoned.trans hp₂)
    fun s hs => (hfree s (htable ▸ hs)).2
  rw [htable, hretained, h₃.nextId, h₂.nextId] at hreceive
  rw [hreceive]
  constructor
  · intro h
    exact .inr (.inr (.inr ⟨hzero, h⟩))
  · rintro (h | h | h | ⟨-, h⟩)
    · exact absurd h hid
    · exact absurd h hp
    · exact absurd h hadd
    · exact h

/-- With a retained message for its last check the suite cleans up. -/
theorem suite_table_iff_replaying :
    MockWorld.table (runFullPubsubValidationSuite (pubSub .debug (.stored _ _)) replaying).2 =
      replaying.table := by
  have hreach : (mock (.log MqttMessage) .debug "mock-client").Reachable replaying :=
    execAll_reachable .debug (by decide)
  have hfree : ∀ s ∈ replaying.table, s.topic ≠ "test/topic" ∧ s.topic ≠ "test/subscribe" := by
    decide
  refine (suite_table_iff hreach hfree).mpr (.inr (.inr (.inr ⟨by decide, .inr ?_⟩)))
  exact ⟨_, rfl⟩

/-- On a new client it leaves the subscription of its last check. -/
theorem suite_leaves_subscription :
    ¬ ∀ w : MockWorld (.log MqttMessage), (mock _ .debug "mock-client").Reachable w →
      (∀ s ∈ w.table, s.topic ≠ "test/topic" ∧ s.topic ≠ "test/subscribe") →
      MockWorld.table (runFullPubsubValidationSuite (pubSub .debug (.stored _ _)) w).2 =
        w.table := by
  intro hall
  have hsame := hall (.new _ "mock-client") ⟨[], _, rfl, .nil⟩ (by decide)
  revert hsame
  decide

end StingerMqtt

import StingerMqtt.Concurrent.Ledger
import StingerMqtt.Concurrent.Schedule

/-!
# How often a message is sent to one subscription

The fan-out of a call sends to a subscription at most once, and so does the
replay of its subscribe. Both do only if the replay comes between the two
sections of the call: `retained_messages` is released before `subscriptions` is
taken.
-/

namespace StingerMqtt

open Kit Mock MockWorld

variable {B : Broadcast MqttMessage} {p : Profile} {cfg : Config B} {ls : List Label}

/-- In a list without repetitions `a`, `b` and `c` come in this order if `a`
comes before `b` and `b` before `c`. -/
theorem sublist_join {α : Type} {l : List α} (hnodup : l.Nodup) {a b c : α}
    (hab : [a, b].Sublist l) (hbc : [b, c].Sublist l) : [a, b, c].Sublist l := by
  obtain ⟨r₁, r₂, rfl, ha, hb⟩ := List.cons_sublist_iff.mp hab
  obtain ⟨l₁, l₂, hl, h₁, h₂⟩ := List.sublist_append_iff.mp hbc
  have hb₁ : b ∉ r₁ := fun hmem =>
    List.disjoint_of_nodup_append hnodup hmem (List.singleton_sublist.mp hb)
  -- so the pair `b`, `c` is in the part after `a`
  cases l₁ with
  | nil =>
      rw [List.nil_append] at hl
      rw [← hl] at h₂
      exact (List.singleton_sublist.mpr ha).append h₂
  | cons x l₁ =>
      rw [List.cons_append] at hl
      obtain ⟨rfl, -⟩ := List.cons.inj hl
      exact absurd (h₁.mem List.mem_cons_self) hb₁

/-- What was sent to the subscription of one subscribe on behalf of one
`simulate_receive`. -/
def Config.copiesTo (cfg : Config B) (call subscription : CallId) : List Delivery :=
  cfg.deliveries.filter fun d => d.call = some call ∧ d.subscription = subscription

theorem mem_copiesTo {call subscription : CallId} {d : Delivery} :
    d ∈ cfg.copiesTo call subscription ↔
      d ∈ cfg.deliveries ∧ d.call = some call ∧ d.subscription = subscription := by
  unfold Config.copiesTo
  rw [List.mem_filter, decide_eq_true_iff]

/-- They were not sent in the same section. -/
theorem vias_nodup (h : Ledger ls cfg) (call subscription : CallId) :
    ((cfg.copiesTo call subscription).map Delivery.via).Nodup := by
  have hnodup : (cfg.copiesTo call subscription).Nodup :=
    (h.once.of_map _).sublist List.filter_sublist
  refine List.Nodup.map_on ?_ hnodup
  intro d hd d' hd' hvia
  obtain ⟨hmem, hcall, hsub⟩ := mem_copiesTo.mp hd
  obtain ⟨hmem', hcall', hsub'⟩ := mem_copiesTo.mp hd'
  apply List.inj_on_of_nodup_map h.once hmem hmem'
  unfold Delivery.key
  rw [hcall, hcall', hsub, hsub', hvia]

theorem vias_subset (vias : List Via) : vias ⊆ [.fanOut, .replay] := by
  intro via _
  cases via <;> simp

/-- Two copies are one of each section. -/
theorem both_sections (h : Ledger ls cfg) {call subscription : CallId}
    (htwo : (cfg.copiesTo call subscription).length = 2) :
    (∃ d ∈ cfg.copiesTo call subscription, d.via = .fanOut) ∧
      ∃ d ∈ cfg.copiesTo call subscription, d.via = .replay := by
  have hperm : ((cfg.copiesTo call subscription).map Delivery.via).Perm [.fanOut, .replay] := by
    refine (List.subperm_of_subset (vias_nodup h call subscription)
      (vias_subset _)).perm_of_length_le ?_
    rw [List.length_map, htwo]
    exact Nat.le_refl 2
  exact ⟨List.mem_map.mp (hperm.mem_iff.mpr (by simp)),
    List.mem_map.mp (hperm.mem_iff.mpr (by simp))⟩

/-- In whatever order the sections come, a `simulate_receive` sends its message
to a subscription at most once, unless the subscribe replays between the two
sections of the call; then it is at most twice. -/
theorem copies_of_call {clientId : String} (h : (clones B p clientId).Trace ls cfg)
    (call subscription : CallId) :
    (∀ c, cfg.world.channels.sent c =
      Bank.onChannel c (copies (cfg.deliveries.map Delivery.send))) ∧
    (∀ d ∈ cfg.copiesTo call subscription,
      Move.invoke call (.simulateReceive d.message) ∈ moves ls) ∧
    (cfg.copiesTo call subscription).length ≤ 2 ∧
    ((cfg.copiesTo call subscription).length = 2 → ∃ m,
      [Move.store call m, .replay subscription, .fanOut call m].Sublist (moves ls)) := by
  have hc := clones_calls h
  have ha := clones_announced h
  have hl := clones_ledger h
  have hfan : ∀ d ∈ cfg.copiesTo call subscription, d.via = .fanOut →
      [Move.replay subscription, .fanOut call d.message].Sublist (moves ls) := by
    intro d hd hvia
    obtain ⟨hmem, hcall, rfl⟩ := mem_copiesTo.mp hd
    exact (hl.due d hmem).fanOut hvia hcall
  have hreplay : ∀ d ∈ cfg.copiesTo call subscription, d.via = .replay →
      [Move.store call d.message, .replay subscription].Sublist (moves ls) := by
    intro d hd hvia
    obtain ⟨hmem, hcall, rfl⟩ := mem_copiesTo.mp hd
    exact (hl.due d hmem).replay hvia hcall
  refine ⟨clones_sent h, ?_, ?_, ?_⟩
  · intro d hd
    cases hvia : d.via with
    | fanOut =>
        have hmem : Move.fanOut call d.message ∈ moves ls := (hfan d hd hvia).mem (by simp)
        exact ha.after _ hmem call d.message rfl
    | replay =>
        have hmem : Move.store call d.message ∈ moves ls := (hreplay d hd hvia).mem (by simp)
        exact ha.after _ hmem call d.message rfl
  · have hle := (List.subperm_of_subset (vias_nodup hl call subscription)
      (vias_subset _)).length_le
    simpa using hle
  · intro htwo
    -- store before replay and replay before fan-out, around the one replay
    obtain ⟨⟨d, hd, hvia⟩, d', hd', hvia'⟩ := both_sections hl htwo
    have hfan := hfan d hd hvia
    have hreplay := hreplay d' hd' hvia'
    have hmem : Move.fanOut call d.message ∈ moves ls := hfan.mem (by simp)
    have hmem' : Move.store call d'.message ∈ moves ls := hreplay.mem (by simp)
    have hsame : d.message = d'.message := ha.unique hc hmem hmem' rfl rfl
    refine ⟨d.message, sublist_join (hc.keys_nodup.of_map _) ?_ hfan⟩
    rw [hsame]
    exact hreplay

/-- A subscribe comes between the two sections of a `simulate_receive`. -/
def subscribeBetween : List Turn :=
  [.call 0 (.channel 4), .go 0, .go 0,
    .call 0 (.simulateReceive (.simple "a" .atMostOnce true [1])), .go 0,
    .call 1 (.subscribe "a" .atMostOnce 0 (.stored _ _)), .go 1, .go 1, .go 1, .go 1,
    .go 0, .go 0]

/-- The run of this schedule. -/
def betweenRun : List Label × Config (.log MqttMessage) :=
  ((Config.new (.log MqttMessage) "mock-client").play .debug (fun _ => True)
    subscribeBetween).get (by decide)

theorem betweenRun_trace :
    (clones (.log MqttMessage) .debug "mock-client").Trace betweenRun.1 betweenRun.2 :=
  TSys.within_trace (Config.play_trace trivial (Option.some_get _).symm)

theorem betweenRun_twice : (betweenRun.2.copiesTo 1 2).length = 2 := by decide

theorem copies_of_call_run :
    (betweenRun.2.copiesTo 1 2).length = 2 ∧ ∃ m,
      [Move.store 1 m, .replay 2, .fanOut 1 m].Sublist (moves betweenRun.1) := by
  obtain ⟨-, -, -, hbetween⟩ := copies_of_call betweenRun_trace 1 2
  exact ⟨betweenRun_twice, hbetween betweenRun_twice⟩

/-- It is not true that a call sends to a subscription at most once. -/
theorem not_sent_once :
    ¬ ∀ ls cfg, (clones (.log MqttMessage) .debug "mock-client").Trace ls cfg →
      ∀ call subscription, (cfg.copiesTo call subscription).length ≤ 1 := by
  intro h
  have hle := h betweenRun.1 betweenRun.2 betweenRun_trace 1 2
  rw [betweenRun_twice] at hle
  exact absurd hle (by decide)

end StingerMqtt

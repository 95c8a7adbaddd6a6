import StingerMqtt.Kit.TSys

/-!
# Simulations

One system simulates another if it can follow every step of the other, with any
number of steps of its own, and stay related to it. The relation may mention
the labels both have taken so far, so it can also say how the two histories
belong together. `Lockstep` keeps more: which steps follow which step.
-/

namespace Kit

variable {State State' Label Label' : Type}

/-- `N` follows `M` and stays in the relation `R`. -/
structure Simulation (M : TSys State Label) (N : TSys State' Label')
    (R : List Label → State → List Label' → State' → Prop) : Prop where
  init : ∀ s, M.init s → ∃ s', N.init s' ∧ R [] s [] s'
  step : ∀ ls s l s₁ ls' s', M.Trace ls s → N.Trace ls' s' → R ls s ls' s' → M.step s l s₁ →
    ∃ more s₁', N.Run s' more s₁' ∧ R (ls ++ [l]) s₁ (ls' ++ more) s₁'

namespace Simulation

variable {M : TSys State Label} {N : TSys State' Label'}
  {R : List Label → State → List Label' → State' → Prop}

/-- What follows every step follows every run. -/
theorem trace (h : Simulation M N R) {ls : List Label} {s : State} (htrace : M.Trace ls s) :
    ∃ ls' s', N.Trace ls' s' ∧ R ls s ls' s' := by
  refine TSys.Trace.induct (I := fun ls s => ∃ ls' s', N.Trace ls' s' ∧ R ls s ls' s') ?_ ?_ htrace
  · intro s hs
    obtain ⟨s', hs', hR⟩ := h.init s hs
    exact ⟨[], s', ⟨s', hs', .nil⟩, hR⟩
  · intro ls s l s₁ htrace ih hstep
    obtain ⟨ls', s', htrace', hR⟩ := ih
    obtain ⟨more, s₁', hrun, hR₁⟩ := h.step ls s l s₁ ls' s' htrace htrace' hR hstep
    exact ⟨ls' ++ more, s₁', htrace'.append hrun, hR₁⟩

end Simulation

/-! ## Step by step -/

/-- `N` goes along with a run of `M` from `s₀`: for each step `l` of the run, taken
in `s`, it takes some steps `more`, maybe none, with `belong s l more`, and the two
are in the relation `R` at the start and after each step of the run. -/
inductive Lockstep (M : TSys State Label) (N : TSys State' Label')
    (belong : State → Label → List Label' → Prop)
    (R : List Label → State → List Label' → State' → Prop) (s₀ : State) (s₀' : State') :
    List Label → State → List (List Label') → State' → Prop
  | nil : R [] s₀ [] s₀' → Lockstep M N belong R s₀ s₀' [] s₀ [] s₀'
  | snoc {ls s l s₁ steps s' more s₁'} : Lockstep M N belong R s₀ s₀' ls s steps s' →
      M.step s l s₁ → N.Run s' more s₁' → belong s l more →
      R (ls ++ [l]) s₁ (steps.flatten ++ more) s₁' →
      Lockstep M N belong R s₀ s₀' (ls ++ [l]) s₁ (steps ++ [more]) s₁'

namespace Lockstep

variable {M : TSys State Label} {N : TSys State' Label'}
  {belong : State → Label → List Label' → Prop}
  {R : List Label → State → List Label' → State' → Prop} {s₀ s : State} {s₀' s' : State'}
  {ls : List Label} {steps : List (List Label')}

/-- The steps taken are a run. -/
theorem run (h : Lockstep M N belong R s₀ s₀' ls s steps s') : N.Run s₀' steps.flatten s' := by
  induction h with
  | nil => exact .nil
  | snoc _ _ hmore _ _ ih =>
      rw [List.flatten_concat]
      exact ih.append hmore

/-- At the end the two are related. -/
theorem related (h : Lockstep M N belong R s₀ s₀' ls s steps s') : R ls s steps.flatten s' := by
  cases h with
  | nil hR => exact hR
  | snoc _ _ _ _ hR =>
      rw [List.flatten_concat]
      exact hR

/-- Who can always take the next steps goes along with every run. -/
theorem of_run (hinit : R [] s₀ [] s₀')
    (hstep : ∀ ls s l s₁ steps s', M.Run s₀ ls s → Lockstep M N belong R s₀ s₀' ls s steps s' →
      M.step s l s₁ → ∃ more s₁', N.Run s' more s₁' ∧ belong s l more ∧
        R (ls ++ [l]) s₁ (steps.flatten ++ more) s₁')
    (h : M.Run s₀ ls s) : ∃ steps s', Lockstep M N belong R s₀ s₀' ls s steps s' := by
  induction h with
  | nil => exact ⟨[], s₀', .nil hinit⟩
  | snoc hrun hlast ih =>
      obtain ⟨steps, s', hlock⟩ := ih
      obtain ⟨more, s₁', hmore, hbelong, hR⟩ := hstep _ _ _ _ steps s' hrun hlock hlast
      exact ⟨steps ++ [more], s₁', hlock.snoc hlast hmore hbelong hR⟩

end Lockstep

end Kit

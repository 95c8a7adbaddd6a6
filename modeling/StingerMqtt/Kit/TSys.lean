import Mathlib.Data.List.Induction

/-!
# Labelled transition systems

Finite runs with the list of labels they took, invariants that may mention
that list, and the restriction of a system to the runs that never leave a set
of states, or that take a label only where it is allowed. Labels are appended
at the end, so a run reads in call order.
-/

namespace Kit

/-- A labelled transition system: the states it may start in and its steps. -/
structure TSys (State Label : Type) where
  init : State → Prop
  step : State → Label → State → Prop

namespace TSys

variable {State Label : Type} (M : TSys State Label)

/-- `M.Run s ls s'`: `M` can go from `s` to `s'` taking the labels `ls`. -/
inductive Run (s : State) : List Label → State → Prop
  | nil : Run s [] s
  | snoc {ls : List Label} {s' s'' : State} {l : Label} :
      Run s ls s' → M.step s' l s'' → Run s (ls ++ [l]) s''

/-- A run from an initial state. -/
def Trace (ls : List Label) (s : State) : Prop :=
  ∃ s₀, M.init s₀ ∧ M.Run s₀ ls s

/-- The states some trace ends in. -/
def Reachable (s : State) : Prop := ∃ ls, M.Trace ls s

/-- The system whose runs are the runs of `M` through states of `P` only. -/
def within (P : State → Prop) : TSys State Label where
  init s := M.init s ∧ P s
  step s l s' := M.step s l s' ∧ P s'

/-- The system whose runs are the runs of `M` that take a label only in a state
that allows it. -/
def guarded (allows : State → Label → Prop) : TSys State Label where
  init := M.init
  step s l s' := M.step s l s' ∧ allows s l

variable {M}

/-! ## Runs -/

theorem Run.single {s s' : State} {l : Label} (h : M.step s l s') : M.Run s [l] s' :=
  .snoc .nil h

theorem Run.append {s s' s'' : State} {ls ls' : List Label}
    (h : M.Run s ls s') (h' : M.Run s' ls' s'') : M.Run s (ls ++ ls') s'' := by
  induction h' with
  | nil => simpa using h
  | snoc _ hstep ih =>
      rw [← List.append_assoc]
      exact .snoc ih hstep

theorem Run.cons {s s' s'' : State} {l : Label} {ls : List Label}
    (hstep : M.step s l s') (h : M.Run s' ls s'') : M.Run s (l :: ls) s'' :=
  (Run.single hstep).append h

/-- A run without labels stays where it is. -/
theorem Run.nil_inv {s s' : State} (h : M.Run s [] s') : s' = s := by
  generalize hls : ([] : List Label) = all at h
  cases h with
  | nil => rfl
  | snoc _ _ => simp at hls

/-- The last step of a run that ends with `l`. -/
theorem Run.snoc_inv {s s'' : State} {ls : List Label} {l : Label}
    (h : M.Run s (ls ++ [l]) s'') : ∃ s', M.Run s ls s' ∧ M.step s' l s'' := by
  generalize hls : ls ++ [l] = all at h
  cases h with
  | nil => simp at hls
  | snoc hrun hstep =>
      obtain ⟨rfl, hl⟩ := List.append_inj' hls rfl
      obtain rfl : l = _ := by simpa using hl
      exact ⟨_, hrun, hstep⟩

/-- A run splits wherever its labels do. -/
theorem Run.split {s s'' : State} {ls ls' : List Label}
    (h : M.Run s (ls ++ ls') s'') : ∃ s', M.Run s ls s' ∧ M.Run s' ls' s'' := by
  induction ls' using List.reverseRecOn generalizing s'' with
  | nil => exact ⟨s'', by simpa using h, .nil⟩
  | append_singleton init l ih =>
      rw [← List.append_assoc] at h
      obtain ⟨mid, hrun, hstep⟩ := h.snoc_inv
      obtain ⟨s', hfst, hsnd⟩ := ih hrun
      exact ⟨s', hfst, hsnd.snoc hstep⟩

/-- The first step of a run that starts with `l`. -/
theorem Run.cons_inv {s s'' : State} {l : Label} {ls : List Label}
    (h : M.Run s (l :: ls) s'') : ∃ s', M.step s l s' ∧ M.Run s' ls s'' := by
  have hsplit : M.Run s ([] ++ [l] ++ ls) s'' := by simpa using h
  obtain ⟨s', hfst, hsnd⟩ := hsplit.split
  obtain ⟨s₀, hnil, hstep⟩ := hfst.snoc_inv
  obtain rfl := hnil.nil_inv
  exact ⟨s', hstep, hsnd⟩

/-- What no step with one of its labels breaks still holds after a run. -/
theorem Run.preserves {P : State → Prop} {s s' : State} {ls : List Label} (h : M.Run s ls s')
    (hstep : ∀ s l s', l ∈ ls → M.step s l s' → P s → P s') (hs : P s) : P s' := by
  induction h with
  | nil => exact hs
  | snoc _ hlast ih =>
      refine hstep _ _ _ (by simp) hlast (ih ?_)
      intro s l s' hl
      exact hstep s l s' (List.mem_append_left _ hl)

/-- If counted steps make a rank smaller and no step makes it larger, a run has
no more of them than the rank it starts with. -/
theorem Run.countP_le {rank : State → Nat} {counted : Label → Bool} {s s' : State}
    {ls : List Label} (h : M.Run s ls s')
    (hstep : ∀ s l s', M.step s l s' → rank s' + (counted l).toNat ≤ rank s) :
    ls.countP counted + rank s' ≤ rank s := by
  induction h with
  | nil => simp
  | @snoc ls mid s' l _ hlast ih =>
      have hrank := hstep _ _ _ hlast
      have hcount : (ls ++ [l]).countP counted = ls.countP counted + (counted l).toNat := by
        rw [List.countP_append, List.countP_singleton]
        cases counted l <;> rfl
      omega

/-! ## Systems with a step function -/

/-- Take the steps one after the other, with a function that says what a step
leads to, if it can be taken. -/
def runAll (next : State → Label → Option State) (s : State) : List Label → Option State
  | [] => some s
  | l :: ls => (next s l).bind fun s' => runAll next s' ls

theorem runAll_run {next : State → Label → Option State}
    (hnext : ∀ s l s', next s l = some s' → M.step s l s') {s s' : State} {ls : List Label}
    (h : runAll next s ls = some s') : M.Run s ls s' := by
  induction ls generalizing s with
  | nil =>
      obtain rfl : s = s' := Option.some.inj h
      exact .nil
  | cons l ls ih =>
      obtain ⟨s₁, hstep, hrest⟩ := Option.bind_eq_some_iff.mp h
      exact .cons (hnext s l s₁ hstep) (ih hrest)

theorem runAll_append {next : State → Label → Option State} {s s' : State} {ls : List Label}
    (h : runAll next s ls = some s') (ls' : List Label) :
    runAll next s (ls ++ ls') = runAll next s' ls' := by
  induction ls generalizing s with
  | nil =>
      obtain rfl : s = s' := Option.some.inj h
      rfl
  | cons l ls ih =>
      obtain ⟨s₁, hstep, hrest⟩ := Option.bind_eq_some_iff.mp h
      show (next s l).bind _ = _
      rw [hstep]
      exact ih hrest

/-! ## Traces and invariants -/

theorem Trace.snoc {ls : List Label} {s s' : State} {l : Label}
    (h : M.Trace ls s) (hstep : M.step s l s') : M.Trace (ls ++ [l]) s' := by
  obtain ⟨s₀, hinit, hrun⟩ := h
  exact ⟨s₀, hinit, hrun.snoc hstep⟩

theorem Trace.append {ls ls' : List Label} {s s' : State}
    (h : M.Trace ls s) (hrun : M.Run s ls' s') : M.Trace (ls ++ ls') s' := by
  obtain ⟨s₀, hinit, hrun₀⟩ := h
  exact ⟨s₀, hinit, hrun₀.append hrun⟩

theorem Trace.split {ls ls' : List Label} {s' : State}
    (h : M.Trace (ls ++ ls') s') : ∃ s, M.Trace ls s ∧ M.Run s ls' s' := by
  obtain ⟨s₀, hinit, hrun⟩ := h
  obtain ⟨s, hfst, hsnd⟩ := hrun.split
  exact ⟨s, ⟨s₀, hinit, hfst⟩, hsnd⟩

theorem Reachable.step {s s' : State} {l : Label}
    (h : M.Reachable s) (hstep : M.step s l s') : M.Reachable s' := by
  obtain ⟨ls, htrace⟩ := h
  exact ⟨ls ++ [l], htrace.snoc hstep⟩

/-- A property of a history and the state it leads to that no step breaks. -/
structure Inductive (M : TSys State Label) (I : List Label → State → Prop) : Prop where
  init : ∀ s, M.init s → I [] s
  step : ∀ ls s l s', I ls s → M.step s l s' → I (ls ++ [l]) s'

/-- An inductive property holds at the end of every trace. -/
theorem Inductive.trace {I : List Label → State → Prop} (h : M.Inductive I)
    {ls : List Label} {s : State} (htrace : M.Trace ls s) : I ls s := by
  obtain ⟨s₀, hinit, hrun⟩ := htrace
  induction hrun with
  | nil => exact h.init s₀ hinit
  | snoc _ hstep ih => exact h.step _ _ _ _ ih hstep

/-- An inductive property of states alone holds in every reachable state. -/
theorem Inductive.reachable {P : State → Prop} (h : M.Inductive fun _ s => P s)
    {s : State} (hreach : M.Reachable s) : P s := by
  obtain ⟨ls, htrace⟩ := hreach
  exact h.trace htrace

/-- Induction along a trace, with the trace so far at hand. -/
theorem Trace.induct {I : List Label → State → Prop} (hinit : ∀ s, M.init s → I [] s)
    (hstep : ∀ ls s l s', M.Trace ls s → I ls s → M.step s l s' → I (ls ++ [l]) s')
    {ls : List Label} {s : State} (h : M.Trace ls s) : I ls s := by
  obtain ⟨s₀, hs₀, hrun⟩ := h
  induction hrun with
  | nil => exact hinit s₀ hs₀
  | snoc hrun hlast ih => exact hstep _ _ _ _ ⟨s₀, hs₀, hrun⟩ ih hlast

/-! ## Restricted systems -/

theorem within_run {P : State → Prop} {s s' : State} {ls : List Label}
    (h : (M.within P).Run s ls s') : M.Run s ls s' := by
  induction h with
  | nil => exact .nil
  | snoc _ hstep ih => exact ih.snoc hstep.1

theorem within_trace {P : State → Prop} {ls : List Label} {s : State}
    (h : (M.within P).Trace ls s) : M.Trace ls s := by
  obtain ⟨s₀, hinit, hrun⟩ := h
  exact ⟨s₀, hinit.1, within_run hrun⟩

/-- A restricted run ends inside `P`. -/
theorem within_last {P : State → Prop} {s s' : State} {ls : List Label}
    (h : (M.within P).Run s ls s') (hs : P s) : P s' := by
  cases h with
  | nil => exact hs
  | snoc _ hstep => exact hstep.2

theorem within_trace_last {P : State → Prop} {ls : List Label} {s : State}
    (h : (M.within P).Trace ls s) : P s := by
  obtain ⟨s₀, hinit, hrun⟩ := h
  exact within_last hrun hinit.2

theorem guarded_run {allows : State → Label → Prop} {s s' : State} {ls : List Label}
    (h : (M.guarded allows).Run s ls s') : M.Run s ls s' := by
  induction h with
  | nil => exact .nil
  | snoc _ hstep ih => exact ih.snoc hstep.1

theorem guarded_trace {allows : State → Label → Prop} {ls : List Label} {s : State}
    (h : (M.guarded allows).Trace ls s) : M.Trace ls s := by
  obtain ⟨s₀, hinit, hrun⟩ := h
  exact ⟨s₀, hinit, guarded_run hrun⟩

/-- The step a trace of a restricted system takes at one of its labels. -/
theorem guarded_step {allows : State → Label → Prop} {before after : List Label} {l : Label}
    {s'' : State} (h : (M.guarded allows).Trace (before ++ l :: after) s'') :
    ∃ s s', (M.guarded allows).Trace before s ∧ M.step s l s' ∧ allows s l := by
  obtain ⟨s, hbefore, hrun⟩ := h.split
  obtain ⟨s', ⟨hstep, hallows⟩, -⟩ := hrun.cons_inv
  exact ⟨s, s', hbefore, hstep, hallows⟩

end TSys

end Kit

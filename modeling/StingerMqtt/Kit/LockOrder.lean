import Mathlib.Data.Set.Insert
import Mathlib.Order.WellFounded
import Mathlib.Logic.Relation
import Mathlib.Logic.Function.Basic
import StingerMqtt.Kit.Panic
import StingerMqtt.Kit.TSys

/-!
# Programs that take mutexes in order

`Prog M W` is what a thread still has to do with mutexes `M` and a shared state
`W`: to take a mutex, to drop one, or to work on the state. Taking and dropping
are steps of their own. If every thread takes mutexes in increasing order only,
no state is stuck and no threads wait for each other in a circle.
-/

namespace Kit

/-- What a thread still has to do. -/
inductive Prog (M W : Type) where
  | done
  | acquire (m : M) (next : Prog M W)
  | release (m : M) (next : Prog M W)
  | run (act : W → W) (next : W → Prog M W)

namespace Prog

variable {M W : Type}

/-- What a thread does that runs without others. -/
def eval : Prog M W → W → W
  | done, w => w
  | acquire _ next, w => next.eval w
  | release _ next, w => next.eval w
  | run act next, w => (next w).eval (act w)

/-- With the mutexes `held` in hand the program takes others in increasing
order only, drops what it holds, and has dropped all when it is done. -/
def Ordered [LT M] (held : Set M) : Prog M W → Prop
  | done => held = ∅
  | acquire m next => (∀ m' ∈ held, m' < m) ∧ next.Ordered (insert m held)
  | release m next => m ∈ held ∧ next.Ordered (held \ {m})
  | run _ next => ∀ w, (next w).Ordered held

/-! ## Sections that may panic -/

/-- Drop the mutexes `held`, the first one first. -/
def releaseAll (held : List M) (next : Prog M W) : Prog M W :=
  held.foldr release next

/-- Work on the state with the mutexes `held` in hand, the last one taken first
in the list. A panic drops them all and goes on at `caught`. -/
def critical {α : Type} (held : List M) (act : Act W α) (next : α → Prog M W)
    (caught : Prog M W) : Prog M W :=
  .run (fun w => (act w).2) fun w =>
    match (act w).1 with
    | .returned value => next value
    | .panicked => releaseAll held caught

/-- One section under one mutex, dropped at its end also if it panics. -/
def locked {α : Type} (m : M) (act : Act W α) (next caught : Prog M W) : Prog M W :=
  .acquire m (critical [m] act (fun _ => .release m next) caught)

section

variable {α : Type} {held : List M} {m : M} {act : Act W α} {next caught : Prog M W}
  {after : α → Prog M W} {w : W}

@[simp] theorem eval_releaseAll (held : List M) (next : Prog M W) (w : W) :
    (releaseAll held next).eval w = next.eval w := by
  induction held with
  | nil => rfl
  | cons m held ih => exact ih

/-- A section whose other parts do to the state what `f` does is the section
and then `f`, up to the first panic. -/
theorem eval_critical {β : Type} {f : α → Act W β}
    (hafter : ∀ value w, (after value).eval w = caught.eval (f value w).2) :
    (critical held act after caught).eval w = caught.eval ((act >>= f) w).2 := by
  unfold critical
  rw [Act.bind_apply, eval]
  generalize act w = result
  obtain ⟨outcome, w'⟩ := result
  cases outcome with
  | returned value => exact hafter value w'
  | panicked => exact eval_releaseAll held caught w'

/-- A section is one step, and then what follows it or the way out of a panic. -/
theorem critical_run (held : List M) (act : Act W α) (after : α → Prog M W)
    (caught : Prog M W) :
    ∃ rest, critical held act after caught = .run (fun w => (act w).2) rest ∧
      (∀ w value, (act w).1 = .returned value → rest w = after value) ∧
      ∀ w, (act w).1 = .panicked → rest w = releaseAll held caught := by
  refine ⟨_, rfl, ?_, ?_⟩
  · intro w value hout
    simp only [hout]
  · intro w hout
    simp only [hout]

theorem eval_locked {β : Type} {f : α → Act W β}
    (hnext : ∀ value w, next.eval w = caught.eval (f value w).2) :
    (locked m act next caught).eval w = caught.eval ((act >>= f) w).2 :=
  eval_critical hnext

/-- A thread that goes on in the same way whether or not the section panicked
goes on with what the section did to the state. -/
@[simp] theorem eval_locked_same : (locked m act next next).eval w = next.eval (act w).2 := by
  rw [eval_locked (f := fun value => pure value) fun _ _ => rfl, Act.bind_apply]
  generalize act w = result
  obtain ⟨outcome, w'⟩ := result
  cases outcome with
  | returned value => rfl
  | panicked => rfl

variable [LT M]

theorem Ordered.acquire (hm : ∀ m' ∈ held, m' < m) (h : next.Ordered {m' | m' ∈ m :: held}) :
    (Prog.acquire m next).Ordered {m' | m' ∈ held} := by
  refine ⟨hm, ?_⟩
  have hinsert : insert m {m' | m' ∈ held} = {m' | m' ∈ m :: held} := by
    ext m'
    simp
  rw [hinsert]
  exact h

theorem Ordered.release (hm : m ∉ held) (h : next.Ordered {m' | m' ∈ held}) :
    (Prog.release m next).Ordered {m' | m' ∈ m :: held} := by
  refine ⟨List.mem_cons_self, ?_⟩
  have hremove : {m' | m' ∈ m :: held} \ {m} = {m' | m' ∈ held} := by
    ext m'
    show (m' ∈ m :: held ∧ m' ≠ m) ↔ m' ∈ held
    by_cases heq : m' = m
    · simp [heq, hm]
    · simp [heq]
  rw [hremove]
  exact h

theorem Ordered.releaseAll (hheld : held.Nodup) (h : next.Ordered ∅) :
    (Prog.releaseAll held next).Ordered {m' | m' ∈ held} := by
  induction held with
  | nil => simpa [Prog.releaseAll] using h
  | cons m held ih =>
      obtain ⟨hm, hheld⟩ := List.nodup_cons.mp hheld
      exact Ordered.release hm (ih hheld)

theorem Ordered.critical (hheld : held.Nodup)
    (hafter : ∀ value, (after value).Ordered {m' | m' ∈ held}) (hcaught : caught.Ordered ∅) :
    (Prog.critical held act after caught).Ordered {m' | m' ∈ held} := by
  intro w
  show (match (act w).1 with
    | .returned value => after value
    | .panicked => Prog.releaseAll held caught).Ordered {m' | m' ∈ held}
  cases (act w).1 with
  | returned value => exact hafter value
  | panicked => exact Ordered.releaseAll hheld hcaught

theorem Ordered.locked (hnext : next.Ordered ∅) (hcaught : caught.Ordered ∅) :
    (Prog.locked m act next caught).Ordered ∅ := by
  have hsection : (Prog.locked m act next caught).Ordered {m' | m' ∈ ([] : List M)} := by
    apply Ordered.acquire (by simp)
    apply Ordered.critical (by simp) _ hcaught
    intro _
    exact Ordered.releaseAll (by simp) hnext
  simpa using hsection

end

end Prog

/-! ## Threads -/

/-- The shared state, who holds each mutex, and what each thread has to do. -/
structure Threads (M W : Type) where
  world : W
  holder : M → Option Nat
  progs : Nat → Prog M W

namespace Threads

variable {M W : Type} [DecidableEq M] (s : Threads M W) (t : Nat)

/-- Thread `t` goes on at `prog`. -/
def goto (prog : Prog M W) : Threads M W := { s with progs := Function.update s.progs t prog }

/-- Who holds what after `m` got a new holder, or none. -/
def setHolder (m : M) (holder : Option Nat) : Threads M W :=
  { s with holder := Function.update s.holder m holder }

/-- The next step of thread `t`; `none` if it has to wait or is done. -/
def advance : Option (Threads M W) :=
  match s.progs t with
  | .done => none
  | .acquire m next =>
    if s.holder m = none then some ((s.setHolder m (some t)).goto t next) else none
  | .release m next => some ((s.setHolder m none).goto t next)
  | .run act next => some ({ s with world := act s.world }.goto t (next s.world))

end Threads

/-- Threads that start in the state `world` with the programs `progs`; a step is
labelled with the thread that takes it. -/
def threads {M W : Type} [DecidableEq M] (world : W) (progs : Nat → Prog M W) :
    TSys (Threads M W) Nat where
  init s := s = ⟨world, fun _ => none, progs⟩
  step s t s' := s.advance t = some s'

namespace Threads

variable {M W : Type} {s s' : Threads M W} {t t' : Nat} {m : M} {next : Prog M W}

/-- The mutexes thread `t` holds. -/
def held (s : Threads M W) (t : Nat) : Set M := fun m => s.holder m = some t

/-- Thread `t` wants a mutex that `t'` holds. -/
def WaitsFor (s : Threads M W) (t t' : Nat) : Prop :=
  ∃ m next, s.progs t = .acquire m next ∧ m ∈ s.held t'

/-- Every thread goes on in increasing order from the mutexes it holds. -/
def Ordered [LT M] (s : Threads M W) : Prop := ∀ t, (s.progs t).Ordered (s.held t)

/-! ## Who holds what -/

section

variable [DecidableEq M]

theorem held_setHolder_self (s : Threads M W) (m : M) (t : Nat) :
    (s.setHolder m (some t)).held t = insert m (s.held t) := by
  ext m'
  show Function.update s.holder m (some t) m' = some t ↔ m' = m ∨ s.holder m' = some t
  by_cases hm : m' = m
  · simp [hm]
  · simp [hm]

theorem held_setHolder_ne (hfree : s.holder m = none) (ht : t' ≠ t) :
    (s.setHolder m (some t)).held t' = s.held t' := by
  ext m'
  show Function.update s.holder m (some t) m' = some t' ↔ s.holder m' = some t'
  by_cases hm : m' = m
  · simp [hm, hfree, Ne.symm ht]
  · simp [hm]

theorem held_setHolder_none (s : Threads M W) (m : M) (t : Nat) :
    (s.setHolder m none).held t = s.held t \ {m} := by
  ext m'
  show Function.update s.holder m none m' = some t ↔ s.holder m' = some t ∧ m' ≠ m
  by_cases hm : m' = m
  · simp [hm]
  · simp [hm]

end

theorem Ordered.goto [LT M] (hself : next.Ordered (s.held t))
    (hothers : ∀ t' ≠ t, (s.progs t').Ordered (s.held t')) : (s.goto t next).Ordered := by
  intro t'
  show (Function.update s.progs t next t').Ordered (s.held t')
  by_cases ht : t' = t
  · subst ht
    rw [Function.update_self]
    exact hself
  · rw [Function.update_of_ne ht]
    exact hothers t' ht

/-- A step keeps the order. -/
theorem Ordered.step [DecidableEq M] [LT M] (h : s.Ordered) (hstep : s.advance t = some s') :
    s'.Ordered := by
  have ht := h t
  unfold advance at hstep
  cases hprog : s.progs t with
  | done =>
      rw [hprog] at hstep
      cases hstep
  | acquire m next =>
      rw [hprog] at hstep ht
      simp only [Option.ite_none_right_eq_some, Option.some.injEq] at hstep
      obtain ⟨hfree, rfl⟩ := hstep
      apply Ordered.goto
      · rw [held_setHolder_self]
        exact ht.2
      · intro t' hne
        rw [held_setHolder_ne hfree hne]
        exact h t'
  | release m next =>
      rw [hprog] at hstep ht
      obtain rfl := Option.some.inj hstep
      obtain ⟨hheld, hnext⟩ := ht
      apply Ordered.goto
      · rw [held_setHolder_none]
        exact hnext
      · intro t' hne
        -- `m` was held by `t`, so not by `t'`
        have hnot : m ∉ s.held t' := by
          intro hm
          exact hne (Option.some.inj (hm.symm.trans hheld))
        rw [held_setHolder_none, Set.sdiff_singleton_eq_self hnot]
        exact h t'
  | run act next =>
      rw [hprog] at hstep ht
      obtain rfl := Option.some.inj hstep
      exact Ordered.goto (ht s.world) fun t' _ => h t'

/-- If every thread starts in order, every thread always goes on in order. -/
theorem ordered_reachable [DecidableEq M] [LT M] {world : W} {progs : Nat → Prog M W}
    (hprogs : ∀ t, (progs t).Ordered ∅) (h : (threads world progs).Reachable s) : s.Ordered := by
  have hI : (threads world progs).Inductive fun _ s => s.Ordered := by
    refine ⟨?_, ?_⟩
    · rintro s rfl t
      have hnone : (⟨world, fun _ => none, progs⟩ : Threads M W).held t = ∅ := by
        apply Set.eq_empty_of_forall_notMem
        intro m hm
        cases hm
      rw [hnone]
      exact hprogs t
    · intro _ s t s' hs hstep
      exact hs.step hstep
  exact hI.reachable h

/-! ## What a step does -/

section

variable [DecidableEq M]

theorem advance_acquire (hprog : s.progs t = .acquire m next) (h : s.advance t = some s') :
    s.holder m = none ∧ s' = (s.setHolder m (some t)).goto t next := by
  unfold advance at h
  rw [hprog] at h
  simp only [Option.ite_none_right_eq_some, Option.some.injEq] at h
  exact ⟨h.1, h.2.symm⟩

theorem advance_release (hprog : s.progs t = .release m next) (h : s.advance t = some s') :
    s' = (s.setHolder m none).goto t next := by
  unfold advance at h
  rw [hprog] at h
  exact (Option.some.inj h).symm

theorem advance_run {act : W → W} {after : W → Prog M W} (hprog : s.progs t = .run act after)
    (h : s.advance t = some s') :
    s' = { s with world := act s.world }.goto t (after s.world) := by
  unfold advance at h
  rw [hprog] at h
  exact (Option.some.inj h).symm

theorem advance_done (hprog : s.progs t = .done) : s.advance t = none := by
  unfold advance
  rw [hprog]

end

/-! ## Waiting -/

/-- A thread waits for a mutex beyond all it holds. -/
theorem Ordered.held_lt [LT M] (h : s.Ordered) (hprog : s.progs t = .acquire m next) {m' : M}
    (hm' : m' ∈ s.held t) : m' < m := by
  have ht := h t
  rw [hprog] at ht
  exact ht.1 m' hm'

/-- Along a chain of waiting threads the mutexes increase. -/
theorem Ordered.chain_le [Preorder M] (h : s.Ordered)
    (hchain : Relation.TransGen s.WaitsFor t t') (hprog : s.progs t = .acquire m next) :
    ∃ m' ∈ s.held t', m ≤ m' := by
  induction hchain with
  | single hwaits =>
      obtain ⟨m', next', hprog', hheld⟩ := hwaits
      obtain ⟨rfl, -⟩ := Prog.acquire.inj (hprog.symm.trans hprog')
      exact ⟨m, hheld, le_refl m⟩
  | tail _ hwaits ih =>
      obtain ⟨m', hm', hle⟩ := ih
      obtain ⟨m'', next'', hprog'', hheld⟩ := hwaits
      exact ⟨m'', hheld, hle.trans (h.held_lt hprog'' hm').le⟩

/-- Threads never wait for each other in a circle. -/
theorem Ordered.no_cycle [Preorder M] (h : s.Ordered) (t : Nat) :
    ¬ Relation.TransGen s.WaitsFor t t := by
  intro hcycle
  obtain ⟨m, next, hprog⟩ : ∃ m next, s.progs t = .acquire m next := by
    obtain ⟨t', hwaits, -⟩ := Relation.TransGen.head'_iff.mp hcycle
    obtain ⟨m, next, hprog, -⟩ := hwaits
    exact ⟨m, next, hprog⟩
  obtain ⟨m', hm', hle⟩ := h.chain_le hcycle hprog
  exact lt_irrefl m (hle.trans_lt (h.held_lt hprog hm'))

section

variable [DecidableEq M]

/-- A thread that is not done takes its next step or waits for another. -/
theorem advance_or_waits (hprog : s.progs t ≠ .done) :
    (∃ s', s.advance t = some s') ∨
      ∃ m next t', s.progs t = .acquire m next ∧ m ∈ s.held t' := by
  unfold advance
  cases hnext : s.progs t with
  | done => exact absurd hnext hprog
  | acquire m next =>
      cases hholder : s.holder m with
      | none => exact .inl ⟨_, if_pos hholder⟩
      | some t' => exact .inr ⟨m, next, t', rfl, hholder⟩
  | release m next => exact .inl ⟨_, rfl⟩
  | run act next => exact .inl ⟨_, rfl⟩

/-- As long as some thread is not done, some thread can take a step: the holder
of the last mutex somebody waits for. -/
theorem Ordered.progress [Preorder M] [WellFoundedGT M] (h : s.Ordered)
    (hprog : s.progs t ≠ .done) : ∃ t' s', s.advance t' = some s' := by
  have hheld : ∀ m t', m ∈ s.held t' → ∃ t'' s', s.advance t'' = some s' := by
    intro m
    induction m using WellFoundedGT.induction with
    | ind m ih =>
        intro t' hm
        have hbusy : s.progs t' ≠ .done := by
          intro hdone
          have ht' := h t'
          rw [hdone] at ht'
          have hempty : s.held t' = ∅ := ht'
          rw [hempty] at hm
          exact hm
        rcases advance_or_waits hbusy with ⟨s', hstep⟩ | ⟨m', next, t'', hprog', hm'⟩
        · exact ⟨t', s', hstep⟩
        · exact ih m' (h.held_lt hprog' hm) t'' hm'
  rcases advance_or_waits hprog with ⟨s', hstep⟩ | ⟨m, next, t', -, hm⟩
  · exact ⟨t, s', hstep⟩
  · exact hheld m t' hm

end

/-- Left alone, thread `t` gets from `s` to the end of its program, and leaves
the state as `world'` and no mutex held. -/
def Finishes [DecidableEq M] (world : W) (progs : Nat → Prog M W) (s : Threads M W) (t : Nat)
    (world' : W) : Prop :=
  ∃ n s', (threads world progs).Run s (List.replicate n t) s' ∧ s'.world = world' ∧
    s'.progs = Function.update s.progs t .done ∧ ∀ m, s'.holder m = none

theorem Finishes.step [DecidableEq M] {world world' : W} {progs : Nat → Prog M W}
    {s₁ : Threads M W} (hstep : s.advance t = some (s₁.goto t next)) (hprogs : s₁.progs = s.progs)
    (h : Finishes world progs (s₁.goto t next) t world') : Finishes world progs s t world' := by
  obtain ⟨n, s', hrun, hworld, hdone, hfree⟩ := h
  refine ⟨n + 1, s', ?_, hworld, ?_, hfree⟩
  · rw [List.replicate_succ]
    exact .cons hstep hrun
  · rw [hdone]
    show Function.update (Function.update s₁.progs t next) t .done = _
    rw [Function.update_idem, hprogs]

/-- A mutex that could only be in the hands of `t`, and is not, is free. -/
theorem holder_eq_none {m : M} (halone : ∀ t', m ∈ s.held t' → t' = t) (hm : m ∉ s.held t) :
    s.holder m = none := by
  by_contra hheld
  obtain ⟨t', ht'⟩ := Option.ne_none_iff_exists'.mp hheld
  obtain rfl := halone t' ht'
  exact hm ht'

/-- A thread that nobody gets in the way of does what its program does when it
runs without others. -/
theorem alone [DecidableEq M] [Preorder M] {world : W} {progs : Nat → Prog M W}
    {prog : Prog M W} (hprog : s.progs t = prog) (horder : prog.Ordered (s.held t))
    (halone : ∀ m t', m ∈ s.held t' → t' = t) :
    Finishes world progs s t (prog.eval s.world) := by
  induction prog generalizing s with
  | done =>
      refine ⟨0, s, .nil, rfl, ?_, ?_⟩
      · rw [← hprog, Function.update_eq_self]
      · intro m
        apply holder_eq_none (halone m)
        have hempty : s.held t = ∅ := horder
        rw [hempty]
        exact Set.notMem_empty m
  | acquire m next ih =>
      have hfree : s.holder m = none :=
        holder_eq_none (halone m) fun hm => lt_irrefl m (horder.1 m hm)
      have hstep : s.advance t = some ((s.setHolder m (some t)).goto t next) := by
        unfold advance
        rw [hprog]
        exact if_pos hfree
      refine Finishes.step hstep rfl (ih (Function.update_self ..) ?_ ?_)
      · show next.Ordered ((s.setHolder m (some t)).held t)
        rw [held_setHolder_self]
        exact horder.2
      · intro m' t' hm'
        by_contra hne
        have hm' : m' ∈ (s.setHolder m (some t)).held t' := hm'
        rw [held_setHolder_ne hfree hne] at hm'
        exact hne (halone m' t' hm')
  | release m next ih =>
      have hstep : s.advance t = some ((s.setHolder m none).goto t next) := by
        unfold advance
        rw [hprog]
      refine Finishes.step hstep rfl (ih (Function.update_self ..) ?_ ?_)
      · show next.Ordered ((s.setHolder m none).held t)
        rw [held_setHolder_none]
        exact horder.2
      · intro m' t' hm'
        have hm' : m' ∈ (s.setHolder m none).held t' := hm'
        rw [held_setHolder_none] at hm'
        exact halone m' t' hm'.1
  | run act next ih =>
      have hstep : s.advance t =
          some ({ s with world := act s.world }.goto t (next s.world)) := by
        unfold advance
        rw [hprog]
      exact Finishes.step hstep rfl
        (ih s.world (Function.update_self ..) (horder s.world) halone)

end Threads

end Kit

import Mathlib.Algebra.BigOperators.Group.Finset.Piecewise
import Mathlib.Algebra.Order.BigOperators.Group.Finset
import StingerMqtt.Kit.LockOrder

/-!
# How long programs with mutexes run

A program has a bound on its steps, whatever the state it works on. Finitely
many threads whose programs have bounds take no more steps than the bounds add up
to, in whatever order they come.
-/

namespace Kit

namespace Prog

variable {M W : Type}

/-- The program ends after at most so many steps. -/
inductive Within : Prog M W → Nat → Prop
  | done {n} : Within .done n
  | acquire {m next n} : next.Within n → (acquire m next).Within (n + 1)
  | release {m next n} : next.Within n → (release m next).Within (n + 1)
  | run {act next n} : (∀ w, (next w).Within n) → (run act next).Within (n + 1)

variable {prog next caught : Prog M W} {n k : Nat}

theorem Within.mono (h : prog.Within n) (hle : n ≤ k) : prog.Within k := by
  induction h generalizing k with
  | done => exact .done
  | acquire _ ih =>
      obtain ⟨j, rfl⟩ : ∃ j, k = j + 1 := ⟨k - 1, by omega⟩
      exact .acquire (ih (by omega))
  | release _ ih =>
      obtain ⟨j, rfl⟩ : ∃ j, k = j + 1 := ⟨k - 1, by omega⟩
      exact .release (ih (by omega))
  | run _ ih =>
      obtain ⟨j, rfl⟩ : ∃ j, k = j + 1 := ⟨k - 1, by omega⟩
      exact .run fun w => ih w (by omega)

theorem Within.releaseAll (h : next.Within n) (held : List M) :
    (Prog.releaseAll held next).Within (held.length + n) := by
  induction held with
  | nil => simpa [Prog.releaseAll] using h
  | cons m held ih =>
      have hlength : (m :: held).length + n = held.length + n + 1 := by
        rw [List.length_cons]
        omega
      rw [hlength]
      exact .release ih

/-- A section that may panic. -/
theorem Within.critical {α : Type} {held : List M} {act : Act W α} {after : α → Prog M W}
    (hafter : ∀ value, (after value).Within n) (hcaught : caught.Within k)
    (hle : held.length + k ≤ n) : (Prog.critical held act after caught).Within (n + 1) := by
  refine .run fun w => ?_
  cases (act w).1 with
  | returned value => exact hafter value
  | panicked => exact (hcaught.releaseAll held).mono hle

theorem Within.locked {α : Type} {m : M} {act : Act W α} (h : next.Within n)
    (hcaught : caught.Within n) : (Prog.locked m act next caught).Within (n + 3) := by
  refine .acquire (.critical (fun _ => .release h) hcaught ?_)
  rw [List.length_singleton]
  omega

end Prog

namespace Threads

open Prog

variable {M W : Type} [DecidableEq M] {s s' : Threads M W} {t : Nat} {bound : Nat → Nat}

/-- A step makes the bound of its thread smaller. -/
theorem within_step (h : ∀ t, (s.progs t).Within (bound t)) (hstep : s.advance t = some s') :
    ∃ n, bound t = n + 1 ∧ ∀ t', (s'.progs t').Within (Function.update bound t n t') := by
  have ht := h t
  -- the others keep program and bound
  have hgoto : ∀ {s₁ : Threads M W} {next : Prog M W} {n : Nat}, s₁.progs = s.progs →
      next.Within n → ∀ t', ((s₁.goto t next).progs t').Within (Function.update bound t n t') := by
    intro s₁ next n hprogs hnext t'
    show (Function.update s₁.progs t next t').Within _
    by_cases heq : t' = t
    · subst heq
      rw [Function.update_self, Function.update_self]
      exact hnext
    · rw [Function.update_of_ne heq, Function.update_of_ne heq, hprogs]
      exact h t'
  cases hprog : s.progs t with
  | done =>
      rw [advance_done hprog] at hstep
      cases hstep
  | acquire m next =>
      obtain ⟨-, rfl⟩ := advance_acquire hprog hstep
      rw [hprog] at ht
      generalize hn : bound t = n at ht
      cases ht with
      | acquire hnext => exact ⟨_, rfl, hgoto rfl hnext⟩
  | release m next =>
      obtain rfl := advance_release hprog hstep
      rw [hprog] at ht
      generalize hn : bound t = n at ht
      cases ht with
      | release hnext => exact ⟨_, rfl, hgoto rfl hnext⟩
  | run act next =>
      obtain rfl := advance_run hprog hstep
      rw [hprog] at ht
      generalize hn : bound t = n at ht
      cases ht with
      | run hnext => exact ⟨_, rfl, hgoto rfl (hnext s.world)⟩

/-- A run is no longer than the bounds of the threads add up to. -/
theorem run_length_le {world : W} {progs : Nat → Prog M W} {threadCount : Nat}
    (hb : ∀ t, (s.progs t).Within (bound t)) (hzero : ∀ t, threadCount ≤ t → bound t = 0)
    {ts : List Nat} (hrun : (threads world progs).Run s ts s') :
    ts.length ≤ ∑ t ∈ Finset.range threadCount, bound t := by
  suffices ∃ bound' : Nat → Nat, (∀ t, (s'.progs t).Within (bound' t)) ∧
      (∀ t, threadCount ≤ t → bound' t = 0) ∧
      ts.length + ∑ t ∈ Finset.range threadCount, bound' t =
        ∑ t ∈ Finset.range threadCount, bound t by
    obtain ⟨bound', -, -, hsum⟩ := this
    omega
  induction hrun with
  | nil => exact ⟨bound, hb, hzero, by simp⟩
  | @snoc ts mid s' t _ hstep ih =>
      obtain ⟨bound', hb', hzero', hsum⟩ := ih
      obtain ⟨n, hn, hb''⟩ := within_step hb' hstep
      have ht : t < threadCount := by
        by_contra hge
        rw [hzero' t (by omega)] at hn
        omega
      refine ⟨Function.update bound' t n, hb'', ?_, ?_⟩
      · intro t' hge
        rw [Function.update_of_ne (by omega)]
        exact hzero' t' hge
      · have hmem : t ∈ Finset.range threadCount := Finset.mem_range.mpr ht
        have hold := Finset.add_sum_erase _ bound' hmem
        rw [Finset.sum_update_of_mem hmem, List.length_append, List.length_singleton]
        rw [← Finset.sdiff_singleton_eq_erase] at hold
        omega

end Threads

end Kit

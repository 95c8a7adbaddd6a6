import Mathlib.Data.List.Count
import StingerMqtt.Kit.TSys

/-!
# Waiting by polling

A call looks at a shared state and returns if it sees what it waits for. If
not, it compares the clock with its start, and gives up or sleeps and looks
again. Any number of calls share the state, which changes by events of its own.
Between a look and the comparison that follows it time may pass and the state
may change.
-/

namespace Kit

/-- A way to poll: what a round sees of the state, the answer if that is
enough, the error if time is up, how long to try and how long to sleep. -/
structure Poll (σ V ε α : Type) where
  look : σ → V
  answer : V → Option α
  giveUp : V → ε
  timeout : Nat
  pause : Nat

/-- Where a call is. It looks again when the clock has reached `due`. -/
inductive PollPc (V ε α : Type) where
  | uncalled
  | waiting (start due : Nat)
  | checking (start : Nat) (seen : V)
  | returned (start : Nat) (result : Except ε α)

/-- The clock, the shared state and the calls. -/
structure Polling (σ V ε : Type) {ι : Type} (α : ι → Type) where
  now : Nat
  shared : σ
  pcs : ∀ i, PollPc V ε (α i)

/-- What can happen. -/
inductive PollLabel (E ι : Type) where
  | tick (d : Nat)
  | event (e : E)
  | call (i : ι)
  | look (i : ι)
  | check (i : ι)
  deriving DecidableEq

namespace Polling

variable {σ V ε E ι : Type} {α : ι → Type} [DecidableEq ι]

/-- Nobody has called. -/
def new (s : σ) : Polling σ V ε α where
  now := 0
  shared := s
  pcs _ := .uncalled

/-- Call `i` goes on at `pc`. -/
def goto (cfg : Polling σ V ε α) (i : ι) (pc : PollPc V ε (α i)) : Polling σ V ε α :=
  { cfg with pcs := Function.update cfg.pcs i pc }

/-- What the configuration becomes; `none` if that cannot happen in it. -/
def advance (apply : σ → E → Option σ) (p : ∀ i, Poll σ V ε (α i)) (cfg : Polling σ V ε α) :
    PollLabel E ι → Option (Polling σ V ε α)
  | .tick d => some { cfg with now := cfg.now + d }
  | .event e => (apply cfg.shared e).map fun s => { cfg with shared := s }
  | .call i =>
    match cfg.pcs i with
    | .uncalled => some (cfg.goto i (.waiting cfg.now cfg.now))
    | _ => none
  | .look i =>
    match cfg.pcs i with
    | .waiting start due =>
      if due ≤ cfg.now then
        let seen := (p i).look cfg.shared
        match (p i).answer seen with
        | some a => some (cfg.goto i (.returned start (.ok a)))
        | none => some (cfg.goto i (.checking start seen))
      else none
    | _ => none
  | .check i =>
    match cfg.pcs i with
    | .checking start seen =>
      if cfg.now - start > (p i).timeout then
        some (cfg.goto i (.returned start (.error ((p i).giveUp seen))))
      else some (cfg.goto i (.waiting start (cfg.now + (p i).pause)))
    | _ => none

end Polling

/-- Calls that poll as `p` says, from the state `s`, while events change it as
`apply` says. A step is taken only where the scheduler `allows` it. -/
def polling {σ V ε E ι : Type} {α : ι → Type} [DecidableEq ι] (apply : σ → E → Option σ)
    (p : ∀ i, Poll σ V ε (α i)) (s : σ) (allows : Polling σ V ε α → PollLabel E ι → Prop) :
    TSys (Polling σ V ε α) (PollLabel E ι) where
  init cfg := cfg = .new s
  step cfg l cfg' := cfg.advance apply p l = some cfg' ∧ allows cfg l

namespace Polling

variable {σ V ε E ι : Type} {α : ι → Type} [DecidableEq ι]
variable {apply : σ → E → Option σ} {p : ∀ i, Poll σ V ε (α i)} {s : σ}
variable {allows : Polling σ V ε α → PollLabel E ι → Prop}
variable {cfg cfg' : Polling σ V ε α} {tr ls : List (PollLabel E ι)} {l : PollLabel E ι} {i : ι}

/-! ## What a step can do -/

/-- `Acts p i cfg l pc pc'`: in `cfg` the step `l` takes call `i` from `pc` to
`pc'`. -/
inductive Acts (p : ∀ i, Poll σ V ε (α i)) (i : ι) (cfg : Polling σ V ε α) :
    PollLabel E ι → PollPc V ε (α i) → PollPc V ε (α i) → Prop
  | other {l pc} : l ≠ .call i → l ≠ .look i → l ≠ .check i → Acts p i cfg l pc pc
  | called : Acts p i cfg (.call i) .uncalled (.waiting cfg.now cfg.now)
  | found {start due a} : due ≤ cfg.now → (p i).answer ((p i).look cfg.shared) = some a →
      Acts p i cfg (.look i) (.waiting start due) (.returned start (.ok a))
  | missed {start due} : due ≤ cfg.now → (p i).answer ((p i).look cfg.shared) = none →
      Acts p i cfg (.look i) (.waiting start due) (.checking start ((p i).look cfg.shared))
  | gaveUp {start seen} : (p i).timeout < cfg.now - start →
      Acts p i cfg (.check i) (.checking start seen)
        (.returned start (.error ((p i).giveUp seen)))
  | slept {start seen} : cfg.now - start ≤ (p i).timeout →
      Acts p i cfg (.check i) (.checking start seen) (.waiting start (cfg.now + (p i).pause))

@[simp] theorem goto_pcs_self (i : ι) (pc : PollPc V ε (α i)) : (cfg.goto i pc).pcs i = pc :=
  Function.update_self ..

theorem goto_pcs_of_ne {i j : ι} (h : i ≠ j) (pc : PollPc V ε (α j)) :
    (cfg.goto j pc).pcs i = cfg.pcs i :=
  Function.update_of_ne h ..

@[simp] theorem goto_now (i : ι) (pc : PollPc V ε (α i)) : (cfg.goto i pc).now = cfg.now := rfl

@[simp] theorem goto_shared (i : ι) (pc : PollPc V ε (α i)) :
    (cfg.goto i pc).shared = cfg.shared := rfl

/-- What a step of call `j` does to the configuration. -/
private theorem advance_own {j : ι} (h : cfg.advance apply p l = some cfg')
    (hl : l = .call j ∨ l = .look j ∨ l = .check j) :
    ∃ pc, cfg' = cfg.goto j pc ∧ Acts p j cfg l (cfg.pcs j) pc := by
  obtain rfl | rfl | rfl := hl
  · unfold advance at h
    cases hpc : cfg.pcs j <;> simp only [hpc] at h <;> cases h
    exact ⟨_, rfl, .called⟩
  · unfold advance at h
    cases hpc : cfg.pcs j <;> simp only [hpc] at h <;> try cases h
    split at h
    · next hdue =>
        split at h
        · next a ha =>
            cases h
            exact ⟨_, rfl, .found hdue ha⟩
        · next hnone =>
            cases h
            exact ⟨_, rfl, .missed hdue hnone⟩
    · cases h
  · unfold advance at h
    cases hpc : cfg.pcs j <;> simp only [hpc] at h <;> try cases h
    split at h
    · next hlate =>
        cases h
        exact ⟨_, rfl, .gaveUp hlate⟩
    · next hearly =>
        cases h
        exact ⟨_, rfl, .slept (by omega)⟩

/-- What a step does to call `i`. -/
theorem acts (h : (polling apply p s allows).step cfg l cfg') (i : ι) :
    Acts p i cfg l (cfg.pcs i) (cfg'.pcs i) := by
  obtain ⟨h, -⟩ := h
  have hown (j : ι) (hl : l = .call j ∨ l = .look j ∨ l = .check j) :
      Acts p i cfg l (cfg.pcs i) (cfg'.pcs i) := by
    obtain ⟨pc, rfl, hacts⟩ := advance_own h hl
    by_cases hij : i = j
    · subst hij
      simpa using hacts
    · rw [goto_pcs_of_ne hij]
      apply Acts.other <;> intro hsame <;> rw [hsame] at hl <;> simp [hij] at hl
  cases l with
  | tick d =>
      cases h
      exact .other nofun nofun nofun
  | event e =>
      obtain ⟨s', -, rfl⟩ := Option.map_eq_some_iff.mp h
      exact .other nofun nofun nofun
  | call j => exact hown j (.inl rfl)
  | look j => exact hown j (.inr (.inl rfl))
  | check j => exact hown j (.inr (.inr rfl))

/-- Only time moves the clock, and only an event changes the state. -/
theorem step_frame (h : (polling apply p s allows).step cfg l cfg') :
    ((∀ d, l ≠ .tick d) ∧ cfg'.now = cfg.now ∨ ∃ d, l = .tick d ∧ cfg'.now = cfg.now + d) ∧
      ((∀ e, l ≠ .event e) ∧ cfg'.shared = cfg.shared ∨
        ∃ e, l = .event e ∧ apply cfg.shared e = some cfg'.shared) := by
  obtain ⟨h, -⟩ := h
  have hown (j : ι) (hl : l = .call j ∨ l = .look j ∨ l = .check j) :
      cfg'.now = cfg.now ∧ cfg'.shared = cfg.shared := by
    obtain ⟨pc, rfl, -⟩ := advance_own h hl
    exact ⟨rfl, rfl⟩
  cases l with
  | tick d =>
      cases h
      exact ⟨.inr ⟨d, rfl, rfl⟩, .inl ⟨nofun, rfl⟩⟩
  | event e =>
      obtain ⟨s', hs', rfl⟩ := Option.map_eq_some_iff.mp h
      exact ⟨.inl ⟨nofun, rfl⟩, .inr ⟨e, rfl, hs'⟩⟩
  | call j =>
      obtain ⟨hnow, hshared⟩ := hown j (.inl rfl)
      exact ⟨.inl ⟨nofun, hnow⟩, .inl ⟨nofun, hshared⟩⟩
  | look j =>
      obtain ⟨hnow, hshared⟩ := hown j (.inr (.inl rfl))
      exact ⟨.inl ⟨nofun, hnow⟩, .inl ⟨nofun, hshared⟩⟩
  | check j =>
      obtain ⟨hnow, hshared⟩ := hown j (.inr (.inr rfl))
      exact ⟨.inl ⟨nofun, hnow⟩, .inl ⟨nofun, hshared⟩⟩

theorem step_now_le (h : (polling apply p s allows).step cfg l cfg') : cfg.now ≤ cfg'.now := by
  obtain ⟨⟨-, heq⟩ | ⟨d, -, heq⟩, -⟩ := step_frame h <;> omega

/-- What events keep, steps keep. -/
theorem step_keeps {P : σ → Prop} (h : (polling apply p s allows).step cfg l cfg')
    (hP : ∀ e s s', l = .event e → apply s e = some s' → P s → P s') (hs : P cfg.shared) :
    P cfg'.shared := by
  obtain ⟨-, ⟨-, heq⟩ | ⟨e, hl, hevent⟩⟩ := step_frame h
  · rw [heq]
    exact hs
  · exact hP e _ _ hl hevent hs

/-! ## How often a call looks -/

/-- What `k` looks have taken of the time of a call. -/
def Paced (q : Poll σ V ε (α i)) (k now : Nat) : PollPc V ε (α i) → Prop
  | .uncalled => k = 0
  | .waiting start due =>
    start ≤ now ∧ start + k * q.pause ≤ due ∧ (k - 1) * q.pause ≤ q.timeout
  | .checking start _ =>
    0 < k ∧ start + (k - 1) * q.pause ≤ now ∧ (k - 2) * q.pause ≤ q.timeout
  | .returned _ _ => (k - 2) * q.pause ≤ q.timeout

omit [DecidableEq ι] in
theorem Paced.later {q : Poll σ V ε (α i)} {k now now' : Nat} {pc : PollPc V ε (α i)}
    (h : Paced q k now pc) (hnow : now ≤ now') : Paced q k now' pc := by
  cases pc with
  | uncalled => exact h
  | waiting start due =>
      obtain ⟨hstart, hdue, hearly⟩ := h
      exact ⟨by omega, hdue, hearly⟩
  | checking start seen =>
      obtain ⟨hpos, hstart, hearly⟩ := h
      exact ⟨hpos, by omega, hearly⟩
  | returned start result => exact h

theorem Acts.paced [DecidableEq E] {pc pc' : PollPc V ε (α i)} {k k' : Nat}
    (h : Acts p i cfg l pc pc') (hk : k' = k + if l = .look i then 1 else 0)
    (hpaced : Paced (p i) k cfg.now pc) : Paced (p i) k' cfg.now pc' := by
  cases h with
  | other _ hlook _ =>
      obtain rfl : k' = k := by simpa [hlook] using hk
      exact hpaced
  | called =>
      have hzero : k = 0 := hpaced
      obtain rfl : k' = 0 := by simpa [hzero] using hk
      exact ⟨Nat.le_refl _, by omega, by omega⟩
  | found hdue _ =>
      obtain ⟨-, -, hearly⟩ := hpaced
      obtain rfl : k' = k + 1 := by simpa using hk
      exact hearly
  | missed hdue _ =>
      obtain ⟨-, hslept, hearly⟩ := hpaced
      obtain rfl : k' = k + 1 := by simpa using hk
      refine ⟨by omega, ?_, hearly⟩
      show _ + k * (p i).pause ≤ _
      omega
  | gaveUp _ =>
      obtain ⟨-, -, hearly⟩ := hpaced
      obtain rfl : k' = k := by simpa using hk
      exact hearly
  | slept hintime =>
      obtain ⟨hpos, hslept, -⟩ := hpaced
      obtain rfl : k' = k := by simpa using hk
      obtain ⟨n, rfl⟩ : ∃ n, k' = n + 1 := ⟨k' - 1, by omega⟩
      have hmul : (n + 1) * (p i).pause = n * (p i).pause + (p i).pause := Nat.succ_mul ..
      simp only [Nat.add_sub_cancel] at hslept
      refine ⟨by omega, by omega, ?_⟩
      show n * (p i).pause ≤ _
      omega

theorem count_look_snoc [DecidableEq E] (tr : List (PollLabel E ι)) (l : PollLabel E ι) :
    (tr ++ [l]).count (.look i) = tr.count (.look i) + if l = .look i then 1 else 0 := by
  rw [List.count_append]
  by_cases hl : l = .look i
  · simp [hl]
  · simp [hl]

theorem paced [DecidableEq E] (h : (polling apply p s allows).Trace tr cfg) (i : ι) :
    Paced (p i) (tr.count (.look i)) cfg.now (cfg.pcs i) := by
  refine TSys.Trace.induct (I := fun tr cfg => Paced (p i) (tr.count (.look i)) cfg.now
    (cfg.pcs i)) ?_ ?_ h
  · intro cfg hinit
    obtain rfl : cfg = .new s := hinit
    rfl
  · intro tr cfg l cfg' _ ih hstep
    exact ((acts hstep i).paced (count_look_snoc tr l) ih).later (step_now_le hstep)

/-- A call that sleeps between its looks does not look often. -/
theorem looks_le [DecidableEq E] (h : (polling apply p s allows).Trace tr cfg)
    (hpause : 0 < (p i).pause) :
    tr.count (.look i) ≤ (p i).timeout / (p i).pause + 2 := by
  generalize hk : tr.count (.look i) = k
  have hmul : (k - 2) * (p i).pause ≤ (p i).timeout := by
    have hpaced := paced h i
    rw [hk] at hpaced
    have hmono : (k - 2) * (p i).pause ≤ (k - 1) * (p i).pause :=
      Nat.mul_le_mul_right _ (by omega)
    cases hpc : cfg.pcs i with
    | uncalled =>
        rw [hpc] at hpaced
        obtain rfl : k = 0 := hpaced
        omega
    | waiting start due =>
        rw [hpc] at hpaced
        exact Nat.le_trans hmono hpaced.2.2
    | checking start seen =>
        rw [hpc] at hpaced
        exact hpaced.2.2
    | returned start result =>
        rw [hpc] at hpaced
        exact hpaced
  have hdiv : k - 2 ≤ (p i).timeout / (p i).pause := (Nat.le_div_iff_mul_le hpause).mpr hmul
  omega

/-! ## What a call returns -/

/-- In the trace `tr` call `i`, begun at `start`, looked last in the
configuration `mid`. -/
def LastLook (M : TSys (Polling σ V ε α) (PollLabel E ι)) (i : ι)
    (tr : List (PollLabel E ι)) (start : Nat) (mid : Polling σ V ε α) : Prop :=
  ∃ before after, tr = before ++ .look i :: after ∧ .look i ∉ after ∧
    M.Trace before mid ∧ ∃ due, mid.pcs i = .waiting start due

omit [DecidableEq ι] in
theorem LastLook.snoc {M : TSys (Polling σ V ε α) (PollLabel E ι)} {start : Nat}
    {mid : Polling σ V ε α} (h : LastLook M i tr start mid) (hl : l ≠ .look i) :
    LastLook M i (tr ++ [l]) start mid := by
  obtain ⟨before, after, rfl, hafter, hmid⟩ := h
  refine ⟨before, after ++ [l], by simp, ?_, hmid⟩
  simp [hafter, hl.symm]

omit [DecidableEq ι] in
theorem LastLook.intro {M : TSys (Polling σ V ε α) (PollLabel E ι)} {start due : Nat}
    (h : M.Trace tr cfg) (hpc : cfg.pcs i = .waiting start due) :
    LastLook M i (tr ++ [.look i]) start cfg :=
  ⟨tr, [], rfl, List.not_mem_nil, h, due, hpc⟩

/-- What a call knows from its last look. -/
def Informed (M : TSys (Polling σ V ε α) (PollLabel E ι)) (q : Poll σ V ε (α i))
    (tr : List (PollLabel E ι)) (now : Nat) : PollPc V ε (α i) → Prop
  | .uncalled => True
  | .waiting _ _ => True
  | .checking start seen => ∃ mid, LastLook M i tr start mid ∧
      q.answer (q.look mid.shared) = none ∧ seen = q.look mid.shared
  | .returned start (.ok a) => ∃ mid, LastLook M i tr start mid ∧
      q.answer (q.look mid.shared) = some a
  | .returned start (.error e) => ∃ mid, LastLook M i tr start mid ∧
      q.answer (q.look mid.shared) = none ∧ e = q.giveUp (q.look mid.shared) ∧
      q.timeout < now - start

omit [DecidableEq ι] in
theorem Informed.later {M : TSys (Polling σ V ε α) (PollLabel E ι)} {q : Poll σ V ε (α i)}
    {now now' : Nat} {pc : PollPc V ε (α i)} (h : Informed M q tr now pc) (hl : l ≠ .look i)
    (hnow : now ≤ now') : Informed M q (tr ++ [l]) now' pc := by
  match pc, h with
  | .uncalled, _ => trivial
  | .waiting _ _, _ => trivial
  | .checking _ _, ⟨mid, hlast, hmissed⟩ => exact ⟨mid, hlast.snoc hl, hmissed⟩
  | .returned _ (.ok _), ⟨mid, hlast, hfound⟩ => exact ⟨mid, hlast.snoc hl, hfound⟩
  | .returned _ (.error _), ⟨mid, hlast, hmissed, htext, hlate⟩ =>
      exact ⟨mid, hlast.snoc hl, hmissed, htext, by omega⟩

theorem informed (h : (polling apply p s allows).Trace tr cfg) (i : ι) :
    Informed (polling apply p s allows) (p i) tr cfg.now (cfg.pcs i) := by
  refine TSys.Trace.induct (I := fun tr cfg => Informed (polling apply p s allows) (p i) tr
    cfg.now (cfg.pcs i)) ?_ ?_ h
  · intro cfg hinit
    obtain rfl : cfg = .new s := hinit
    trivial
  · intro tr cfg l cfg' htrace ih hstep
    have hnow := step_now_le hstep
    have hacts := acts hstep i
    generalize hpc : cfg.pcs i = pc at hacts ih
    generalize cfg'.pcs i = pc' at hacts
    cases hacts with
    | other _ hlook _ => exact ih.later hlook hnow
    | called => trivial
    | found _ ha => exact ⟨cfg, .intro htrace hpc, ha⟩
    | missed _ hnone => exact ⟨cfg, .intro htrace hpc, hnone, rfl⟩
    | gaveUp hlate =>
        obtain ⟨mid, hlast, hmissed, rfl⟩ := ih
        exact ⟨mid, hlast.snoc nofun, hmissed, rfl, by omega⟩
    | slept _ => trivial

/-- A call returns what it saw at its last look: an answer, or that there was
none, and then its time was up. -/
theorem returned (h : (polling apply p s allows).Trace tr cfg) {start : Nat}
    {result : Except ε (α i)} (hpc : cfg.pcs i = .returned start result) :
    ∃ mid, LastLook (polling apply p s allows) i tr start mid ∧
      ((∃ a, (p i).answer ((p i).look mid.shared) = some a ∧ result = .ok a) ∨
        (p i).answer ((p i).look mid.shared) = none ∧
          result = .error ((p i).giveUp ((p i).look mid.shared)) ∧
          (p i).timeout < cfg.now - start) := by
  have hinformed := informed h i
  rw [hpc] at hinformed
  cases result with
  | ok a =>
      obtain ⟨mid, hlast, ha⟩ := hinformed
      exact ⟨mid, hlast, .inl ⟨a, ha, rfl⟩⟩
  | error e =>
      obtain ⟨mid, hlast, hnone, rfl, hlate⟩ := hinformed
      exact ⟨mid, hlast, .inr ⟨hnone, rfl, hlate⟩⟩

/-! ## What a call cannot miss, and what it cannot find -/

/-- A call that has begun and looks while the state has an answer, and keeps
having one, returns an answer. -/
theorem look_answers {P : σ → Prop} (hanswer : ∀ s, P s → ∃ a, (p i).answer ((p i).look s) = some a)
    (hrun : (polling apply p s allows).Run cfg ls cfg')
    (hkeep : ∀ e s s', .event e ∈ ls → apply s e = some s' → P s → P s') (hs : P cfg.shared)
    {start due : Nat} (hpc : cfg.pcs i = .waiting start due) (hlook : .look i ∈ ls) :
    ∃ a, cfg'.pcs i = .returned start (.ok a) := by
  have hrun' : P cfg'.shared ∧ ((.look i ∉ ls ∧ cfg'.pcs i = .waiting start due) ∨
      ∃ a, cfg'.pcs i = .returned start (.ok a)) := by
    clear hlook
    induction hrun with
    | nil => exact ⟨hs, .inl ⟨List.not_mem_nil, hpc⟩⟩
    | snoc _ hstep ih =>
        rename_i ls mid cfg' l _
        obtain ⟨hmid, hpcs⟩ := ih fun e s s' hmem => hkeep e s s' (List.mem_append_left _ hmem)
        refine ⟨step_keeps hstep (fun e s s' hl => hkeep e s s' (by simp [hl])) hmid, ?_⟩
        have hacts := acts hstep i
        rcases hpcs with ⟨hnot, hwait⟩ | ⟨a, hret⟩
        · rw [hwait] at hacts
          generalize hpc' : cfg'.pcs i = pc' at hacts
          cases hacts with
          | other _ hne _ => exact .inl ⟨by simp [hnot, hne.symm], rfl⟩
          | found _ _ => exact .inr ⟨_, rfl⟩
          | missed _ hnone =>
              obtain ⟨a, ha⟩ := hanswer _ hmid
              rw [ha] at hnone
              cases hnone
        · rw [hret] at hacts
          generalize hpc' : cfg'.pcs i = pc' at hacts
          cases hacts with
          | other _ _ _ => exact .inr ⟨a, rfl⟩
  rcases hrun'.2 with ⟨hnot, -⟩ | hret
  · exact absurd hlook hnot
  · exact hret

/-- While the state has no answer, a call returns none. -/
theorem look_fails {P : σ → Prop} (hanswer : ∀ s, P s → (p i).answer ((p i).look s) = none)
    (hrun : (polling apply p s allows).Run cfg ls cfg')
    (hkeep : ∀ e s s', .event e ∈ ls → apply s e = some s' → P s → P s') (hs : P cfg.shared)
    (hpc : ∀ start a, cfg.pcs i ≠ .returned start (.ok a)) (start : Nat) (a : α i) :
    cfg'.pcs i ≠ .returned start (.ok a) := by
  have hrun' : P cfg'.shared ∧ ∀ start a, cfg'.pcs i ≠ .returned start (.ok a) := by
    induction hrun with
    | nil => exact ⟨hs, hpc⟩
    | snoc _ hstep ih =>
        rename_i ls mid cfg' l _
        obtain ⟨hmid, hpcs⟩ := ih fun e s s' hmem => hkeep e s s' (List.mem_append_left _ hmem)
        refine ⟨step_keeps hstep (fun e s s' hl => hkeep e s s' (by simp [hl])) hmid, ?_⟩
        intro start a hret
        have hacts := acts hstep i
        rw [hret] at hacts
        generalize hpc' : mid.pcs i = pc at hacts
        cases hacts with
        | other _ _ _ => exact hpcs start a hpc'
        | found _ ha =>
            rw [hanswer _ hmid] at ha
            cases ha
  exact hrun'.2 start a

/-! ## That a call ends -/

/-- If the scheduler allows every step, a call that is checking can return. -/
private theorem checking_ends (hallows : ∀ cfg l, allows cfg l) {start : Nat} {seen : V}
    (hpc : cfg.pcs i = .checking start seen) :
    ∃ ls cfg' result, (polling apply p s allows).Run cfg ls cfg' ∧
      cfg'.pcs i = .returned start result := by
  let late : Polling σ V ε α := { cfg with now := start + (p i).timeout + 1 + cfg.now }
  have htick : (polling apply p s allows).step cfg (.tick (start + (p i).timeout + 1)) late :=
    ⟨congrArg some (by simp [late, Nat.add_comm]), hallows _ _⟩
  have hcheck : (polling apply p s allows).step late (.check i)
      (late.goto i (.returned start (.error ((p i).giveUp seen)))) := by
    refine ⟨?_, hallows _ _⟩
    have hlate : late.now - start > (p i).timeout := by
      show start + (p i).timeout + 1 + cfg.now - start > _
      omega
    have hpc' : late.pcs i = .checking start seen := hpc
    simp [advance, hpc', hlate]
  exact ⟨_, _, _, (TSys.Run.single htick).snoc hcheck, goto_pcs_self ..⟩

/-- If the scheduler allows every step, a call that has begun can return. -/
theorem can_return (hallows : ∀ cfg l, allows cfg l) (hpc : cfg.pcs i ≠ .uncalled) :
    ∃ ls cfg' start result, (polling apply p s allows).Run cfg ls cfg' ∧
      cfg'.pcs i = .returned start result := by
  cases hpc' : cfg.pcs i with
  | uncalled => exact absurd hpc' hpc
  | returned start result => exact ⟨[], cfg, start, result, .nil, hpc'⟩
  | checking start seen =>
      obtain ⟨ls, cfg', result, hrun, hret⟩ := checking_ends hallows hpc'
      exact ⟨ls, cfg', start, result, hrun, hret⟩
  | waiting start due =>
      let woken : Polling σ V ε α := { cfg with now := cfg.now + due }
      have htick : (polling apply p s allows).step cfg (.tick due) woken :=
        ⟨rfl, hallows _ _⟩
      have hpcw : woken.pcs i = .waiting start due := hpc'
      have hdue : due ≤ woken.now := Nat.le_add_left ..
      cases ha : (p i).answer ((p i).look woken.shared) with
      | some a =>
          have hlook : (polling apply p s allows).step woken (.look i)
              (woken.goto i (.returned start (.ok a))) :=
            ⟨by simp [advance, hpcw, hdue, ha], hallows _ _⟩
          exact ⟨_, _, start, _, (TSys.Run.single htick).snoc hlook, goto_pcs_self ..⟩
      | none =>
          have hlook : (polling apply p s allows).step woken (.look i)
              (woken.goto i (.checking start ((p i).look woken.shared))) :=
            ⟨by simp [advance, hpcw, hdue, ha], hallows _ _⟩
          have hpcl : (woken.goto i (.checking start ((p i).look woken.shared))).pcs i =
              .checking start ((p i).look woken.shared) := goto_pcs_self ..
          obtain ⟨ls, cfg', result, hrun, hret⟩ : ∃ ls cfg' result,
              (polling apply p s allows).Run (woken.goto i _) ls cfg' ∧
                cfg'.pcs i = .returned start result := checking_ends hallows hpcl
          exact ⟨_, cfg', start, result,
            ((TSys.Run.single htick).snoc hlook).append hrun, hret⟩

/-! ## In time -/

/-- A scheduler that wakes a call at most `δ` after its sleep is over, and lets
no time pass between a look and the comparison behind it. -/
def Prompt (δ : Nat) (cfg : Polling σ V ε α) : PollLabel E ι → Prop
  | .tick d => ∀ i, (∀ start seen, cfg.pcs i ≠ .checking start seen) ∧
      ∀ start due, cfg.pcs i = .waiting start due → cfg.now + d ≤ due + δ
  | _ => True

/-- A call under a prompt scheduler is not behind its time. -/
def Timely (M : TSys (Polling σ V ε α) (PollLabel E ι)) (q : Poll σ V ε (α i)) (δ : Nat)
    (tr : List (PollLabel E ι)) (now : Nat) : PollPc V ε (α i) → Prop
  | .uncalled => True
  | .waiting start due => start ≤ now ∧ now ≤ due + δ ∧ due ≤ start + q.timeout + q.pause
  | .checking start _ => start ≤ now ∧ now ≤ start + q.timeout + q.pause + δ ∧
      ∃ mid, LastLook M i tr start mid ∧ q.answer (q.look mid.shared) = none ∧ mid.now = now
  | .returned _ (.ok _) => True
  | .returned start (.error _) => ∃ mid, LastLook M i tr start mid ∧
      q.answer (q.look mid.shared) = none ∧ start + q.timeout < mid.now

omit [DecidableEq ι] in
theorem Timely.snoc {M : TSys (Polling σ V ε α) (PollLabel E ι)} {q : Poll σ V ε (α i)}
    {δ now : Nat} {pc : PollPc V ε (α i)} (h : Timely M q δ tr now pc) (hl : l ≠ .look i) :
    Timely M q δ (tr ++ [l]) now pc := by
  match pc, h with
  | .uncalled, _ => trivial
  | .waiting _ _, h => exact h
  | .checking _ _, ⟨hstart, hearly, mid, hlast, hmissed⟩ =>
      exact ⟨hstart, hearly, mid, hlast.snoc hl, hmissed⟩
  | .returned _ (.ok _), _ => trivial
  | .returned _ (.error _), ⟨mid, hlast, hmissed⟩ => exact ⟨mid, hlast.snoc hl, hmissed⟩

theorem timely {δ : Nat} (h : (polling apply p s (Prompt δ)).Trace tr cfg) (i : ι) :
    Timely (polling apply p s (Prompt δ)) (p i) δ tr cfg.now (cfg.pcs i) := by
  refine TSys.Trace.induct (I := fun tr cfg => Timely (polling apply p s (Prompt δ)) (p i) δ tr
    cfg.now (cfg.pcs i)) ?_ ?_ h
  · intro cfg hinit
    obtain rfl : cfg = .new s := hinit
    trivial
  · intro tr cfg l cfg' htrace ih hstep
    have hacts := acts hstep i
    obtain ⟨hnow, -⟩ := step_frame hstep
    have hprompt := hstep.2
    generalize hpc : cfg.pcs i = pc at hacts ih
    generalize cfg'.pcs i = pc' at hacts
    cases hacts with
    | other _ hlook _ =>
        have ih' := ih.snoc hlook
        obtain ⟨-, hnow⟩ | ⟨d, rfl, hnow⟩ := hnow
        · rw [hnow]
          exact ih'
        · -- time passes: the call sleeps, and will not oversleep, or it has returned
          obtain ⟨hchecks, hwaits⟩ := hprompt i
          match pc, ih' with
          | .uncalled, _ => trivial
          | .waiting start due, ⟨hstart, _, hdue⟩ =>
              have hlate := hwaits start due hpc
              exact ⟨by omega, by omega, hdue⟩
          | .checking start seen, _ => exact absurd hpc (hchecks start seen)
          | .returned _ (.ok _), _ => trivial
          | .returned _ (.error _), herr => exact herr
    | called =>
        obtain ⟨-, hnow⟩ | ⟨d, hl, -⟩ := hnow
        · exact ⟨by omega, by omega, by omega⟩
        · cases hl
    | found _ ha => trivial
    | missed hdue hnone =>
        obtain ⟨hstart, hearly, hdue'⟩ := ih
        obtain ⟨-, hnow⟩ | ⟨d, hl, -⟩ := hnow
        · exact ⟨by omega, by omega, cfg, .intro htrace hpc, hnone, hnow.symm⟩
        · cases hl
    | gaveUp hlate =>
        obtain ⟨hstart, -, mid, hlast, hmissed, hmid⟩ := ih
        exact ⟨mid, hlast.snoc nofun, hmissed, by omega⟩
    | slept hearly =>
        obtain ⟨hstart, -⟩ := ih
        obtain ⟨-, hnow⟩ | ⟨d, hl, -⟩ := hnow
        · exact ⟨by omega, by omega, by omega⟩
        · cases hl

/-- Under a prompt scheduler a call that has not returned is at most one sleep
and one delay behind its timeout. -/
theorem waits_at_most {δ : Nat} (h : (polling apply p s (Prompt δ)).Trace tr cfg) {start : Nat}
    (hpc : (∃ due, cfg.pcs i = .waiting start due) ∨ ∃ seen, cfg.pcs i = .checking start seen) :
    cfg.now ≤ start + (p i).timeout + (p i).pause + δ := by
  have htimely := timely h i
  rcases hpc with ⟨due, hpc⟩ | ⟨seen, hpc⟩
  · rw [hpc] at htimely
    obtain ⟨-, hnow, hdue⟩ := htimely
    omega
  · rw [hpc] at htimely
    exact htimely.2.1

/-- Under a prompt scheduler a call that gives up found nothing at a look behind
its timeout. -/
theorem gave_up_late {δ : Nat} (h : (polling apply p s (Prompt δ)).Trace tr cfg) {start : Nat}
    {e : ε} (hpc : cfg.pcs i = .returned start (.error e)) :
    ∃ mid, LastLook (polling apply p s (Prompt δ)) i tr start mid ∧
      (p i).answer ((p i).look mid.shared) = none ∧ start + (p i).timeout < mid.now := by
  have htimely := timely h i
  rw [hpc] at htimely
  exact htimely

end Polling

end Kit

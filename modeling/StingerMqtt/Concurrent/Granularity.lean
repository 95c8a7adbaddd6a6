import StingerMqtt.Kit.Simulation
import StingerMqtt.Concurrent.Locks
import StingerMqtt.Concurrent.Schedule
import StingerMqtt.Concurrent.Sections
import StingerMqtt.Concurrent.Sequential

/-!
# Taking a mutex is no section of its own

`clones` runs a section at once: it takes the mutex, works on what the mutex
guards and, unless the call goes on with it, drops the mutex. `threads` takes
and drops every mutex in a step of its own. Nothing is lost between the two:
whatever threads do that take mutexes step by step, the clones do section by
section in the same order, and after each step of a thread both have got equally
far, with the same calls and the same shared client.
-/

namespace StingerMqtt

open Kit Mock MockWorld

variable {B : Broadcast MqttMessage} {p : Profile} {clientId : String}

/-! ## What is left of a call -/

/-- What a thread at `pc` still has to do, if it goes on with `next` after the
call it is in. -/
def Pc.program (p : Profile) (next : Prog Lock (MockWorld B)) : Pc → Prog Lock (MockWorld B)
  | .idle => next
  | .store _ message =>
    .locked .retainedMessages (storeRetained message)
      (.locked .subscriptions (Mock.fanOut message) next next) next
  | .fanOut _ message => .locked .subscriptions (Mock.fanOut message) next next
  | .lock _ topic tx iter => subscribeProgram p next topic tx iter
  | .allocate _ topic tx iter =>
    .acquire .nextSubId <| .critical [.nextSubId, .subscriptions]
      (Mock.allocate p topic tx) (fun id =>
      .acquire .retainedMessages <| .critical [.retainedMessages, .nextSubId, .subscriptions]
        (Mock.replay topic id tx iter)
        (fun _ => .releaseAll [.retainedMessages, .nextSubId, .subscriptions] next)
        next)
      next
  | .replay _ topic tx iter id =>
    .acquire .retainedMessages <| .critical [.retainedMessages, .nextSubId, .subscriptions]
      (Mock.replay topic id tx iter)
      (fun _ => .releaseAll [.retainedMessages, .nextSubId, .subscriptions] next)
      next
  | .atomic _ op => op.program p next
  | .returning _ _ => next

theorem start_program (next : Prog Lock (MockWorld B)) (call : CallId) (op : Op) :
    (Pc.start call op).program p next = op.program p next := by
  cases op with
  | simulateReceive m =>
      show (if m.retain then Pc.store call m else Pc.fanOut call m).program p next =
        simulateReceiveProgram next m
      unfold simulateReceiveProgram
      split <;> rfl
  | _ => rfl

theorem Pc.move_isSome {w : MockWorld B} {pc : Pc} (hbusy : pc.isBusy = true) :
    ∃ move, pc.move p w = some move ∧ move.begins = none ∧ ∀ call out, move ≠ .ret call out := by
  cases pc with
  | idle | returning => cases hbusy
  | _ =>
      refine ⟨_, rfl, rfl, ?_⟩
      intro call out heq
      cases heq

/-- What is left after a section: maybe guards to drop, and then the rest of the
call. -/
def Drops (p : Profile) (next : Prog Lock (MockWorld B)) (pc : Pc)
    (prog : Prog Lock (MockWorld B)) : Prop :=
  ∃ held, prog = .releaseAll held (pc.program p next) ∧ (held = [] ∨ pc.holds = false)

/-- What is left after a section that panicked or ended its call. -/
theorem drops_all (held : List Lock) (next : Prog Lock (MockWorld B)) (call : CallId)
    (out : Outcome Reply) : Drops p next (.returning call out) (.releaseAll held next) :=
  ⟨held, rfl, .inr rfl⟩

/-- The program of a thread does its next section under the mutex `m`. -/
def Takes (p : Profile) (next : Prog Lock (MockWorld B)) (pc : Pc) (m : Lock) : Prop :=
  ∃ rest, pc.program p next = .acquire m (.run (fun w => (pc.next p w).2) rest) ∧
    ∀ w, Drops p next (pc.next p w).1 (rest w)

theorem takes_critical {α : Type} {pc : Pc} {m : Lock} {held : List Lock}
    {act : Act (MockWorld B) α} {after : α → Prog Lock (MockWorld B)}
    {next : Prog Lock (MockWorld B)} (call : CallId)
    (hprog : pc.program p next = .acquire m (.critical held act after next))
    (hworld : ∀ w, (pc.next p w).2 = (act w).2)
    (hreturned : ∀ w value, (act w).1 = .returned value →
      Drops p next (pc.next p w).1 (after value))
    (hpanicked : ∀ w, (act w).1 = .panicked → ∃ out, (pc.next p w).1 = .returning call out) :
    Takes p next pc m := by
  obtain ⟨rest, hcritical, hafter, hcaught⟩ := Prog.critical_run held act after next
  refine ⟨rest, ?_, ?_⟩
  · have hact : (fun w => (pc.next p w).2) = fun w => (act w).2 := funext hworld
    rw [hprog, hact, hcritical]
  · intro w
    cases hout : (act w).1 with
    | returned value =>
        rw [hafter w value hout]
        exact hreturned w value hout
    | panicked =>
        obtain ⟨out, hpc⟩ := hpanicked w hout
        rw [hcaught w hout, hpc]
        exact drops_all held next call out

/-- A call that is one section under one mutex. -/
theorem takes_locked {α : Type} {op : Op} {m : Lock} {act : Act (MockWorld B) α}
    {next : Prog Lock (MockWorld B)} (call : CallId)
    (hprog : op.program p next = .locked m act next next)
    (hworld : ∀ w, (op.exec p w).2 = (act w).2) : Takes p next (.atomic call op) m := by
  have hprog : (Pc.atomic call op).program p next =
      .acquire m (.critical [m] act (fun _ => .release m next) next) := hprog
  apply takes_critical call hprog hworld
  · intro w _ _
    exact drops_all [m] next call _
  · intro w _
    exact ⟨_, rfl⟩

/-- The program of a thread in a call takes one mutex and does the next section,
or does it without one; it takes `subscriptions` if the section waits for it. -/
theorem program_section {pc : Pc} (hbusy : pc.isBusy = true)
    (hone : ∀ call op, pc = .atomic call op → op.oneSection = true)
    (next : Prog Lock (MockWorld B)) :
    (∃ m, Takes p next pc m ∧ (pc.waits = true → m = .subscriptions)) ∨
      ∃ rest, pc.program p next = .run (fun w => (pc.next p w).2) rest ∧ pc.waits = false ∧
        ∀ w, Drops p next (pc.next p w).1 (rest w) := by
  cases pc with
  | idle | returning => cases hbusy
  | store call m =>
      refine .inl ⟨.retainedMessages, takes_critical call rfl (fun _ => rfl) ?_ ?_, nofun⟩
      · intro w value hout
        show Drops p next (Pc.after call _ (storeRetained m w).1) _
        rw [hout]
        exact ⟨[.retainedMessages], rfl, .inr rfl⟩
      · intro w hout
        show ∃ out, Pc.after call _ (storeRetained m w).1 = _
        rw [hout]
        exact ⟨.panicked, rfl⟩
  | fanOut call m =>
      refine .inl ⟨.subscriptions, takes_critical call rfl (fun _ => rfl) ?_ ?_, fun _ => rfl⟩
      · intro w _ _
        exact drops_all [.subscriptions] next call _
      · intro w _
        exact ⟨_, rfl⟩
  | lock call topic tx iter =>
      refine .inl ⟨.subscriptions, takes_critical call rfl (fun _ => rfl) ?_ ?_, fun _ => rfl⟩
      · intro w value hout
        show Drops p next (Pc.after call _ (lockSubscriptions w).1) _
        rw [hout]
        exact ⟨[], rfl, .inl rfl⟩
      · intro w hout
        show ∃ out, Pc.after call _ (lockSubscriptions w).1 = _
        rw [hout]
        exact ⟨.panicked, rfl⟩
  | allocate call topic tx iter =>
      refine .inl ⟨.nextSubId, takes_critical call rfl (fun _ => rfl) ?_ ?_, nofun⟩
      · intro w value hout
        show Drops p next (Pc.after call _ (allocate p topic tx w).1) _
        rw [hout]
        exact ⟨[], rfl, .inl rfl⟩
      · intro w hout
        show ∃ out, Pc.after call _ (allocate p topic tx w).1 = _
        rw [hout]
        exact ⟨.panicked, rfl⟩
  | replay call topic tx iter id =>
      refine .inl ⟨.retainedMessages, takes_critical call rfl (fun _ => rfl) ?_ ?_, nofun⟩
      · intro w _ _
        exact drops_all [.retainedMessages, .nextSubId, .subscriptions] next call _
      · intro w _
        exact ⟨_, rfl⟩
  | atomic call op =>
      cases op with
      | subscribe | simulateReceive => cases hone call _ rfl
      | unsubscribe topic =>
          exact .inl ⟨.subscriptions, takes_locked call rfl fun _ => rfl, fun _ => rfl⟩
      | publish | publishNoblock | publishNowait | lastPublishedMessage | publishedMessages
      | clearPublishedMessages =>
          exact .inl ⟨.publishedMessages, takes_locked call rfl fun _ => rfl, nofun⟩
      | retainedMessages | clearRetainedMessages =>
          exact .inl ⟨.retainedMessages, takes_locked call rfl fun _ => rfl, nofun⟩
      | channel | addReceiver | dropReceiver =>
          exact .inr ⟨_, rfl, rfl, fun w => drops_all [] next call _⟩

/-! ## Where the threads are -/

/-- The calls a thread has made in a history. -/
def callsOf (t : ThreadId) (ls : List Label) : List Op := begun (ls.filter fun l => l.thread = t)

theorem callsOf_append (t : ThreadId) (ls ls' : List Label) :
    callsOf t (ls ++ ls') = callsOf t ls ++ callsOf t ls' := by
  unfold callsOf
  rw [List.filter_append, begun_append]

theorem callsOf_invoke (t : ThreadId) (ls : List Label) (call : CallId) (op : Op) :
    callsOf t (ls ++ [⟨t, .invoke call op⟩]) = callsOf t ls ++ [op] := by
  rw [callsOf_append]
  simp [callsOf, begun, moves, Move.begins]

theorem callsOf_section {move : Move} (hmove : move.begins = none) (t : ThreadId)
    (ls : List Label) : callsOf t (ls ++ [⟨t, move⟩]) = callsOf t ls := by
  rw [callsOf_append]
  simp [callsOf, begun, moves, hmove]

/-- Where thread `t` is in its program when the clones have it at `pc` and it has
the calls `rest` left: in front of a section, maybe with guards to drop first, or
past the mutex of one. -/
inductive Located (p : Profile) (s : Threads Lock (MockWorld B)) (t : ThreadId) (pc : Pc)
    (rest : List Op) : Prop
  | before : (∀ call out, pc ≠ .returning call out) → Drops p (programs p rest) pc (s.progs t) →
      Located p s t pc rest
  | inside {m next} : pc.isBusy = true → pc.program p (programs p rest) = .acquire m next →
      s.progs t = next → s.holder m = some t → Located p s t pc rest

/-- What the clones do at a step that thread `t` takes in `s`: steps of that thread;
a call is made only where its program begins, with no guard left of the call
before; and a call returns only at a section, with the answer of this section on
the shared client. -/
structure Belongs (p : Profile) (s : Threads Lock (MockWorld B)) (t : ThreadId)
    (more : List Label) : Prop where
  thread : ∀ l ∈ more, l.thread = t
  invoke : ∀ call op, .invoke call op ∈ moves more →
    ∃ rest, s.progs t = op.program p (programs p rest)
  ret : ∀ call out, .ret call out ∈ moves more → ∃ (pc : Pc) (after : _),
    s.progs t = .run (fun w => (pc.next p w).2) after ∧
      (pc.next p s.world).1 = .returning call out

theorem Belongs.nil (p : Profile) (s : Threads Lock (MockWorld B)) (t : ThreadId) :
    Belongs p s t [] where
  thread _ h := absurd h List.not_mem_nil
  invoke _ _ h := absurd h List.not_mem_nil
  ret _ _ h := absurd h List.not_mem_nil

theorem Belongs.cons {s : Threads Lock (MockWorld B)} {t : ThreadId} {move : Move}
    {more : List Label} (h : Belongs p s t more)
    (hinvoke : ∀ call op, move = .invoke call op →
      ∃ rest, s.progs t = op.program p (programs p rest))
    (hret : ∀ call out, move = .ret call out → ∃ (pc : Pc) (after : _),
      s.progs t = .run (fun w => (pc.next p w).2) after ∧
        (pc.next p s.world).1 = .returning call out) : Belongs p s t (⟨t, move⟩ :: more) where
  thread := List.forall_mem_cons.mpr ⟨rfl, h.thread⟩
  invoke call op hmem := by
    rcases List.mem_cons.mp hmem with heq | hmem
    · exact hinvoke call op heq.symm
    · exact h.invoke call op hmem
  ret call out hmem := by
    rcases List.mem_cons.mp hmem with heq | hmem
    · exact hret call out heq.symm
    · exact h.ret call out hmem

/-- The clones have got as far as the threads that take mutexes step by step. -/
structure Tracks (p : Profile) (ops : ThreadId → List Op) (s : Threads Lock (MockWorld B))
    (ls : List Label) (cfg : Config B) : Prop where
  world : cfg.world = s.world
  holder : ∀ t, cfg.holder = some t → s.holder .subscriptions = some t
  located : ∀ t, ∃ rest, ops t = callsOf t ls ++ rest ∧ Located p s t (cfg.threads t) rest

section

variable {ops : ThreadId → List Op} {s s' : Threads Lock (MockWorld B)} {ls more : List Label}
  {cfg cfg' : Config B} {t : ThreadId}

/-- A thread that keeps no guard between its sections is not the holder. -/
theorem holder_ne (hholds : ∀ t, cfg.holder = some t → (cfg.threads t).holds = true)
    (hpc : (cfg.threads t).holds = false) {t' : ThreadId} (hheld : cfg.holder = some t') :
    t' ≠ t := by
  rintro rfl
  have htrue := hholds t' hheld
  rw [hpc] at htrue
  cases htrue

/-- What one thread does leaves the others where they are. -/
theorem Tracks.update (h : Tracks p ops s ls cfg) (hprogs : ∀ t' ≠ t, s'.progs t' = s.progs t')
    (hkept : ∀ t' ≠ t, ∀ m, s.holder m = some t' → s'.holder m = some t')
    (hthreads : ∀ t' ≠ t, cfg'.threads t' = cfg.threads t')
    (hlabels : ∀ l ∈ more, l.thread = t) (hworld : cfg'.world = s'.world)
    (hholder : ∀ t', cfg'.holder = some t' → t' ≠ t ∧ cfg.holder = some t' ∨
      t' = t ∧ s'.holder .subscriptions = some t)
    (hself : ∃ rest, ops t = callsOf t (ls ++ more) ++ rest ∧
      Located p s' t (cfg'.threads t) rest) :
    Tracks p ops s' (ls ++ more) cfg' := by
  refine ⟨hworld, ?_, ?_⟩
  · intro t' ht'
    rcases hholder t' ht' with ⟨hne, hheld⟩ | ⟨rfl, hheld⟩
    · exact hkept t' hne _ (h.holder t' hheld)
    · exact hheld
  · intro t'
    by_cases ht : t' = t
    · rw [ht]
      exact hself
    · obtain ⟨rest, hops, hlocated⟩ := h.located t'
      have hnone : callsOf t' more = [] := by
        unfold callsOf
        rw [List.filter_eq_nil_iff.mpr]
        · rfl
        · intro l hl
          simpa [hlabels l hl] using Ne.symm ht
      refine ⟨rest, by rw [callsOf_append, hnone, List.append_nil, hops], ?_⟩
      rw [hthreads t' ht]
      cases hlocated with
      | before hsettled hdrops =>
          rw [← hprogs t' ht] at hdrops
          exact .before hsettled hdrops
      | inside hbusy hprog hnext hheld =>
          exact .inside hbusy hprog ((hprogs t' ht).trans hnext) (hkept t' ht _ hheld)

/-- A thread takes the mutex of its next section. -/
theorem Tracks.acquire (h : Tracks p ops s ls cfg) {m : Lock} {next : Prog Lock (MockWorld B)}
    (hfree : s.holder m = none) {rest : List Op} (hops : ops t = callsOf t ls ++ rest)
    (hbusy : (cfg.threads t).isBusy = true)
    (hprog : (cfg.threads t).program p (programs p rest) = .acquire m next) :
    Tracks p ops ((s.setHolder m (some t)).goto t next) ls cfg := by
  have hkept : ∀ t' m', s.holder m' = some t' →
      (s.setHolder m (some t)).holder m' = some t' := by
    intro t' m' hheld
    have hne : m' ≠ m := by
      intro heq
      rw [heq, hfree] at hheld
      cases hheld
    exact (Function.update_of_ne hne _ _).trans hheld
  rw [← List.append_nil ls]
  refine h.update (t := t) (fun t' hne => Function.update_of_ne hne _ _)
    (fun t' _ => hkept t') (fun _ _ => rfl) (by simp) h.world ?_ ?_
  · intro t' hheld
    by_cases ht : t' = t
    · rw [ht] at hheld
      exact .inr ⟨ht, hkept t _ (h.holder t hheld)⟩
    · exact .inl ⟨ht, hheld⟩
  · rw [List.append_nil]
    exact ⟨rest, hops, .inside hbusy hprog (Function.update_self ..) (Function.update_self ..)⟩

/-- A thread drops a guard after a section. -/
theorem Tracks.release (h : Tracks p ops s ls cfg)
    (hholds : ∀ t, cfg.holder = some t → (cfg.threads t).holds = true)
    {m : Lock} {held : List Lock} {rest : List Op} (hops : ops t = callsOf t ls ++ rest)
    (hsettled : ∀ call out, cfg.threads t ≠ .returning call out) (hheld : s.holder m = some t)
    (hpc : (cfg.threads t).holds = false)
    {next : Prog Lock (MockWorld B)}
    (hnext : next = .releaseAll held ((cfg.threads t).program p (programs p rest))) :
    Tracks p ops ((s.setHolder m none).goto t next) ls cfg := by
  have hkept : ∀ t' ≠ t, ∀ m', s.holder m' = some t' →
      (s.setHolder m none).holder m' = some t' := by
    intro t' ht m' hheld'
    have hne : m' ≠ m := by
      intro heq
      rw [heq, hheld] at hheld'
      exact ht (Option.some_inj.mp hheld').symm
    exact (Function.update_of_ne hne _ _).trans hheld'
  rw [← List.append_nil ls]
  refine h.update (t := t) (fun t' hne => Function.update_of_ne hne _ _) hkept (fun _ _ => rfl)
    (by simp) h.world ?_ ?_
  · intro t' hheld'
    exact .inl ⟨holder_ne hholds hpc hheld', hheld'⟩
  · rw [List.append_nil]
    refine ⟨rest, hops, .before hsettled ⟨held, ?_, .inr hpc⟩⟩
    show Function.update s.progs t next t = _
    rw [Function.update_self, hnext]

/-- A thread makes its next call. -/
theorem Tracks.invoke (h : Tracks p ops s ls cfg) {op : Op} {rest : List Op}
    (hops : ops t = callsOf t ls ++ op :: rest) (hidle : cfg.threads t = .idle)
    (hprog : s.progs t = op.program p (programs p rest))
    (hholds : ∀ t, cfg.holder = some t → (cfg.threads t).holds = true) :
    Tracks p ops s (ls ++ [⟨t, .invoke cfg.nextCall op⟩]) (cfg.invoke t op) := by
  have hself : (cfg.invoke t op).threads t = .start cfg.nextCall op :=
    Config.goto_threads_self _ _
  refine h.update (t := t) (fun _ _ => rfl) (fun _ _ _ hm => hm)
    (fun t' hne => Function.update_of_ne hne _ _) (by simp) h.world ?_ ?_
  · intro t' hheld
    exact .inl ⟨holder_ne hholds (by rw [hidle]; rfl) hheld, hheld⟩
  · refine ⟨rest, by rw [callsOf_invoke, hops, List.append_assoc]; rfl, ?_⟩
    rw [hself]
    refine .before ?_ ⟨[], ?_, .inl rfl⟩
    · intro call out heq
      have hbusy := Pc.start_isBusy cfg.nextCall op
      rw [heq] at hbusy
      cases hbusy
    · rw [hprog, start_program]
      rfl

/-- A thread does a section, and returns from its call if it was the last. -/
theorem Tracks.run (h : Tracks p ops s ls cfg)
    (hholds : ∀ t, cfg.holder = some t → (cfg.threads t).holds = true)
    {rest : List Op} (hops : ops t = callsOf t ls ++ rest)
    (hbusy : (cfg.threads t).isBusy = true)
    (hwaits : (cfg.threads t).waits = true → s.holder .subscriptions = some t)
    {after : MockWorld B → Prog Lock (MockWorld B)}
    (hprog : s.progs t = .run (fun w => ((cfg.threads t).next p w).2) after)
    (hdrops : Drops p (programs p rest) ((cfg.threads t).next p s.world).1 (after s.world)) :
    ∃ more cfg', (clones B p clientId).Run cfg more cfg' ∧ Belongs p s t more ∧
      Tracks p ops ({ s with world := ((cfg.threads t).next p s.world).2 }.goto t (after s.world))
        (ls ++ more) cfg' := by
  have hfree : (cfg.threads t).waits = true → cfg.holder = none := by
    intro hw
    by_contra hsome
    obtain ⟨t', ht'⟩ := Option.ne_none_iff_exists'.mp hsome
    -- whoever holds `subscriptions` here holds it there, so it is `t` itself
    have heq := (h.holder t' ht').symm.trans (hwaits hw)
    exact holder_ne hholds (Pc.waits_holds hw) ht' (Option.some_inj.mp heq)
  obtain ⟨move, hmove, hbegins, hnoret⟩ := Pc.move_isSome (p := p) (w := cfg.world) hbusy
  have hnoinvoke : ∀ call op, move ≠ .invoke call op := by
    rintro call op rfl
    cases hbegins
  obtain ⟨cfg₁, hadvance⟩ := advance_of hmove hfree
  have hadv := advance_inv hadvance
  have hself : cfg₁.threads t = ((cfg.threads t).next p s.world).1 := by
    rw [hadv.threads, Function.update_self, h.world]
  have hothers : ∀ t' ≠ t, cfg₁.threads t' = cfg.threads t' := by
    intro t' hne
    rw [hadv.threads, Function.update_of_ne hne]
  have hworld : cfg₁.world = ((cfg.threads t).next p s.world).2 := by
    rw [hadv.world, h.world]
  have hholder : ∀ t', cfg₁.holder = some t' → t' ≠ t ∧ cfg.holder = some t' ∨
      t' = t ∧ s.holder .subscriptions = some t := by
    intro t' ht'
    rcases hadv.holder_cases hholds ht' with hother | ⟨heq, -, ⟨-, hheld⟩ | hw⟩
    · exact .inl hother
    · exact .inr ⟨heq, h.holder t hheld⟩
    · exact .inr ⟨heq, hwaits hw⟩
  rw [← hself] at hdrops
  by_cases hret : ∃ call out, cfg₁.threads t = .returning call out
  · obtain ⟨call, out, hret⟩ := hret
    have hlast : cfg₁.advance p t = some (.ret call out, cfg₁.goto t .idle) := by
      unfold Config.advance
      rw [hret]
    have hlastBelongs : Belongs p s t [⟨t, .ret call out⟩] := by
      refine .cons (.nil p s t) (fun call' op heq => ?_) (fun call' out' heq => ?_)
      · cases heq
      · cases heq
        exact ⟨_, after, hprog, hself.symm.trans hret⟩
    have hbelongs : Belongs p s t [⟨t, move⟩, ⟨t, .ret call out⟩] :=
      hlastBelongs.cons (fun call' op heq => absurd heq (hnoinvoke call' op))
        fun call' out' heq => absurd heq (hnoret call' out')
    refine ⟨[⟨t, move⟩, ⟨t, .ret call out⟩], cfg₁.goto t .idle,
      .cons (.inr hadvance) (.single (.inr hlast)), hbelongs, ?_⟩
    refine h.update (t := t) (fun t' hne => Function.update_of_ne hne _ _) (fun _ _ _ hm => hm)
      (fun t' hne => (Config.goto_threads_ne _ hne).trans (hothers t' hne)) hbelongs.thread
      hworld hholder ⟨rest, ?_, ?_⟩
    · have hcalls : ls ++ [⟨t, move⟩, ⟨t, .ret call out⟩] =
          (ls ++ [⟨t, move⟩]) ++ [⟨t, .ret call out⟩] := by simp
      rw [hcalls, callsOf_section rfl, callsOf_section hbegins]
      exact hops
    · obtain ⟨held, hnext, -⟩ := hdrops
      rw [hret] at hnext
      rw [Config.goto_threads_self]
      refine .before (fun call' out' heq => ?_) ⟨held, ?_, .inr rfl⟩
      · cases heq
      · exact (Function.update_self ..).trans hnext
  · have hbelongs : Belongs p s t [⟨t, move⟩] :=
      .cons (.nil p s t) (fun call op heq => absurd heq (hnoinvoke call op))
        fun call out heq => absurd heq (hnoret call out)
    refine ⟨[⟨t, move⟩], cfg₁, .single (.inr hadvance), hbelongs, ?_⟩
    refine h.update (t := t) (fun t' hne => Function.update_of_ne hne _ _) (fun _ _ _ hm => hm)
      hothers hbelongs.thread hworld hholder ⟨rest, ?_, ?_⟩
    · rw [callsOf_section hbegins]
      exact hops
    · refine .before (fun call out heq => hret ⟨call, out, heq⟩) ?_
      obtain ⟨held, hnext, hheld⟩ := hdrops
      exact ⟨held, (Function.update_self ..).trans hnext, hheld⟩

/-- A step of a thread that is in a call. -/
theorem Tracks.busy (h : Tracks p ops s ls cfg) (hg : cfg.Good)
    (hholds : ∀ t, cfg.holder = some t → (cfg.threads t).holds = true)
    {rest : List Op} (hops : ops t = callsOf t ls ++ rest)
    (hbusy : (cfg.threads t).isBusy = true)
    (hprog : s.progs t = (cfg.threads t).program p (programs p rest))
    (hstep : s.advance t = some s') :
    ∃ more cfg', (clones B p clientId).Run cfg more cfg' ∧ Belongs p s t more ∧
      Tracks p ops s' (ls ++ more) cfg' := by
  have hone : ∀ call op, cfg.threads t = .atomic call op → op.oneSection = true :=
    fun call op hpc => hg.oneSection hpc
  rcases program_section hbusy hone (programs p rest) with
    ⟨m, ⟨after, hsection, -⟩, -⟩ | ⟨after, hsection, hwaits, hdrops⟩
  · obtain ⟨hfree, rfl⟩ := Threads.advance_acquire (hprog.trans hsection) hstep
    refine ⟨[], cfg, .nil, .nil p s t, ?_⟩
    rw [List.append_nil]
    exact h.acquire hfree hops hbusy hsection
  · obtain rfl := Threads.advance_run (hprog.trans hsection) hstep
    refine h.run hholds hops hbusy (fun hw => ?_) (hprog.trans hsection) (hdrops s.world)
    rw [hwaits] at hw
    cases hw

/-- A step of a thread that has taken the mutex of its next section. -/
theorem Tracks.inside (h : Tracks p ops s ls cfg) (hg : cfg.Good)
    (hholds : ∀ t, cfg.holder = some t → (cfg.threads t).holds = true)
    {rest : List Op} (hops : ops t = callsOf t ls ++ rest)
    (hbusy : (cfg.threads t).isBusy = true) {m : Lock} {next : Prog Lock (MockWorld B)}
    (hprog : (cfg.threads t).program p (programs p rest) = .acquire m next)
    (hnext : s.progs t = next) (hheld : s.holder m = some t) (hstep : s.advance t = some s') :
    ∃ more cfg', (clones B p clientId).Run cfg more cfg' ∧ Belongs p s t more ∧
      Tracks p ops s' (ls ++ more) cfg' := by
  have hone : ∀ call op, cfg.threads t = .atomic call op → op.oneSection = true :=
    fun call op hpc => hg.oneSection hpc
  rcases program_section hbusy hone (programs p rest) with
    ⟨m', ⟨after, hsection, hdrops⟩, hwaits⟩ | ⟨after, hsection, -⟩
  · obtain ⟨rfl, rfl⟩ := Prog.acquire.inj (hprog.symm.trans hsection)
    obtain rfl := Threads.advance_run hnext hstep
    refine h.run hholds hops hbusy (fun hw => ?_) hnext (hdrops s.world)
    rw [← hwaits hw]
    exact hheld
  · cases hprog.symm.trans hsection

/-- A program starts with a call, whose program starts with its first section. -/
theorem Located.cases {pc : Pc} {rest : List Op} (h : Located p s t pc rest) :
    (∃ m held, s.progs t = .release m (.releaseAll held (pc.program p (programs p rest))) ∧
        pc.holds = false ∧ ∀ call out, pc ≠ .returning call out) ∨
      s.progs t = pc.program p (programs p rest) ∧ (pc.isBusy = true ∨ pc = .idle) ∨
      ∃ m next, pc.isBusy = true ∧ pc.program p (programs p rest) = .acquire m next ∧
        s.progs t = next ∧ s.holder m = some t := by
  cases h with
  | inside hbusy hprog hnext hheld => exact .inr (.inr ⟨_, _, hbusy, hprog, hnext, hheld⟩)
  | before hsettled hdrops =>
      obtain ⟨held, hprog, hheld⟩ := hdrops
      cases held with
      | cons m held =>
          refine .inl ⟨m, held, hprog, hheld.resolve_left (List.cons_ne_nil m held), hsettled⟩
      | nil =>
          refine .inr (.inl ⟨hprog, ?_⟩)
          cases pc with
          | idle => exact .inr rfl
          | returning call out => exact absurd rfl (hsettled call out)
          | _ => exact .inl rfl

/-- Whatever step a thread takes, the clones can follow. -/
theorem Tracks.step (h : Tracks p ops s ls cfg) (hreach : (clones B p clientId).Reachable cfg)
    (horder : s.Ordered) (hvalid : ∀ op ∈ ops t, op.Valid cfg.world)
    (hstep : s.advance t = some s') :
    ∃ more cfg', (clones B p clientId).Run cfg more cfg' ∧ Belongs p s t more ∧
      Tracks p ops s' (ls ++ more) cfg' := by
  have hg := clones_good hreach
  have hholds := clones_holder hreach
  obtain ⟨rest, hops, hlocated⟩ := h.located t
  rcases hlocated.cases with ⟨m, held, hprog, hpc, hsettled⟩ | ⟨hprog, hbusy | hidle⟩ |
    ⟨m, next, hbusy, hprog, hnext, hheld⟩
  · obtain rfl := Threads.advance_release hprog hstep
    have hheld : s.holder m = some t := by
      have ht := horder t
      rw [hprog] at ht
      exact ht.1
    refine ⟨[], cfg, .nil, .nil p s t, ?_⟩
    rw [List.append_nil]
    exact h.release hholds hops hsettled hheld hpc rfl
  · exact h.busy hg hholds hops hbusy hprog hstep
  · rw [hidle] at hprog
    cases rest with
    | nil =>
        have hnone : s.advance t = none := Threads.advance_done hprog
        rw [hnone] at hstep
        cases hstep
    | cons op rest =>
        -- the call is made now, so that its first section can come
        have hmade := h.invoke hops hidle hprog hholds
        have hmake : (clones B p clientId).step cfg ⟨t, .invoke cfg.nextCall op⟩
            (cfg.invoke t op) :=
          .inl ⟨op, rfl, hidle, hvalid op (by rw [hops]; simp), rfl⟩
        have hreach' := hreach.step hmake
        have hself : (cfg.invoke t op).threads t = .start cfg.nextCall op :=
          Config.goto_threads_self _ _
        have hops' : ops t = callsOf t (ls ++ [⟨t, .invoke cfg.nextCall op⟩]) ++ rest := by
          rw [callsOf_invoke, hops, List.append_assoc]
          rfl
        have hprog' : s.progs t = ((cfg.invoke t op).threads t).program p (programs p rest) := by
          rw [hself, start_program]
          exact hprog
        have hbusy : ((cfg.invoke t op).threads t).isBusy = true := by
          rw [hself]
          exact Pc.start_isBusy _ _
        have hfollowed : ∃ more cfg', (clones B p clientId).Run (cfg.invoke t op) more cfg' ∧
            Belongs p s t more ∧
            Tracks p ops s' (ls ++ [⟨t, .invoke cfg.nextCall op⟩] ++ more) cfg' :=
          hmade.busy (clones_good hreach') (clones_holder hreach') hops' hbusy hprog' hstep
        obtain ⟨more, cfg', hrun, hbelongs, htracks⟩ := hfollowed
        have hbelongs' : Belongs p s t (⟨t, .invoke cfg.nextCall op⟩ :: more) := by
          refine hbelongs.cons (fun call op' heq => ?_) (fun call out heq => ?_)
          · cases heq
            exact ⟨rest, hprog⟩
          · cases heq
        refine ⟨⟨t, .invoke cfg.nextCall op⟩ :: more, cfg', .cons hmake hrun, hbelongs', ?_⟩
        rw [List.append_assoc] at htracks
        exact htracks
  · exact h.inside hg hholds hops hbusy hprog hnext hheld hstep

end

/-! ## Whole runs -/

theorem Moves.next_le {cfg cfg' : Config B} {t : ThreadId} {move : Move} (hg : cfg.Good)
    (h : Moves p cfg t move cfg') : cfg.world.channels.next ≤ cfg'.world.channels.next := by
  cases h with
  | fanOut _ _ _ htook => exact Nat.le_of_eq htook.next.symm
  | replay _ htook => exact Nat.le_of_eq htook.next.symm
  | atomic hpc _ heffect => exact (heffect.oneSection_shared (hg.oneSection hpc)).1
  | _ => exact Nat.le_refl _

/-- No channel is lost. -/
theorem run_next_le {cfg cfg' : Config B} {ls : List Label}
    (hreach : (clones B p clientId).Reachable cfg) (h : (clones B p clientId).Run cfg ls cfg') :
    cfg.world.channels.next ≤ cfg'.world.channels.next := by
  induction h with
  | nil => exact Nat.le_refl _
  | snoc hrun hstep ih =>
      obtain ⟨ls₀, htrace⟩ := hreach
      have hg := clones_good ⟨_, htrace.append hrun⟩
      exact Nat.le_trans ih ((step_moves hg hstep).next_le hg)

theorem Tracks.start {cfg : Config B} {ops : ThreadId → List Op}
    (hreach : (clones B p clientId).Reachable cfg) (hidle : ∀ t, cfg.threads t = .idle) :
    Tracks p ops ⟨cfg.world, fun _ => none, fun t => programs p (ops t)⟩ [] cfg where
  world := rfl
  holder t ht := by
    have hholds := clones_holder hreach t ht
    rw [hidle] at hholds
    cases hholds
  located t := by
    refine ⟨ops t, rfl, .before ?_ ⟨[], ?_, .inl rfl⟩⟩
    · intro call out heq
      rw [hidle] at heq
      cases heq
    · rw [hidle]
      rfl

/-- From `cfg₀` the clones go along with the schedule `ts`, which takes threads with
the calls `ops` to `s`: they take the `steps` that belong to its steps, and have
got as far after each. So a call is made at the first step its thread takes in it
and returns at its last section, before the guards are dropped. -/
def GoesAlong (p : Profile) (clientId : String) (ops : ThreadId → List Op) (cfg₀ : Config B) :
    List ThreadId → Threads Lock (MockWorld B) → List (List Label) → Config B → Prop :=
  Lockstep (threads cfg₀.world fun t => programs p (ops t)) (clones B p clientId)
    (Belongs p) (fun _ s ls cfg => Tracks p ops s ls cfg)
    ⟨cfg₀.world, fun _ => none, fun t => programs p (ops t)⟩ cfg₀

/-- The clones can go along with every schedule. -/
theorem locked_goesAlong {ls₀ : List Label} {cfg₀ : Config B} {ops : ThreadId → List Op}
    (h₀ : (clones B p clientId).Trace ls₀ cfg₀) (hidle : ∀ t, cfg₀.threads t = .idle)
    (hvalid : ∀ t, ∀ op ∈ ops t, op.Valid cfg₀.world) {ts : List ThreadId}
    {s : Threads Lock (MockWorld B)}
    (h : (threads cfg₀.world fun t => programs p (ops t)).Trace ts s) :
    ∃ steps cfg, GoesAlong p clientId ops cfg₀ ts s steps cfg := by
  obtain ⟨s₀, rfl, hrun⟩ := h
  refine Lockstep.of_run (.start ⟨ls₀, h₀⟩ hidle) ?_ hrun
  intro ts s t s' steps cfg hrun hlock hstep
  have horder : s.Ordered :=
    Threads.ordered_reachable (fun t => ordered_programs (ops t)) ⟨ts, _, rfl, hrun⟩
  have hnext := run_next_le ⟨ls₀, h₀⟩ hlock.run
  exact hlock.related.step ⟨_, h₀.append hlock.run⟩ horder
    (fun op hop => (hvalid t op hop).mono hnext) hstep

/-- A thread in a call is not at the end of its program, nor right behind a mutex. -/
theorem program_ne_done {pc : Pc} (hbusy : pc.isBusy = true)
    (hone : ∀ call op, pc = .atomic call op → op.oneSection = true)
    (next : Prog Lock (MockWorld B)) :
    pc.program p next ≠ .done ∧ ∀ m, pc.program p next ≠ .acquire m .done := by
  rcases program_section hbusy hone next with
    ⟨m, ⟨after, hsection, -⟩, -⟩ | ⟨after, hsection, -⟩
  · rw [hsection]
    exact ⟨nofun, fun _ => nofun⟩
  · rw [hsection]
    exact ⟨nofun, fun _ => nofun⟩

/-- A thread at the end of its program has made all its calls. -/
theorem Tracks.done {cfg : Config B} {ls : List Label} {ops : ThreadId → List Op}
    {s : Threads Lock (MockWorld B)} {t : ThreadId} (h : Tracks p ops s ls cfg) (hg : cfg.Good)
    (hdone : s.progs t = .done) : callsOf t ls = ops t ∧ cfg.threads t = .idle := by
  obtain ⟨rest, hops, hlocated⟩ := h.located t
  have hone : ∀ call op, cfg.threads t = .atomic call op → op.oneSection = true :=
    fun call op hpc => hg.oneSection hpc
  rcases hlocated.cases with ⟨m, held, hprog, -⟩ | ⟨hprog, hbusy | hidle⟩ |
    ⟨m, next, hbusy, hprog, hnext, -⟩
  · cases hdone.symm.trans hprog
  · exact absurd (hprog.symm.trans hdone) (program_ne_done hbusy hone _).1
  · rw [hidle] at hprog
    cases rest with
    | nil => exact ⟨by rw [hops, List.append_nil], hidle⟩
    | cons op rest =>
        have hstart : (Pc.start 0 op).program p (programs (B := B) p rest) = .done := by
          rw [start_program]
          exact hprog.symm.trans hdone
        exact absurd hstart (program_ne_done (Pc.start_isBusy 0 op)
          (fun _ _ heq => Pc.start_oneSection heq) _).1
  · obtain rfl := hnext.symm.trans hdone
    exact absurd hprog ((program_ne_done hbusy hone _).2 m)

/-- With threads that take the mutexes step by step, from a moment on when nobody
is in a call, the clones can go along section by section: at the end, as after
each step, each thread has made the same calls and is in the same section, and
the shared client is the same. -/
theorem locked_refines {ls₀ : List Label} {cfg₀ : Config B} {ops : ThreadId → List Op}
    (h₀ : (clones B p clientId).Trace ls₀ cfg₀) (hidle : ∀ t, cfg₀.threads t = .idle)
    (hvalid : ∀ t, ∀ op ∈ ops t, op.Valid cfg₀.world) {ts : List ThreadId}
    {s : Threads Lock (MockWorld B)}
    (h : (threads cfg₀.world fun t => programs p (ops t)).Trace ts s) :
    ∃ steps cfg, GoesAlong p clientId ops cfg₀ ts s steps cfg ∧
      (clones B p clientId).Run cfg₀ steps.flatten cfg ∧ cfg.world = s.world ∧
      ∀ t, (∃ rest, ops t = callsOf t steps.flatten ++ rest ∧
          Located p s t (cfg.threads t) rest) ∧
        (s.progs t = .done → callsOf t steps.flatten = ops t ∧ cfg.threads t = .idle) := by
  obtain ⟨steps, cfg, hlock⟩ := locked_goesAlong h₀ hidle hvalid h
  have htracks : Tracks p ops s steps.flatten cfg := hlock.related
  have hg := clones_good ⟨_, h₀.append hlock.run⟩
  exact ⟨steps, cfg, hlock, hlock.run, htracks.world,
    fun t => ⟨htracks.located t, htracks.done hg⟩⟩

/-- A channel was created, and nobody is in a call. -/
def oneChannel : List Label × Config (.log MqttMessage) :=
  ((Config.new (.log MqttMessage) "mock-client").play .debug (fun _ => True)
    [.call 0 (.channel 4), .go 0, .go 0]).get (by decide)

theorem oneChannel_trace :
    (clones (.log MqttMessage) .debug "mock-client").Trace oneChannel.1 oneChannel.2 :=
  TSys.within_trace (Config.play_trace trivial (Option.some_get _).symm)

theorem oneChannel_idle (t : ThreadId) : oneChannel.2.threads t = .idle :=
  run_idle ⟨[], _, rfl, .nil⟩ (fun _ => rfl)
    (TSys.within_run (Config.play_run "mock-client" (Option.some_get _).symm)) (by decide) t

/-- Each of the two threads takes a mutex before the other drops its first. -/
def crossedSchedule : List ThreadId := [0, 1, 0, 1, 0, 1, 1, 1, 1, 1, 1, 1, 0, 0, 0]

/-- Both have made their call. -/
def crossedEnd : Threads Lock (MockWorld (.log MqttMessage)) :=
  (TSys.runAll Threads.advance
    ⟨oneChannel.2.world, fun _ => none, fun t => programs .debug (crossedCalls t)⟩
    crossedSchedule).get rfl

theorem crossedEnd_trace :
    (threads oneChannel.2.world fun t => programs .debug (crossedCalls t)).Trace crossedSchedule
      crossedEnd :=
  ⟨_, rfl, TSys.runAll_run (fun _ _ _ h => h) (Option.some_get _).symm⟩

theorem crossedCalls_valid : ∀ t, ∀ op ∈ crossedCalls t, op.Valid oneChannel.2.world
  | 0, op, hop => by
      obtain rfl := List.mem_singleton.mp hop
      trivial
  | 1, op, hop => by
      obtain rfl := List.mem_singleton.mp hop
      exact (by decide : 0 < oneChannel.2.world.channels.next)
  | t + 2, op, hop => absurd hop List.not_mem_nil

theorem locked_refines_crossed :
    crossedEnd.progs 0 = .done ∧ crossedEnd.progs 1 = .done ∧ ∃ steps cfg,
      GoesAlong .debug "mock-client" crossedCalls oneChannel.2 crossedSchedule crossedEnd
        steps cfg ∧
      (clones (.log MqttMessage) .debug "mock-client").Run oneChannel.2 steps.flatten cfg ∧
      cfg.world = crossedEnd.world ∧
      ∀ t, (∃ rest, crossedCalls t = callsOf t steps.flatten ++ rest ∧
          Located .debug crossedEnd t (cfg.threads t) rest) ∧
        (crossedEnd.progs t = .done →
          callsOf t steps.flatten = crossedCalls t ∧ cfg.threads t = .idle) := by
  refine ⟨rfl, rfl, ?_⟩
  exact locked_refines oneChannel_trace oneChannel_idle crossedCalls_valid crossedEnd_trace

end StingerMqtt

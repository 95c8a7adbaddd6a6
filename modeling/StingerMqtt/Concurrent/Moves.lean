import StingerMqtt.Concurrent.System

/-!
# What one step of the clones can do

`Good` says where the threads can be: only the holder of `subscriptions` is
inside a subscribe, and a call that is under way still makes sense. `Moves`
lists once what a step from a good configuration can do; every invariant of the
concurrent client splits on it.
-/

namespace StingerMqtt

open Kit Mock MockWorld

variable {B : Broadcast MqttMessage} {p : Profile}

/-- The calls that are one section. -/
def Op.oneSection : Op → Bool
  | .subscribe .. => false
  | .simulateReceive _ => false
  | _ => true

namespace Pc

/-- The call a thread is in. -/
def call : Pc → Option CallId
  | .idle => none
  | .store call _ => some call
  | .fanOut call _ => some call
  | .lock call .. => some call
  | .allocate call .. => some call
  | .replay call .. => some call
  | .atomic call _ => some call
  | .returning call _ => some call

/-- What holds of a thread that is at a section. -/
def Ok (cfg : Config B) (t : ThreadId) : Pc → Prop
  | .lock _ _ tx _ => tx < cfg.world.channels.next
  | .allocate _ _ tx _ =>
    tx < cfg.world.channels.next ∧ cfg.holder = some t ∧ cfg.world.poisoned = false
  | .replay _ _ tx _ _ =>
    tx < cfg.world.channels.next ∧ cfg.holder = some t ∧ cfg.world.poisoned = false
  | .atomic _ op => op.Valid cfg.world ∧ op.oneSection = true
  | _ => True

end Pc

namespace Config

variable (cfg : Config B)

/-- The invariant of the configuration. -/
structure Good : Prop where
  sound : cfg.world.Sound
  rows : cfg.rows.map Prod.snd = cfg.world.table
  threads : ∀ t, (cfg.threads t).Ok cfg t

variable {cfg}

/-- A call that runs as one section is one that has one. -/
theorem Good.oneSection (hg : cfg.Good) {t : ThreadId} {call : CallId} {op : Op}
    (hpc : cfg.threads t = .atomic call op) : op.oneSection = true := by
  have hok := hg.threads t
  rw [hpc] at hok
  exact hok.2

@[simp] theorem goto_world (t : ThreadId) (pc : Pc) : (cfg.goto t pc).world = cfg.world := rfl
@[simp] theorem goto_holder (t : ThreadId) (pc : Pc) : (cfg.goto t pc).holder = cfg.holder := rfl
@[simp] theorem goto_nextCall (t : ThreadId) (pc : Pc) :
    (cfg.goto t pc).nextCall = cfg.nextCall := rfl
@[simp] theorem goto_rows (t : ThreadId) (pc : Pc) : (cfg.goto t pc).rows = cfg.rows := rfl
@[simp] theorem goto_origin (t : ThreadId) (pc : Pc) : (cfg.goto t pc).origin = cfg.origin := rfl
@[simp] theorem goto_deliveries (t : ThreadId) (pc : Pc) :
    (cfg.goto t pc).deliveries = cfg.deliveries := rfl

@[simp] theorem goto_threads_self (t : ThreadId) (pc : Pc) : (cfg.goto t pc).threads t = pc := by
  unfold goto
  simp

theorem goto_threads_ne {t t' : ThreadId} (pc : Pc) (h : t' ≠ t) :
    (cfg.goto t pc).threads t' = cfg.threads t' := by
  unfold goto
  simp [h]

/-- All threads after a step of one: that one, and the others. -/
theorem forall_goto {P : ThreadId → Pc → Prop} {t : ThreadId} {pc : Pc} (hself : P t pc)
    (hothers : ∀ t' ≠ t, P t' (cfg.threads t')) :
    ∀ t', P t' ((cfg.goto t pc).threads t') := by
  intro t'
  by_cases h : t' = t
  · subst h
    rw [goto_threads_self]
    exact hself
  · rw [goto_threads_ne pc h]
    exact hothers t' h

/-- A thread after a step of thread `t`: that one, or another. -/
theorem threads_cases {cfg' : Config B} {t : ThreadId} {pc : Pc}
    (h : cfg'.threads = Function.update cfg.threads t pc) (t' : ThreadId) :
    t' = t ∧ cfg'.threads t' = pc ∨ t' ≠ t ∧ cfg'.threads t' = cfg.threads t' := by
  by_cases ht : t' = t
  · subst ht
    exact .inl ⟨rfl, by rw [h, Function.update_self]⟩
  · exact .inr ⟨ht, by rw [h, Function.update_of_ne ht]⟩

theorem goto_threads_cases {t : ThreadId} {pc : Pc} (t' : ThreadId) :
    t' = t ∧ (cfg.goto t pc).threads t' = pc ∨
      t' ≠ t ∧ (cfg.goto t pc).threads t' = cfg.threads t' :=
  threads_cases rfl t'

end Config

/-- `Moves p cfg t move cfg'`: in `cfg` thread `t` may do `move` and lead to
`cfg'`. -/
inductive Moves (p : Profile) (cfg : Config B) (t : ThreadId) : Move → Config B → Prop
  | invoke {op} : cfg.threads t = .idle → op.Valid cfg.world →
      Moves p cfg t (.invoke cfg.nextCall op) (cfg.invoke t op)
  | store {call m} : cfg.threads t = .store call m →
      Moves p cfg t (.store call m)
        ({ cfg with
            world := cfg.world.setRetained (cfg.world.retained.insert m.topic m)
            origin := Function.update cfg.origin m.topic (some call) }.goto t (.fanOut call m))
  | fanOutPanicked {call m} : cfg.threads t = .fanOut call m → cfg.holder = none →
      cfg.world.poisoned = true →
      Moves p cfg t (.fanOut call m) (cfg.goto t (.returning call .panicked))
  | fanOut {call m result b} : cfg.threads t = .fanOut call m → cfg.holder = none →
      cfg.world.poisoned = false →
      cfg.world.channels.Took (copies (fanOuts cfg.world m)) b →
      Moves p cfg t (.fanOut call m)
        ({ cfg with
            world := cfg.world.setChannels b
            deliveries := cfg.deliveries ++ cfg.fannedOut call m }.goto t
          (.returning call (.returned (.received result))))
  | lockPanicked {call topic tx iter} : cfg.threads t = .lock call topic tx iter →
      cfg.holder = none → cfg.world.poisoned = true →
      Moves p cfg t (.lock call) (cfg.goto t (.returning call .panicked))
  | lock {call topic tx iter} : cfg.threads t = .lock call topic tx iter →
      cfg.holder = none → cfg.world.poisoned = false →
      Moves p cfg t (.lock call)
        ({ cfg with holder := some t }.goto t (.allocate call topic tx iter))
  | allocateOverflow {call topic tx iter} : cfg.threads t = .allocate call topic tx iter →
      p.addU32 cfg.world.nextId 1 = none →
      Moves p cfg t (.allocate call .panicked)
        ({ cfg with world := cfg.world.poisonSubscribe, holder := none }.goto t
          (.returning call .panicked))
  | allocate {call topic tx iter nextId'} : cfg.threads t = .allocate call topic tx iter →
      p.addU32 cfg.world.nextId 1 = some nextId' →
      Moves p cfg t (.allocate call (.returned cfg.world.nextId))
        ({ cfg with
            world := pushed cfg.world topic tx nextId'
            rows := cfg.rows ++ [(call, (⟨topic, cfg.world.nextId, tx⟩ : Subscription))] }.goto t
          (.replay call topic tx iter cfg.world.nextId))
  | replay {call topic tx iter id b} : cfg.threads t = .replay call topic tx iter id →
      cfg.world.channels.Took (copies (replays cfg.world ⟨topic, id, tx⟩ iter)) b →
      Moves p cfg t (.replay call)
        ({ cfg with
            world := cfg.world.setChannels b
            holder := none
            deliveries := cfg.deliveries ++ cfg.replayedTo call ⟨topic, id, tx⟩ iter }.goto t
          (.returning call (.returned (.subscribed (.ok id)))))
  | atomic {call op out w'} : cfg.threads t = .atomic call op →
      (op.locksTable = true → cfg.holder = none) → Effect p cfg.world op out w' →
      Moves p cfg t (.atomic call op)
        ({ cfg with
            world := w'
            rows := Config.rowsAfter cfg.rows op out
            origin := Config.originAfter cfg.origin op }.goto t (.returning call out))
  | ret {call out} : cfg.threads t = .returning call out →
      Moves p cfg t (.ret call out) (cfg.goto t .idle)

variable {cfg cfg' : Config B} {t : ThreadId} {move : Move}

/-- The next section of a call is one of the moves. -/
theorem advance_moves (hg : cfg.Good) (h : cfg.advance p t = some (move, cfg')) :
    Moves p cfg t move cfg' := by
  have hok := hg.threads t
  unfold Config.advance at h
  cases hpc : cfg.threads t with
  | idle =>
      rw [hpc] at h
      cases h
  | store call m =>
      rw [hpc] at h
      simp only [storeRetained_eq hg.sound.locks] at h
      cases h
      exact .store hpc
  | fanOut call m =>
      rw [hpc] at h
      simp only at h
      split at h
      · next hfree =>
          cases hp : cfg.world.poisoned with
          | true =>
              simp only [fanOut_panicked m hp] at h
              cases h
              exact .fanOutPanicked hpc hfree hp
          | false =>
              obtain ⟨result, b, hfan, htook, -⟩ := fanOut_spec m hp
              rw [← copies_fanOuts] at htook
              simp only [hfan] at h
              cases h
              exact .fanOut hpc hfree hp htook
      · cases h
  | lock call topic tx iter =>
      rw [hpc] at h
      simp only at h
      split at h
      · next hfree =>
          cases hp : cfg.world.poisoned with
          | true =>
              simp only [lockSubscriptions_panicked hp] at h
              cases h
              exact .lockPanicked hpc hfree hp
          | false =>
              simp only [lockSubscriptions_eq hp] at h
              cases h
              exact .lock hpc hfree hp
      · cases h
  | allocate call topic tx iter =>
      rw [hpc] at h hok
      -- `t` holds `subscriptions`, so nobody has poisoned it meanwhile
      obtain ⟨-, -, hp⟩ := hok
      cases hadd : p.addU32 cfg.world.nextId 1 with
      | none =>
          simp only [allocate_overflow hg.sound.locks hp hadd] at h
          cases h
          exact .allocateOverflow hpc hadd
      | some nextId' =>
          simp only [allocate_eq hg.sound.locks hp hadd] at h
          cases h
          exact .allocate hpc hadd
  | replay call topic tx iter id =>
      rw [hpc] at h
      obtain ⟨b, hreplay, htook⟩ := replay_spec hg.sound.locks topic id tx iter
      have htook : cfg.world.channels.Took (copies (replays cfg.world ⟨topic, id, tx⟩ iter)) b := by
        rw [copies_replays]
        exact htook
      simp only [hreplay] at h
      cases h
      exact .replay hpc htook
  | atomic call op =>
      rw [hpc] at h
      simp only at h
      split at h
      · next hfree =>
          cases h
          refine .atomic hpc (fun hlocks => hfree.resolve_left ?_) (exec_effect hg.sound.locks op)
          simp [hlocks]
      · cases h
  | returning call out =>
      rw [hpc] at h
      cases h
      exact .ret hpc

theorem step_moves {clientId : String} {l : Label} (hg : cfg.Good)
    (h : (clones B p clientId).step cfg l cfg') : Moves p cfg l.thread l.move cfg' := by
  rcases h with ⟨op, hmove, hidle, hvalid, rfl⟩ | h
  · rw [hmove]
    exact .invoke hidle hvalid
  · exact advance_moves hg h

/-! ## The invariant -/

theorem Op.Valid.mono {w w' : MockWorld B} {op : Op} (h : op.Valid w)
    (hnext : w.channels.next ≤ w'.channels.next) : op.Valid w' := by
  cases op with
  | subscribe | addReceiver | dropReceiver => exact Nat.lt_of_lt_of_le h hnext
  | channel => exact h
  | _ => trivial

/-- What another thread does leaves a thread where it may be, if no channel is
lost and the holder stays the holder. -/
theorem Pc.Ok.mono {pc : Pc} (h : pc.Ok cfg t)
    (hnext : cfg.world.channels.next ≤ cfg'.world.channels.next)
    (hheld : cfg.holder = some t → cfg.world.poisoned = false →
      cfg'.holder = some t ∧ cfg'.world.poisoned = false) : pc.Ok cfg' t := by
  cases pc with
  | lock => exact Nat.lt_of_lt_of_le h hnext
  | allocate => exact ⟨Nat.lt_of_lt_of_le h.1 hnext, hheld h.2.1 h.2.2⟩
  | replay => exact ⟨Nat.lt_of_lt_of_le h.1 hnext, hheld h.2.1 h.2.2⟩
  | atomic => exact ⟨h.1.mono hnext, h.2⟩
  | _ => trivial

theorem Pc.start_ok {op : Op} (hvalid : op.Valid cfg.world) (call : CallId) :
    (Pc.start call op).Ok cfg t := by
  cases op with
  | subscribe => exact hvalid
  | simulateReceive m =>
      show (if m.retain then Pc.store call m else Pc.fanOut call m).Ok cfg t
      split <;> trivial
  | _ => exact ⟨hvalid, rfl⟩

theorem rowsAfter_sublist (rows : List (CallId × Subscription)) (op : Op) (out : Outcome Reply) :
    (Config.rowsAfter rows op out).Sublist rows := by
  unfold Config.rowsAfter
  split
  · exact List.filter_sublist
  · exact .refl _

/-- A call in one section: no row is new, none is lost unnoticed. -/
theorem Effect.rowsAfter {w w' : MockWorld B} {op : Op} {out : Outcome Reply}
    (h : Effect p w op out w') (hone : op.oneSection = true) {rows : List (CallId × Subscription)}
    (hrows : rows.map Prod.snd = w.table) :
    (Config.rowsAfter rows op out).map Prod.snd = w'.table := by
  cases h with
  | unsubscribed =>
      unfold Config.rowsAfter
      rw [table_setTable, ← hrows, List.filter_map]
      rfl
  | unsubscribePanicked => exact hrows
  | quiet hop =>
      cases op with
      | unsubscribe => simp [Op.quiet] at hop
      | _ => exact hrows
  | clearedRetained | created | addedReceiver | droppedReceiver => exact hrows
  | _ => simp [Op.oneSection] at hone

/-- The table after such a call: no row is new. -/
theorem Effect.oneSection_table {w w' : MockWorld B} {op : Op} {out : Outcome Reply}
    (h : Effect p w op out w') (hone : op.oneSection = true) {rows : List (CallId × Subscription)}
    (hrows : rows.map Prod.snd = w.table) : w'.table ⊆ w.table := by
  rw [← h.rowsAfter hone hrows, ← hrows]
  exact ((rowsAfter_sublist _ _ _).map _).subset

theorem Effect.oneSection_shared {w w' : MockWorld B} {op : Op} {out : Outcome Reply}
    (h : Effect p w op out w') (hone : op.oneSection = true) :
    w.channels.next ≤ w'.channels.next ∧ w'.poisoned = w.poisoned := by
  cases h with
  | created => exact ⟨Nat.le_succ _, rfl⟩
  | unsubscribed | unsubscribePanicked | quiet | clearedRetained | addedReceiver
  | droppedReceiver => exact ⟨Nat.le_refl _, rfl⟩
  | _ => simp [Op.oneSection] at hone

theorem map_fannedOut (hrows : cfg.rows.map Prod.snd = cfg.world.table) (call : CallId)
    (m : MqttMessage) :
    (cfg.fannedOut call m).map (fun d => (d.row, d.message)) = fanOuts cfg.world m := by
  unfold Config.fannedOut fanOuts reached addressed
  rw [← hrows, List.filter_map, List.takeWhile_map, List.map_map, List.map_map]
  rfl

theorem Config.Good.new (clientId : String) : (Config.new B clientId).Good where
  sound := .new clientId
  rows := rfl
  threads _ := trivial

/-- Every move keeps the configuration good. -/
theorem Moves.good (hg : cfg.Good) (h : Moves p cfg t move cfg') : cfg'.Good := by
  have hok := hg.threads t
  -- the others keep their place if the step leaves `next`, `holder` and `poisoned` alone
  have hothers : ∀ {cfg'' : Config B}, cfg.world.channels.next ≤ cfg''.world.channels.next →
      cfg''.holder = cfg.holder → cfg''.world.poisoned = cfg.world.poisoned →
      ∀ t' ≠ t, (cfg.threads t').Ok cfg'' t' := by
    intro cfg'' hnext hholder hpoisoned t' _
    apply (hg.threads t').mono hnext
    intro hheld hp
    rw [hholder, hpoisoned]
    exact ⟨hheld, hp⟩
  -- or if `t` holds `subscriptions`, or nobody does, since then they do not
  have hothers' : ∀ {cfg'' : Config B}, cfg.world.channels.next ≤ cfg''.world.channels.next →
      (∀ t' ≠ t, cfg.holder ≠ some t') → ∀ t' ≠ t, (cfg.threads t').Ok cfg'' t' := by
    intro cfg'' hnext hnobody t' hne
    exact (hg.threads t').mono hnext fun hheld _ => absurd hheld (hnobody t' hne)
  cases h with
  | invoke hidle hvalid =>
      refine ⟨hg.sound, hg.rows, Config.forall_goto (Pc.start_ok hvalid _) ?_⟩
      exact hothers (Nat.le_refl _) rfl rfl
  | @store call m hpc =>
      refine ⟨hg.sound.insert m, hg.rows, Config.forall_goto trivial ?_⟩
      exact hothers (Nat.le_refl _) rfl rfl
  | fanOutPanicked | lockPanicked | ret =>
      refine ⟨hg.sound, hg.rows, Config.forall_goto trivial ?_⟩
      exact hothers (Nat.le_refl _) rfl rfl
  | fanOut hpc hfree hp htook =>
      have hsound := hg.sound.sending (fun d hd => hg.sound.senders d.1 (fanOuts_row hd).1) htook
      refine ⟨hsound, hg.rows, Config.forall_goto trivial ?_⟩
      exact hothers (Nat.le_of_eq htook.next.symm) rfl rfl
  | lock hpc hfree hp =>
      rw [hpc] at hok
      refine ⟨hg.sound, hg.rows, Config.forall_goto ⟨hok, rfl, hp⟩ ?_⟩
      exact hothers' (Nat.le_refl _) fun t' _ hheld => by simp [hfree] at hheld
  | allocateOverflow hpc hadd =>
      rw [hpc] at hok
      have hsound : cfg.world.poisonSubscribe.Sound :=
        ⟨hg.sound.locks.poisonSubscribe, hg.sound.senders, hg.sound.unused, hg.sound.keys⟩
      refine ⟨hsound, hg.rows, Config.forall_goto trivial ?_⟩
      exact hothers' (Nat.le_refl _) fun t' hne hheld => by
        rw [hok.2.1] at hheld
        exact hne (Option.some_inj.mp hheld).symm
  | allocate hpc hadd =>
      rw [hpc] at hok
      refine ⟨hg.sound.pushed _ hok.1 _, ?_, Config.forall_goto hok ?_⟩
      · show (cfg.rows ++ [_]).map Prod.snd = _
        rw [List.map_append, hg.rows]
        rfl
      · exact hothers (Nat.le_refl _) rfl rfl
  | @replay call topic tx iter id b hpc htook =>
      rw [hpc] at hok
      have hrows : ∀ d ∈ replays cfg.world ⟨topic, id, tx⟩ iter,
          d.1.tx < cfg.world.channels.next := by
        intro d hd
        rw [(replays_row hd).1]
        exact hok.1
      refine ⟨hg.sound.sending hrows htook, hg.rows, Config.forall_goto trivial ?_⟩
      exact hothers' (Nat.le_of_eq htook.next.symm) fun t' hne hheld => by
        rw [hok.2.1] at hheld
        exact hne (Option.some_inj.mp hheld).symm
  | atomic hpc hfree heffect =>
      rw [hpc] at hok
      obtain ⟨hnext, hpoisoned⟩ := heffect.oneSection_shared hok.2
      refine ⟨heffect.sound hg.sound hok.1, heffect.rowsAfter hok.2 hg.rows,
        Config.forall_goto trivial ?_⟩
      exact hothers hnext rfl hpoisoned

/-- Every reachable configuration is good. -/
theorem clones_good {clientId : String} (h : (clones B p clientId).Reachable cfg) : cfg.Good := by
  refine TSys.Inductive.reachable ⟨?_, ?_⟩ h
  · rintro cfg rfl
    exact .new clientId
  · intro _ cfg l cfg' hg hstep
    exact (step_moves hg hstep).good hg

end StingerMqtt

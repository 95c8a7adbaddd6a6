import StingerMqtt.Concurrent.Calls

/-!
# One thread alone

A thread that nobody interrupts takes the sections of a call one after the
other. Together they are the call as the sequential client runs it, so every
run of the sequential client is a run of the clones.
-/

namespace StingerMqtt

open Kit Mock MockWorld

variable {B : Broadcast MqttMessage} {p : Profile} {clientId : String} {cfg cfg' : Config B}
  {t : ThreadId} {out : Outcome Reply} {w' : MockWorld B}

/-- The call a step makes. -/
def Move.begins : Move → Option Op
  | .invoke _ op => some op
  | _ => none

/-- How the call a step returns from ended. -/
def Move.ends : Move → Option (Outcome Reply)
  | .ret _ out => some out
  | _ => none

/-- The calls made in a history. -/
def begun (ls : List Label) : List Op := (moves ls).filterMap Move.begins

/-- How the calls of a history ended. -/
def ended (ls : List Label) : List (Outcome Reply) := (moves ls).filterMap Move.ends

theorem begun_append (ls ls' : List Label) : begun (ls ++ ls') = begun ls ++ begun ls' := by
  unfold begun moves
  rw [List.map_append, List.filterMap_append]

theorem ended_append (ls ls' : List Label) : ended (ls ++ ls') = ended ls ++ ended ls' := by
  unfold ended moves
  rw [List.map_append, List.filterMap_append]

/-- Left alone, thread `t` ends the call it is in as `out` and leaves the client
as `w'`. -/
def Finishes (p : Profile) (clientId : String) (cfg : Config B) (t : ThreadId)
    (out : Outcome Reply) (w' : MockWorld B) : Prop :=
  ∃ ls cfg', (clones B p clientId).Run cfg ls cfg' ∧ cfg'.world = w' ∧ cfg'.holder = none ∧
    cfg'.threads = Function.update cfg.threads t .idle ∧ begun ls = [] ∧ ended ls = [out]

/-! ## The sections of a call -/

theorem finishes_returning {call : CallId} (hpc : cfg.threads t = .returning call out)
    (hfree : cfg.holder = none) : Finishes p clientId cfg t out cfg.world := by
  have hadvance : cfg.advance p t = some (.ret call out, cfg.goto t .idle) := by
    unfold Config.advance
    rw [hpc]
  exact ⟨[⟨t, .ret call out⟩], cfg.goto t .idle, .single (.inr hadvance), rfl, hfree, rfl, rfl, rfl⟩

/-- A section in the middle of a call. -/
theorem finishes_section {move : Move} {pc : Pc} (h : cfg.advance p t = some (move, cfg'))
    (hthreads : cfg'.threads = Function.update cfg.threads t pc) (hbegins : move.begins = none)
    (hends : move.ends = none) (hrest : Finishes p clientId cfg' t out w') :
    Finishes p clientId cfg t out w' := by
  obtain ⟨ls, cfg'', hrun, hworld, hfree, hthreads', hbegun, hended⟩ := hrest
  refine ⟨⟨t, move⟩ :: ls, cfg'', .cons (.inr h) hrun, hworld, hfree, ?_, ?_, ?_⟩
  · rw [hthreads', hthreads, Function.update_idem]
  · unfold begun moves at hbegun ⊢
    rw [List.map_cons, List.filterMap_cons_none hbegins, hbegun]
  · unfold ended moves at hended ⊢
    rw [List.map_cons, List.filterMap_cons_none hends, hended]

/-- The last section of a call: what is left is to return. -/
theorem finishes_last {call : CallId} {move : Move} (h : cfg.advance p t = some (move, cfg'))
    (hthreads : cfg'.threads = Function.update cfg.threads t (.returning call out))
    (hbegins : move.begins = none) (hends : move.ends = none) (hfree : cfg'.holder = none)
    (hworld : cfg'.world = w') : Finishes p clientId cfg t out w' := by
  have hpc : cfg'.threads t = .returning call out := by
    rw [hthreads, Function.update_self]
  rw [← hworld]
  exact finishes_section h hthreads hbegins hends (finishes_returning hpc hfree)

theorem finishes_fanOut {call : CallId} {m : MqttMessage} (hpc : cfg.threads t = .fanOut call m)
    (hfree : cfg.holder = none) :
    Finishes p clientId cfg t ((fanOut m cfg.world).1.map .received) (fanOut m cfg.world).2 := by
  cases hp : cfg.world.poisoned with
  | true =>
      rw [fanOut_panicked m hp]
      have hadvance : cfg.advance p t =
          some (.fanOut call m, cfg.goto t (.returning call .panicked)) := by
        unfold Config.advance
        rw [hpc]
        simp only [if_pos hfree, fanOut_panicked m hp]
        rfl
      exact finishes_last hadvance rfl rfl rfl hfree rfl
  | false =>
      obtain ⟨result, b, heq, -, -⟩ := fanOut_spec m hp
      rw [heq]
      have hadvance : cfg.advance p t = some (.fanOut call m, { cfg with
          world := cfg.world.setChannels b
          deliveries := cfg.deliveries ++ cfg.fannedOut call m }.goto t
            (.returning call (.returned (.received result)))) := by
        unfold Config.advance
        rw [hpc]
        simp only [if_pos hfree, heq]
        rfl
      exact finishes_last hadvance rfl rfl rfl hfree rfl

theorem finishes_store (hw : cfg.world.Locks) {call : CallId} {m : MqttMessage}
    (hretain : m.retain = true) (hpc : cfg.threads t = .store call m) (hfree : cfg.holder = none) :
    Finishes p clientId cfg t ((simulateReceive m cfg.world).1.map .received)
      (simulateReceive m cfg.world).2 := by
  have hstored : cfg.world.stored m =
      cfg.world.setRetained (cfg.world.retained.insert m.topic m) := if_pos hretain
  rw [simulateReceive_eq hw, hstored]
  have hadvance : cfg.advance p t = some (.store call m, { cfg with
      world := cfg.world.setRetained (cfg.world.retained.insert m.topic m)
      origin := Function.update cfg.origin m.topic (some call) }.goto t (.fanOut call m)) := by
    unfold Config.advance
    rw [hpc]
    simp only [storeRetained_eq hw]
    rfl
  exact finishes_section hadvance rfl rfl rfl
    (finishes_fanOut (Config.goto_threads_self _ _) hfree)

theorem finishes_replay {call : CallId} {topic : String} {tx : ChannelId}
    {iter : IterOrder String MqttMessage} {id : UInt32}
    (hpc : cfg.threads t = .replay call topic tx iter id) (hw : cfg.world.Locks) :
    Finishes p clientId cfg t (.returned (.subscribed (.ok id)))
      (replay topic id tx iter cfg.world).2 := by
  obtain ⟨b, heq, -⟩ := replay_spec hw topic id tx iter
  rw [heq]
  have hadvance : cfg.advance p t = some (.replay call, { cfg with
      world := cfg.world.setChannels b
      holder := none
      deliveries := cfg.deliveries ++ cfg.replayedTo call ⟨topic, id, tx⟩ iter }.goto t
        (.returning call (.returned (.subscribed (.ok id))))) := by
    unfold Config.advance
    rw [hpc]
    simp only [heq]
    rfl
  exact finishes_last hadvance rfl rfl rfl rfl rfl

theorem finishes_allocate {call : CallId} {topic : String} {tx : ChannelId}
    {iter : IterOrder String MqttMessage} (hpc : cfg.threads t = .allocate call topic tx iter)
    (hw : cfg.world.Locks) (hp : cfg.world.poisoned = false) (qos : QoS) :
    Finishes p clientId cfg t ((subscribe p topic qos tx iter cfg.world).1.map .subscribed)
      (subscribe p topic qos tx iter cfg.world).2 := by
  unfold subscribe
  rw [Act.bind_returned (lockSubscriptions_eq hp)]
  cases hadd : p.addU32 cfg.world.nextId 1 with
  | none =>
      rw [Act.bind_panicked (allocate_overflow hw hp hadd topic tx)]
      have hadvance : cfg.advance p t = some (.allocate call .panicked, { cfg with
          world := cfg.world.poisonSubscribe
          holder := none }.goto t (.returning call .panicked)) := by
        unfold Config.advance
        rw [hpc]
        simp only [allocate_overflow hw hp hadd]
        rfl
      exact finishes_last hadvance rfl rfl rfl rfl rfl
  | some nextId' =>
      rw [Act.bind_returned (allocate_eq hw hp hadd topic tx)]
      have hadvance : cfg.advance p t = some (.allocate call (.returned cfg.world.nextId),
          { cfg with
            world := pushed cfg.world topic tx nextId'
            rows := cfg.rows ++ [(call, (⟨topic, cfg.world.nextId, tx⟩ : Subscription))] }.goto t
              (.replay call topic tx iter cfg.world.nextId)) := by
        unfold Config.advance
        rw [hpc]
        simp only [allocate_eq hw hp hadd]
        rfl
      have hpushed : (pushed cfg.world topic tx nextId').Locks := (hw.setNextId _).setTable _
      apply finishes_section hadvance rfl rfl rfl
      -- a replay of a sound store never panics, so `subscribe` ends with the id
      obtain ⟨b, heq, -⟩ := replay_spec hpushed topic cfg.world.nextId tx iter
      have hworld : (replay topic cfg.world.nextId tx iter (pushed cfg.world topic tx nextId')).2 =
          (pushed cfg.world topic tx nextId').setChannels b := congrArg Prod.snd heq
      rw [Act.bind_returned heq]
      show Finishes p clientId _ t (.returned (.subscribed (.ok cfg.world.nextId)))
        ((pushed cfg.world topic tx nextId').setChannels b)
      rw [← hworld]
      exact finishes_replay (Config.goto_threads_self _ _) hpushed

theorem finishes_lock (hw : cfg.world.Locks) {call : CallId} {topic : String} (qos : QoS)
    {tx : ChannelId} {iter : IterOrder String MqttMessage}
    (hpc : cfg.threads t = .lock call topic tx iter) (hfree : cfg.holder = none) :
    Finishes p clientId cfg t ((subscribe p topic qos tx iter cfg.world).1.map .subscribed)
      (subscribe p topic qos tx iter cfg.world).2 := by
  cases hp : cfg.world.poisoned with
  | true =>
      unfold subscribe
      rw [Act.bind_panicked (lockSubscriptions_panicked hp)]
      have hadvance : cfg.advance p t =
          some (.lock call, cfg.goto t (.returning call .panicked)) := by
        unfold Config.advance
        rw [hpc]
        simp only [if_pos hfree, lockSubscriptions_panicked hp]
        rfl
      exact finishes_last hadvance rfl rfl rfl hfree rfl
  | false =>
      have hadvance : cfg.advance p t = some (.lock call,
          { cfg with holder := some t }.goto t (.allocate call topic tx iter)) := by
        unfold Config.advance
        rw [hpc]
        simp only [if_pos hfree, lockSubscriptions_eq hp]
        rfl
      apply finishes_section hadvance rfl rfl rfl
      have hpc' : ({ cfg with holder := some t }.goto t (.allocate call topic tx iter)).threads t =
          .allocate call topic tx iter := Config.goto_threads_self _ _
      exact finishes_allocate hpc' hw hp qos

theorem finishes_atomic {call : CallId} {op : Op} (hpc : cfg.threads t = .atomic call op)
    (hfree : cfg.holder = none) :
    Finishes p clientId cfg t (op.exec p cfg.world).1 (op.exec p cfg.world).2 := by
  have hadvance : cfg.advance p t = some (.atomic call op, { cfg with
      world := (op.exec p cfg.world).2
      rows := Config.rowsAfter cfg.rows op (op.exec p cfg.world).1
      origin := Config.originAfter cfg.origin op }.goto t
        (.returning call (op.exec p cfg.world).1)) := by
    unfold Config.advance
    rw [hpc]
    simp only [if_pos (Or.inr hfree : op.locksTable = false ∨ cfg.holder = none)]
  exact finishes_last hadvance rfl rfl rfl hfree rfl

/-! ## A call, and a run -/

/-- From its first section on, a call that is left alone does what it does in
the sequential client. -/
theorem finishes_start {call : CallId} {op : Op} (hpc : cfg.threads t = .start call op)
    (hw : cfg.world.Locks) (hfree : cfg.holder = none) :
    Finishes p clientId cfg t (op.exec p cfg.world).1 (op.exec p cfg.world).2 := by
  cases op with
  | subscribe topic qos tx iter => exact finishes_lock hw qos hpc hfree
  | simulateReceive m =>
      cases hretain : m.retain with
      | true =>
          have hstart : Pc.start call (.simulateReceive m) = .store call m := if_pos hretain
          exact finishes_store hw hretain (hpc.trans hstart) hfree
      | false =>
          have hstart : Pc.start call (.simulateReceive m) = .fanOut call m :=
            if_neg (by simp [hretain])
          have hstored : cfg.world.stored m = cfg.world := if_neg (by simp [hretain])
          show Finishes p clientId cfg t ((simulateReceive m cfg.world).1.map .received)
            (simulateReceive m cfg.world).2
          rw [simulateReceive_eq hw, hstored]
          exact finishes_fanOut (hpc.trans hstart) hfree
  | _ => exact finishes_atomic hpc hfree

/-- A step of the sequential client is a run of one thread. -/
theorem step_clones {e : Event} (hw : cfg.world.Locks) (hidle : cfg.threads t = .idle)
    (hfree : cfg.holder = none) (h : (mock B p clientId).step cfg.world e w') :
    ∃ ls cfg', (clones B p clientId).Run cfg ls cfg' ∧ cfg'.world = w' ∧ cfg'.holder = none ∧
      cfg'.threads = cfg.threads ∧ begun ls = [e.op] ∧ ended ls = [e.outcome] := by
  obtain ⟨hvalid, hexec⟩ := h
  have hpc : (cfg.invoke t e.op).threads t = .start cfg.nextCall e.op :=
    Config.goto_threads_self _ _
  obtain ⟨ls, cfg', hrun, hworld, hfree', hthreads, hbegun, hended⟩ :
      Finishes p clientId (cfg.invoke t e.op) t (e.op.exec p cfg.world).1
        (e.op.exec p cfg.world).2 := finishes_start hpc hw hfree
  have hstep : (clones B p clientId).step cfg ⟨t, .invoke cfg.nextCall e.op⟩ (cfg.invoke t e.op) :=
    .inl ⟨e.op, rfl, hidle, hvalid, rfl⟩
  refine ⟨⟨t, .invoke cfg.nextCall e.op⟩ :: ls, cfg', .cons hstep hrun, ?_, hfree', ?_, ?_, ?_⟩
  · rw [hworld]
    exact congrArg Prod.snd hexec
  · rw [hthreads]
    show Function.update (Function.update cfg.threads t _) t .idle = cfg.threads
    -- back to idle, where it was
    rw [Function.update_idem, ← hidle, Function.update_eq_self]
  · show e.op :: begun ls = _
    rw [hbegun]
  · show ended ls = _
    rw [hended]
    exact congrArg (fun result => [result.1]) hexec

/-- Every run of the sequential client is a run of the clones, by any one of
the threads. -/
theorem mock_clones {tr : List Event} {w : MockWorld B} (t : ThreadId)
    (h : (mock B p clientId).Trace tr w) :
    ∃ ls cfg, (clones B p clientId).Trace ls cfg ∧ cfg.world = w ∧ cfg.holder = none ∧
      (∀ t, cfg.threads t = .idle) ∧ begun ls = tr.map Event.op ∧
      ended ls = tr.map Event.outcome := by
  let I : List Event → MockWorld B → Prop := fun tr w =>
    ∃ ls cfg, (clones B p clientId).Trace ls cfg ∧ cfg.world = w ∧ cfg.holder = none ∧
      (∀ t, cfg.threads t = .idle) ∧ begun ls = tr.map Event.op ∧
      ended ls = tr.map Event.outcome
  have hI : I tr w := by
    refine TSys.Trace.induct ?_ ?_ h
    · rintro w rfl
      exact ⟨[], .new B clientId, ⟨_, rfl, .nil⟩, rfl, rfl, fun _ => rfl, rfl, rfl⟩
    · rintro tr w e w' htrace ⟨ls, cfg, hcfg, rfl, hfree, hidle, hbegun, hended⟩ hstep
      have hw := (mock_sound ⟨tr, htrace⟩).locks
      obtain ⟨ls', cfg', hrun, hworld, hfree', hthreads, hbegun', hended'⟩ :=
        step_clones hw (hidle t) hfree hstep
      refine ⟨ls ++ ls', cfg', hcfg.append hrun, hworld, hfree', fun t' => ?_, ?_, ?_⟩
      · rw [hthreads]
        exact hidle t'
      · rw [begun_append, hbegun, hbegun', List.map_append]
        rfl
      · rw [ended_append, hended, hended', List.map_append]
        rfl
  exact hI

end StingerMqtt

import StingerMqtt.Validation.BrokerLife

/-!
# The starts of brokers and their configuration file

`starters` has the calls of `TestBroker::start` with the one configuration file,
`brokers` has them with the directory, the socket, the child and what becomes of
it. Every step of a broker is some steps of its call, so a run of brokers is a
run of calls, with the same results: the file can be added to every run.
-/

namespace StingerMqtt

open Kit

variable {L : PathLibrary}

/-- `start` has returned the broker. -/
def BrokerPc.returned : BrokerPc → Prop
  | .owned | .stopping _ | .dropping _ _ | .gone _ => True
  | _ => False

/-- Where a call of `starters` is whose broker is at some place, and what its
process has read. A cancelled call never returns. -/
inductive StartedAs (n : StartId) (config : BrokerConfig L) :
    BrokerPc → StartPc L → Option (Option String) → Prop
  | uncalled : StartedAs n config .uncalled .preparing none
  | creating {path} : config.transport = .unix path → StartedAs n config .creating .preparing none
  | checking {path} : config.transport = .unix path → StartedAs n config .checking .preparing none
  | removing {path} : config.transport = .unix path → StartedAs n config .removing .preparing none
  | writing : StartedAs n config .writing .writing none
  | spawning : StartedAs n config .spawning .spawning none
  | failed {error} : StartedAs n config (.failed error) (.returned (.error error)) none
  | sleeping {got} : StartedAs n config .sleeping .starting (some got)
  | cancelled {got} : StartedAs n config .cancelled .starting (some got)
  | owned {got} : StartedAs n config .owned (.returned (.ok ⟨n, config⟩)) (some got)
  | stopping {phase got} :
      StartedAs n config (.stopping phase) (.returned (.ok ⟨n, config⟩)) (some got)
  | dropping {phase result got} :
      StartedAs n config (.dropping phase result) (.returned (.ok ⟨n, config⟩)) (some got)
  | gone {result got} :
      StartedAs n config (.gone result) (.returned (.ok ⟨n, config⟩)) (some got)

theorem StartedAs.returned_iff {n : StartId} {config : BrokerConfig L} {pc : BrokerPc}
    {start : StartPc L} {read : Option (Option String)} (hpc : pc.returned) :
    StartedAs n config pc start read ↔
      start = .returned (.ok ⟨n, config⟩) ∧ ∃ got, read = some got := by
  refine ⟨?_, ?_⟩
  · intro h
    cases h <;> first | exact hpc.elim | exact ⟨rfl, _, rfl⟩
  · rintro ⟨rfl, got, rfl⟩
    cases pc with
    | owned => exact .owned
    | stopping => exact .stopping
    | dropping => exact .dropping
    | gone => exact .gone
    | _ => exact hpc.elim

/-! ## The steps of the calls -/

/-- What a step of broker `n` is for its call. The socket has been dealt with once
nothing is left at its path, and the process reads the file when it is spawned.
A failed write leaves `left`. -/
def BrokerView.startSteps (v : BrokerView) (n : StartId) (unix : Bool) (left : Option String) :
    BrokerAction → List StartLabel
  | .call => if unix then [] else [.prepare n]
  | .createDir (some e) => [.createFailed n e]
  | .checkOld => if v.socket then [] else [.prepare n]
  | .removeOld none => [.prepare n]
  | .removeOld (some e) => [.removeFailed n e]
  | .write none => [.write n]
  | .write (some e) => [.writeFailed n e left]
  | .spawn none => [.spawn n, .read n]
  | .spawn (some e) => [.spawnFailed n e]
  | .ret => [.ret n]
  | _ => []

/-- What a run of brokers is for the calls. -/
def Brokers.startSteps {File : Type} [DecidableEq File] (sockets : StartId → Option File)
    (left : StartId → Option String) : List (BrokerLabel File) → Brokers File → List StartLabel
  | [], _ => []
  | l :: ls, s =>
    let first := match l with
      | .act n a => (s.view n (sockets n)).startSteps n (sockets n).isSome (left n) a
      | .other _ _ => []
    first ++ (s.advance sockets l).elim [] fun s' => startSteps sockets left ls s'

/-- The calls can take the steps, after which call `n` is where its broker has
come to. -/
def Starters.Follow (configs : StartId → BrokerConfig L) (s : Starters L)
    (steps : List StartLabel) (n : StartId) (pc : BrokerPc) : Prop :=
  ∃ s', TSys.runAll (Starters.advance configs) s steps = some s' ∧
    StartedAs n (configs n) pc (s'.pcs n) (s'.reads n) ∧
    ∀ m ≠ n, s'.pcs m = s.pcs m ∧ s'.reads m = s.reads m

section

variable {configs : StartId → BrokerConfig L} {s : Starters L} {n : StartId} {pc : BrokerPc}

/-- Without a step. -/
theorem Starters.Follow.stay (h : StartedAs n (configs n) pc (s.pcs n) (s.reads n)) :
    s.Follow configs [] n pc :=
  ⟨s, rfl, h, fun _ _ => ⟨rfl, rfl⟩⟩

/-- With one step of call `n`. -/
theorem Starters.Follow.goto (l : StartLabel) (s₁ : Starters L) (start : StartPc L)
    (hstep : s.advance configs l = some (s₁.goto n start)) (hpcs : s₁.pcs = s.pcs)
    (hreads : s₁.reads = s.reads) (h : StartedAs n (configs n) pc start (s.reads n)) :
    s.Follow configs [l] n pc := by
  refine ⟨s₁.goto n start, ?_, ?_, ?_⟩
  · show (s.advance configs l).bind _ = _
    rw [hstep]
    rfl
  · have hstart : (s₁.goto n start).pcs n = start := Function.update_self ..
    rw [hstart]
    exact hreads ▸ h
  · intro m hm
    have hother : (s₁.goto n start).pcs m = s₁.pcs m := Function.update_of_ne hm ..
    exact ⟨hother.trans (congrFun hpcs m), congrFun hreads m⟩

/-- With one step in which call `n` fails. -/
theorem Starters.Follow.fail (l : StartLabel) (s₁ : Starters L) {error : String}
    (hstep : s.advance configs l = some (s₁.fail n error)) (hpcs : s₁.pcs = s.pcs)
    (hreads : s₁.reads = s.reads) (hread : s.reads n = none) :
    s.Follow configs [l] n (.failed error) := by
  refine .goto l s₁ (.returned (.error error)) hstep hpcs hreads ?_
  rw [hread]
  exact .failed

/-- What `start` does before the spawn. -/
theorem Preparation.followed {unix : Bool} {v v' : BrokerView} {a : BrokerAction}
    (h : Preparation unix v a v')
    (hunix : unix = true ↔ ∃ path, (configs n).transport = .unix path)
    (hs : StartedAs n (configs n) v.pc (s.pcs n) (s.reads n)) (left : Option String) :
    s.Follow configs (v.startSteps n unix left a) n v'.pc := by
  generalize hstart : s.pcs n = start at hs
  generalize hread : s.reads n = read at hs
  have hprepare (hstart : s.pcs n = .preparing) (hread : s.reads n = none) :
      s.Follow configs [.prepare n] n .writing := by
    refine .goto (.prepare n) { s with configFile := s.fileAfterPrepare (configs n) } .writing
      ?_ rfl rfl ?_
    · simp only [Starters.advance, hstart]
    · rw [hread]
      exact .writing
  cases h with
  | called hpc =>
      rw [hpc] at hs
      cases hs with
      | uncalled =>
          show s.Follow configs (if unix then [] else [.prepare n]) n (if unix then _ else _)
          by_cases hsocket : unix = true
          · obtain ⟨path, hpath⟩ := hunix.mp hsocket
            rw [if_pos hsocket, if_pos hsocket]
            refine .stay ?_
            rw [hstart, hread]
            exact .creating hpath
          · rw [if_neg hsocket, if_neg hsocket]
            exact hprepare hstart hread
  | created hpc =>
      rw [hpc] at hs
      cases hs with
      | creating hpath =>
          refine .stay ?_
          rw [hstart, hread]
          exact .checking hpath
  | @uncreated e hpc =>
      rw [hpc] at hs
      cases hs with
      | creating hpath =>
          refine .fail (.createFailed n e) s ?_ rfl rfl hread
          simp only [Starters.advance, hstart, hpath]
  | checked hpc =>
      rw [hpc] at hs
      cases hs with
      | checking hpath =>
          show s.Follow configs (if v.socket then [] else [.prepare n]) n
            (if v.socket then _ else _)
          by_cases hsocket : v.socket = true
          · rw [if_pos hsocket, if_pos hsocket]
            refine .stay ?_
            rw [hstart, hread]
            exact .removing hpath
          · rw [if_neg hsocket, if_neg hsocket]
            exact hprepare hstart hread
  | removed hpc =>
      rw [hpc] at hs
      cases hs with
      | removing => exact hprepare hstart hread
  | @unremoved e hpc =>
      rw [hpc] at hs
      cases hs with
      | removing hpath =>
          refine .fail (.removeFailed n e) s ?_ rfl rfl hread
          simp only [Starters.advance, hstart, hpath]
  | written hpc =>
      rw [hpc] at hs
      cases hs with
      | writing =>
          refine .goto (.write n) { s with configFile := some (configs n).configContent }
            .spawning ?_ rfl rfl ?_
          · simp only [Starters.advance, hstart]
          · rw [hread]
            exact .spawning
  | @unwritten e hpc =>
      rw [hpc] at hs
      cases hs with
      | writing =>
          refine .fail (.writeFailed n e left) { s with configFile := left } ?_ rfl rfl hread
          simp only [Starters.advance, hstart]
  | @unspawned e hpc =>
      rw [hpc] at hs
      cases hs with
      | spawning =>
          refine .fail (.spawnFailed n e) s ?_ rfl rfl hread
          simp only [Starters.advance, hstart]

/-- The spawned process reads the file at once. -/
theorem Starters.Follow.spawn (hstart : s.pcs n = .spawning) (hread : s.reads n = none) :
    s.Follow configs [.spawn n, .read n] n .sleeping := by
  have hspawn : s.advance configs (.spawn n) = some (s.goto n .starting) := by
    simp only [Starters.advance, hstart]
  have hstarting : (s.goto n .starting).pcs n = .starting := Function.update_self ..
  have hunread : (s.goto n .starting).reads n = none := hread
  let s₁ : Starters L :=
    { s.goto n .starting with reads := Function.update s.reads n (some s.configFile) }
  have hreads : (s.goto n .starting).advance configs (.read n) = some s₁ := by
    simp only [Starters.advance, hstarting, hunread]
    rfl
  refine ⟨s₁, ?_, ?_, ?_⟩
  · show (s.advance configs (.spawn n)).bind _ = _
    rw [hspawn]
    show ((s.goto n .starting).advance configs (.read n)).bind _ = _
    rw [hreads]
    rfl
  · show StartedAs n (configs n) .sleeping ((s.goto n .starting).pcs n)
      (Function.update s.reads n _ n)
    rw [hstarting, Function.update_self]
    exact .sleeping
  · intro m hm
    exact ⟨Function.update_of_ne hm .., Function.update_of_ne hm ..⟩

/-- What a broker does. -/
theorem BrokerMove.followed {unix : Bool} {v v' : BrokerView} {a : BrokerAction}
    (h : BrokerMove unix v a v')
    (hunix : unix = true ↔ ∃ path, (configs n).transport = .unix path)
    (hs : StartedAs n (configs n) v.pc (s.pcs n) (s.reads n)) (left : Option String) :
    s.Follow configs (v.startSteps n unix left a) n v'.pc := by
  have hlater {pc₀ pc : BrokerPc} (hpc : v.pc = pc₀) (hpc₀ : pc₀.returned) (hpc' : pc.returned) :
      s.Follow configs [] n pc :=
    .stay ((StartedAs.returned_iff hpc').mpr ((StartedAs.returned_iff (hpc ▸ hpc₀)).mp hs))
  cases h with
  | prepared h => exact h.followed hunix hs left
  | spawned hpc =>
      rw [hpc] at hs
      generalize hstart : s.pcs n = start at hs
      generalize hread : s.reads n = read at hs
      cases hs with
      | spawning => exact .spawn hstart hread
  | started hpc =>
      rw [hpc] at hs
      generalize hstart : s.pcs n = start at hs
      generalize hread : s.reads n = read at hs
      cases hs with
      | sleeping =>
          refine .goto (.ret n) s (.returned (.ok ⟨n, configs n⟩)) ?_ rfl rfl ?_
          · simp only [Starters.advance, hstart, hread]
          · rw [hread]
            exact .owned
  | cancelled hpc =>
      rw [hpc] at hs
      generalize hstart : s.pcs n = start at hs
      generalize hread : s.reads n = read at hs
      cases hs with
      | sleeping =>
          refine .stay ?_
          rw [hstart, hread]
          exact .cancelled
  | bound | exited => exact .stay hs
  | stop hpc | drop hpc | stopKilled hpc | stopUnkilled hpc | dropKilled hpc | stopWaited hpc
  | stopUnwaited hpc | dropWaited hpc | dropUnwaited hpc | stopFound hpc | stopClean hpc
  | dropFound hpc | dropClean hpc | stopRemoved hpc | stopUnremoved hpc | dropRemoved hpc
  | dropUnremoved hpc =>
      exact hlater hpc trivial trivial

variable {File : Type} [DecidableEq File] {file : L.PathBuf → File}

/-- A run of brokers, from anywhere on. -/
theorem brokers_follow {tr : List (BrokerLabel File)} {b b' : Brokers File}
    (left : StartId → Option String) (h : (brokers file configs).Run b tr b')
    (hs : ∀ n, StartedAs n (configs n) (b.pcs n) (s.pcs n) (s.reads n)) :
    ∃ s', TSys.runAll (Starters.advance configs) s
        (Brokers.startSteps (fun n => Brokers.socketOf file (configs n)) left tr b) = some s' ∧
      ∀ n, StartedAs n (configs n) (b'.pcs n) (s'.pcs n) (s'.reads n) := by
  induction tr generalizing b s with
  | nil =>
      obtain rfl := h.nil_inv
      exact ⟨s, rfl, hs⟩
  | cons l tr ih =>
      obtain ⟨b₁, hstep, hrun⟩ := h.cons_inv
      have hstep : b.advance (fun n => Brokers.socketOf file (configs n)) l = some b₁ := hstep
      unfold Brokers.startSteps
      rw [hstep]
      cases l with
      | other f present =>
          obtain rfl := Option.some.inj hstep
          exact ih hrun hs
      | act n a =>
          obtain ⟨v, hact, rfl⟩ := Option.map_eq_some_iff.mp hstep
          have hunix : (Brokers.socketOf file (configs n)).isSome = true ↔
              ∃ path, (configs n).transport = .unix path := by
            unfold Brokers.socketOf
            cases (configs n).transport with
            | tcp host port => simp
            | unix path => simp
          obtain ⟨s₁, hsteps, hn, hothers⟩ :=
            (BrokerView.act_move hact).followed hunix (hs n) (left n)
          have hs₁ : ∀ m, StartedAs m (configs m) (Function.update b.pcs n v.pc m) (s₁.pcs m)
              (s₁.reads m) := by
            intro m
            by_cases hm : m = n
            · subst hm
              rw [Function.update_self]
              exact hn
            · rw [Function.update_of_ne hm, (hothers m hm).1, (hothers m hm).2]
              exact hs m
          obtain ⟨s', hrest, hs'⟩ := ih hrun hs₁
          exact ⟨s', (TSys.runAll_append hsteps _).trans hrest, hs'⟩

/-- For every run of brokers, whatever is in the configuration file at first and
whatever failed writes leave there, the calls of `start` can take the steps of
the run, after which every call has come as far and has the same result. -/
theorem broker_starts {tr : List (BrokerLabel File)} {sockets : File → Bool} {b : Brokers File}
    (h : (brokers file configs).Run (.new sockets) tr b) (configFile : Option String)
    (left : StartId → Option String) :
    ∃ s, TSys.runAll (Starters.advance configs) (.new configFile)
        (Brokers.startSteps (fun n => Brokers.socketOf file (configs n)) left tr
          (.new sockets)) = some s ∧
      ∀ n, StartedAs n (configs n) (b.pcs n) (s.pcs n) (s.reads n) :=
  brokers_follow left h fun _ => .uncalled

/-- The first start returns its broker, the second is cancelled while it waits.
Both have written the file by the time their processes read it. -/
theorem broker_starts_run :
    ∃ s, TSys.runAll (Starters.advance twoSockets) (.new none)
        [.prepare 0, .prepare 1, .write 0, .write 1, .spawn 1, .read 1, .spawn 0, .read 0,
          .ret 0] = some s ∧
      s.pcs 0 = .returned (.ok ⟨0, twoSockets 0⟩) ∧ s.pcs 1 = .starting := by
  obtain ⟨b, hrun, hgone, hcancelled⟩ : ∃ b,
      (brokers (L := socketPaths) socketFile twoSockets).Run
          (.new fun file => file == "/tmp/first.sock") brokerRun b ∧
        b.pcs 0 = .gone (some (.ok ())) ∧ b.pcs 1 = .cancelled :=
    ⟨_, TSys.runAll_run (fun _ _ _ hstep => hstep) rfl, rfl, rfl⟩
  obtain ⟨s, hsteps, hstarted⟩ := broker_starts hrun none fun _ => none
  refine ⟨s, hsteps, ?_, ?_⟩
  · have hfirst := hstarted 0
    rw [hgone] at hfirst
    generalize s.pcs 0 = start, s.reads 0 = read at hfirst ⊢
    cases hfirst with
    | gone => rfl
  · have hsecond := hstarted 1
    rw [hcancelled] at hsecond
    generalize s.pcs 1 = start, s.reads 1 = read at hsecond ⊢
    cases hsecond with
    | cancelled => rfl

end

end StingerMqtt

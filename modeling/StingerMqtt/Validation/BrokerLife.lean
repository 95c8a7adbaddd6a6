import StingerMqtt.Validation.Broker

/-!
# The life of test brokers

A `TestBroker` owns a child process; `stop` and `Drop` kill it, wait for it and
remove its socket. Any number of brokers are started, stopped and dropped at
once. A step is one call of the operating system by one of them, something its
child does, or something others do to a socket. The configuration file is left
out here.
-/

namespace StingerMqtt

open Kit

/-! ## One broker -/

/-- What there is of a child process. It is `reaped` once it has exited and
somebody has waited for it. -/
inductive Child where
  | unspawned
  | running
  | killed
  | exited
  | reaped
  deriving DecidableEq

/-- What `stop` and `Drop` do, in this order; `check` is `path.exists()`. -/
inductive Teardown where
  | kill
  | wait
  | check
  | remove
  deriving DecidableEq

/-- Where a broker is, from the call of `start` on. A broker that `stop` drops
when it returns carries the result of `stop`. -/
inductive BrokerPc where
  | uncalled
  | creating
  | checking
  | removing
  | writing
  | spawning
  | sleeping
  | failed (error : String)
  | cancelled
  | owned
  | stopping (phase : Teardown)
  | dropping (phase : Teardown) (result : Option (Except String Unit))
  | gone (result : Option (Except String Unit))

/-- What can happen to a broker. An `error` is what the operating system answers. -/
inductive BrokerAction where
  | call
  | createDir (error : Option String)
  | checkOld
  | removeOld (error : Option String)
  | write (error : Option String)
  | spawn (error : Option String)
  | ret
  | cancel
  | stop
  | drop
  | kill (error : Option String)
  | wait (error : Option String)
  | check
  | remove (error : Option String)
  | bind
  | exit
  deriving DecidableEq

/-- Whether it is a step of `start`, `stop` or `Drop`, not of the child. -/
def BrokerAction.own : BrokerAction → Bool
  | .bind | .exit => false
  | _ => true

/-- A broker, its child, and whether something is at the path of its socket. -/
structure BrokerView where
  pc : BrokerPc
  child : Child
  socket : Bool

namespace BrokerView

variable (v : BrokerView)

/-- `remove_file`, which fails if there is nothing at the path. -/
def removeFile : Option String → Option BrokerView
  | some _ => some v
  | none => if v.socket then some { v with socket := false } else none

/-- `Child::kill`, which does nothing to a child that has exited. -/
def kill : Option String → BrokerView
  | some _ => v
  | none => if v.child = .running then { v with child := .killed } else v

/-- `Child::wait`, which waits until the child has exited, and remembers that. -/
def wait : Option String → Option BrokerView
  | some _ => some v
  | none =>
    match v.child with
    | .exited | .reaped => some { v with child := .reaped }
    | _ => none

/-- `stop` returns, which drops the broker. -/
def stopped (result : Except String Unit) : BrokerView :=
  { v with pc := .dropping .kill (some result) }

/-- What becomes of a broker whose socket is `unix`, or that has none; `none` if
that cannot happen to it. -/
def act (unix : Bool) : BrokerAction → Option BrokerView
  | .call =>
    match v.pc with
    | .uncalled => some { v with pc := if unix then .creating else .writing }
    | _ => none
  | .createDir error =>
    match v.pc, error with
    | .creating, none => some { v with pc := .checking }
    | .creating, some e =>
      some { v with pc := .failed ("Failed to create socket directory: " ++ e) }
    | _, _ => none
  | .checkOld =>
    match v.pc with
    | .checking => some { v with pc := if v.socket then .removing else .writing }
    | _ => none
  | .removeOld error =>
    match v.pc, error with
    | .removing, none => (v.removeFile none).map fun v => { v with pc := .writing }
    | .removing, some e => some { v with pc := .failed ("Failed to remove existing socket: " ++ e) }
    | _, _ => none
  | .write error =>
    match v.pc, error with
    | .writing, none => some { v with pc := .spawning }
    | .writing, some e => some { v with pc := .failed ("Failed to write broker config: " ++ e) }
    | _, _ => none
  | .spawn error =>
    match v.pc, error with
    | .spawning, none => some { v with pc := .sleeping, child := .running }
    | .spawning, some e =>
      some { v with pc := .failed ("Failed to start rumqttd: " ++ e ++ ". Is it installed?") }
    | _, _ => none
  | .ret =>
    match v.pc with
    | .sleeping => some { v with pc := .owned }
    | _ => none
  | .cancel =>
    -- dropping the future of `start` drops the `Child`, which neither kills nor waits
    match v.pc with
    | .sleeping => some { v with pc := .cancelled }
    | _ => none
  | .stop =>
    match v.pc with
    | .owned => some { v with pc := .stopping .kill }
    | _ => none
  | .drop =>
    match v.pc with
    | .owned => some { v with pc := .dropping .kill none }
    | _ => none
  | .kill error =>
    match v.pc, error with
    | .stopping .kill, none => some { v.kill none with pc := .stopping .wait }
    | .stopping .kill, some e => some (v.stopped (.error ("Failed to stop broker: " ++ e)))
    | .dropping .kill result, error => some { v.kill error with pc := .dropping .wait result }
    | _, _ => none
  | .wait error =>
    match v.pc, error with
    | .stopping .wait, none => (v.wait none).map fun v => { v with pc := .stopping .check }
    | .stopping .wait, some e => some (v.stopped (.error ("Failed to wait for broker: " ++ e)))
    | .dropping .wait result, error =>
      (v.wait error).map fun v => { v with pc := .dropping .check result }
    | _, _ => none
  | .check =>
    match v.pc with
    | .stopping .check =>
      some (if v.socket then { v with pc := .stopping .remove } else v.stopped (.ok ()))
    | .dropping .check result =>
      some { v with pc := if v.socket then .dropping .remove result else .gone result }
    | _ => none
  | .remove error =>
    match v.pc with
    | .stopping .remove => (v.removeFile error).map fun v => v.stopped (.ok ())
    | .dropping .remove result => (v.removeFile error).map fun v => { v with pc := .gone result }
    | _ => none
  | .bind => if unix ∧ v.child = .running then some { v with socket := true } else none
  | .exit =>
    if v.child = .running ∨ v.child = .killed then some { v with child := .exited } else none

end BrokerView

/-! ## All brokers -/

/-- What is at the paths of sockets, the brokers and their children. -/
structure Brokers (File : Type) where
  sockets : File → Bool
  pcs : StartId → BrokerPc
  children : StartId → Child

/-- A broker's step, or what others do to a socket. -/
inductive BrokerLabel (File : Type) where
  | act (broker : StartId) (action : BrokerAction)
  | other (file : File) (present : Bool)
  deriving DecidableEq

namespace Brokers

variable {L : PathLibrary} {File : Type} [DecidableEq File]

/-- Nobody has called; sockets may have been left by somebody. -/
def new (sockets : File → Bool) : Brokers File where
  sockets := sockets
  pcs _ := .uncalled
  children _ := .unspawned

/-- The file at the path of the socket, for a broker with a Unix socket. -/
def socketOf (file : L.PathBuf → File) (config : BrokerConfig L) : Option File :=
  match config.transport with
  | .tcp _ _ => none
  | .unix path => some (file path)

/-- What broker `n` sees, whose socket is `socket`. -/
def view (s : Brokers File) (n : StartId) (socket : Option File) : BrokerView where
  pc := s.pcs n
  child := s.children n
  socket := socket.any s.sockets

/-- Broker `n` has come to `v`. -/
def put (s : Brokers File) (n : StartId) (socket : Option File) (v : BrokerView) :
    Brokers File where
  sockets :=
    match socket with
    | none => s.sockets
    | some f => Function.update s.sockets f v.socket
  pcs := Function.update s.pcs n v.pc
  children := Function.update s.children n v.child

/-- What the brokers become; `none` if that cannot happen. -/
def advance (sockets : StartId → Option File) (s : Brokers File) :
    BrokerLabel File → Option (Brokers File)
  | .act n action =>
    ((s.view n (sockets n)).act (sockets n).isSome action).map (s.put n (sockets n))
  | .other f present => some { s with sockets := Function.update s.sockets f present }

end Brokers

/-- Brokers of which number `n` has the configuration `configs n`, where `file`
says which file a path leads to. -/
def brokers {L : PathLibrary} {File : Type} [DecidableEq File] (file : L.PathBuf → File)
    (configs : StartId → BrokerConfig L) : TSys (Brokers File) (BrokerLabel File) where
  init s := ∃ sockets, s = .new sockets
  step s l s' := s.advance (fun n => Brokers.socketOf file (configs n)) l = some s'

/-- A run of `brokers` from its list of steps. -/
theorem Brokers.runAll_trace {L : PathLibrary} {File : Type} [DecidableEq File]
    (file : L.PathBuf → File) (configs : StartId → BrokerConfig L) (sockets : File → Bool)
    (tr : List (BrokerLabel File)) {s : Brokers File}
    (h : TSys.runAll (advance fun n => socketOf file (configs n)) (.new sockets) tr = some s) :
    (brokers file configs).Trace tr s :=
  ⟨_, ⟨sockets, rfl⟩, TSys.runAll_run (fun _ _ _ hstep => hstep) h⟩

/-! ## What a broker can do -/

/-- `start` has not spawned a child, and if it has failed never will. -/
def BrokerPc.early : BrokerPc → Prop
  | .uncalled | .creating | .checking | .removing | .writing | .spawning | .failed _ => True
  | _ => False

/-- What `start` does before it has spawned the child. -/
inductive Preparation (unix : Bool) (v : BrokerView) : BrokerAction → BrokerView → Prop
  | called : v.pc = .uncalled →
      Preparation unix v .call { v with pc := if unix then .creating else .writing }
  | created : v.pc = .creating → Preparation unix v (.createDir none) { v with pc := .checking }
  | uncreated {e} : v.pc = .creating → Preparation unix v (.createDir (some e))
      { v with pc := .failed ("Failed to create socket directory: " ++ e) }
  | checked : v.pc = .checking →
      Preparation unix v .checkOld { v with pc := if v.socket then .removing else .writing }
  | removed : v.pc = .removing →
      Preparation unix v (.removeOld none) { v with pc := .writing, socket := false }
  | unremoved {e} : v.pc = .removing → Preparation unix v (.removeOld (some e))
      { v with pc := .failed ("Failed to remove existing socket: " ++ e) }
  | written : v.pc = .writing → Preparation unix v (.write none) { v with pc := .spawning }
  | unwritten {e} : v.pc = .writing → Preparation unix v (.write (some e))
      { v with pc := .failed ("Failed to write broker config: " ++ e) }
  | unspawned {e} : v.pc = .spawning → Preparation unix v (.spawn (some e))
      { v with pc := .failed ("Failed to start rumqttd: " ++ e ++ ". Is it installed?") }

/-- `BrokerMove unix v a v'`: the action `a` may take the broker from `v` to
`v'`. -/
inductive BrokerMove (unix : Bool) (v : BrokerView) : BrokerAction → BrokerView → Prop
  | prepared {a v'} : Preparation unix v a v' → BrokerMove unix v a v'
  | spawned : v.pc = .spawning →
      BrokerMove unix v (.spawn none) { v with pc := .sleeping, child := .running }
  | started : v.pc = .sleeping → BrokerMove unix v .ret { v with pc := .owned }
  | cancelled : v.pc = .sleeping → BrokerMove unix v .cancel { v with pc := .cancelled }
  | stop : v.pc = .owned → BrokerMove unix v .stop { v with pc := .stopping .kill }
  | drop : v.pc = .owned → BrokerMove unix v .drop { v with pc := .dropping .kill none }
  | stopKilled : v.pc = .stopping .kill →
      BrokerMove unix v (.kill none) { v.kill none with pc := .stopping .wait }
  | stopUnkilled {e} : v.pc = .stopping .kill →
      BrokerMove unix v (.kill (some e)) (v.stopped (.error ("Failed to stop broker: " ++ e)))
  | stopUnwaited {e} : v.pc = .stopping .wait →
      BrokerMove unix v (.wait (some e)) (v.stopped (.error ("Failed to wait for broker: " ++ e)))
  | dropKilled {result error} : v.pc = .dropping .kill result →
      BrokerMove unix v (.kill error) { v.kill error with pc := .dropping .wait result }
  | stopWaited : v.pc = .stopping .wait →
      BrokerMove unix v (.wait none) { v with pc := .stopping .check, child := .reaped }
  | dropWaited {result} : v.pc = .dropping .wait result →
      BrokerMove unix v (.wait none) { v with pc := .dropping .check result, child := .reaped }
  | dropUnwaited {result e} : v.pc = .dropping .wait result →
      BrokerMove unix v (.wait (some e)) { v with pc := .dropping .check result }
  | stopFound : v.pc = .stopping .check → v.socket = true →
      BrokerMove unix v .check { v with pc := .stopping .remove }
  | stopClean : v.pc = .stopping .check → v.socket = false →
      BrokerMove unix v .check (v.stopped (.ok ()))
  | dropFound {result} : v.pc = .dropping .check result → v.socket = true →
      BrokerMove unix v .check { v with pc := .dropping .remove result }
  | dropClean {result} : v.pc = .dropping .check result → v.socket = false →
      BrokerMove unix v .check { v with pc := .gone result }
  | stopRemoved : v.pc = .stopping .remove →
      BrokerMove unix v (.remove none) ({ v with socket := false }.stopped (.ok ()))
  | stopUnremoved {e} : v.pc = .stopping .remove →
      BrokerMove unix v (.remove (some e)) (v.stopped (.ok ()))
  | dropRemoved {result} : v.pc = .dropping .remove result →
      BrokerMove unix v (.remove none) { v with pc := .gone result, socket := false }
  | dropUnremoved {result e} : v.pc = .dropping .remove result →
      BrokerMove unix v (.remove (some e)) { v with pc := .gone result }
  | bound : unix = true → v.child = .running →
      BrokerMove unix v .bind { v with socket := true }
  | exited : v.child = .running ∨ v.child = .killed →
      BrokerMove unix v .exit { v with child := .exited }

namespace Preparation

variable {unix : Bool} {v v' : BrokerView} {a : BrokerAction}

theorem early (h : Preparation unix v a v') : v.pc.early ∧ v'.pc.early := by
  cases h with
  | called hpc =>
      rw [hpc]
      refine ⟨trivial, ?_⟩
      show BrokerPc.early (if unix then _ else _)
      split <;> trivial
  | checked hpc =>
      rw [hpc]
      refine ⟨trivial, ?_⟩
      show BrokerPc.early (if v.socket then _ else _)
      split <;> trivial
  | created hpc | uncreated hpc | removed hpc | unremoved hpc | written hpc | unwritten hpc
  | unspawned hpc =>
      rw [hpc]
      exact ⟨trivial, trivial⟩

theorem child (h : Preparation unix v a v') : v'.child = v.child := by
  cases h <;> rfl

theorem own (h : Preparation unix v a v') : a.own = true := by
  cases h <;> rfl

end Preparation

namespace BrokerView

variable {unix : Bool} {v v' : BrokerView} {a : BrokerAction}

theorem removeFile_none (h : v.removeFile none = some v') : v' = { v with socket := false } := by
  obtain ⟨-, hremoved⟩ := Option.ite_none_right_eq_some.mp h
  exact (Option.some.inj hremoved).symm

theorem wait_none (h : v.wait none = some v') : v' = { v with child := .reaped } := by
  cases hchild : v.child <;> simp only [wait, hchild] at h <;> cases h
  · rfl
  · rfl

/-- Every step of a broker is one of the listed moves. -/
theorem act_move (h : v.act unix a = some v') : BrokerMove unix v a v' := by
  cases a with
  | call =>
      cases hpc : v.pc <;> simp only [act, hpc] at h <;> cases h
      exact .prepared (.called hpc)
  | createDir error =>
      cases hpc : v.pc <;> cases error <;> simp only [act, hpc] at h <;> cases h
      · exact .prepared (.created hpc)
      · exact .prepared (.uncreated hpc)
  | checkOld =>
      cases hpc : v.pc <;> simp only [act, hpc] at h <;> cases h
      exact .prepared (.checked hpc)
  | removeOld error =>
      cases hpc : v.pc <;> cases error <;> simp only [act, hpc] at h <;> try cases h
      · obtain ⟨removed, hremoved, rfl⟩ := Option.map_eq_some_iff.mp h
        rw [removeFile_none hremoved]
        exact .prepared (.removed hpc)
      · exact .prepared (.unremoved hpc)
  | write error =>
      cases hpc : v.pc <;> cases error <;> simp only [act, hpc] at h <;> cases h
      · exact .prepared (.written hpc)
      · exact .prepared (.unwritten hpc)
  | spawn error =>
      cases hpc : v.pc <;> cases error <;> simp only [act, hpc] at h <;> cases h
      · exact .spawned hpc
      · exact .prepared (.unspawned hpc)
  | ret =>
      cases hpc : v.pc <;> simp only [act, hpc] at h <;> cases h
      exact .started hpc
  | cancel =>
      cases hpc : v.pc <;> simp only [act, hpc] at h <;> cases h
      exact .cancelled hpc
  | stop =>
      cases hpc : v.pc <;> simp only [act, hpc] at h <;> cases h
      exact .stop hpc
  | drop =>
      cases hpc : v.pc <;> simp only [act, hpc] at h <;> cases h
      exact .drop hpc
  | kill error =>
      cases hpc : v.pc with
      | stopping phase =>
          cases phase <;> cases error <;> simp only [act, hpc] at h <;> cases h
          · exact .stopKilled hpc
          · exact .stopUnkilled hpc
      | dropping phase result =>
          cases phase <;> simp only [act, hpc] at h <;> cases h
          exact .dropKilled hpc
      | _ =>
          simp only [act, hpc] at h
          cases h
  | wait error =>
      cases hpc : v.pc with
      | stopping phase =>
          cases phase <;> cases error <;> simp only [act, hpc] at h <;> try cases h
          · obtain ⟨waited, hwaited, rfl⟩ := Option.map_eq_some_iff.mp h
            rw [wait_none hwaited]
            exact .stopWaited hpc
          · exact .stopUnwaited hpc
      | dropping phase result =>
          cases phase <;> cases error <;> simp only [act, hpc] at h <;> try cases h
          · obtain ⟨waited, hwaited, rfl⟩ := Option.map_eq_some_iff.mp h
            rw [wait_none hwaited]
            exact .dropWaited hpc
          · exact .dropUnwaited hpc
      | _ =>
          simp only [act, hpc] at h
          cases h
  | check =>
      cases hpc : v.pc with
      | stopping phase =>
          cases phase <;> simp only [act, hpc] at h <;> cases h
          by_cases hsocket : v.socket = true
          · rw [if_pos hsocket]
            exact .stopFound hpc hsocket
          · rw [if_neg hsocket]
            exact .stopClean hpc (Bool.eq_false_iff.mpr hsocket)
      | dropping phase result =>
          cases phase <;> simp only [act, hpc] at h <;> cases h
          by_cases hsocket : v.socket = true
          · rw [if_pos hsocket]
            exact .dropFound hpc hsocket
          · rw [if_neg hsocket]
            exact .dropClean hpc (Bool.eq_false_iff.mpr hsocket)
      | _ =>
          simp only [act, hpc] at h
          cases h
  | remove error =>
      cases hpc : v.pc with
      | stopping phase =>
          cases phase <;> cases error <;> simp only [act, hpc] at h <;> try cases h
          · obtain ⟨removed, hremoved, rfl⟩ := Option.map_eq_some_iff.mp h
            rw [removeFile_none hremoved]
            exact .stopRemoved hpc
          · exact .stopUnremoved hpc
      | dropping phase result =>
          cases phase <;> cases error <;> simp only [act, hpc] at h <;> try cases h
          · obtain ⟨removed, hremoved, rfl⟩ := Option.map_eq_some_iff.mp h
            rw [removeFile_none hremoved]
            exact .dropRemoved hpc
          · exact .dropUnremoved hpc
      | _ =>
          simp only [act, hpc] at h
          cases h
  | bind =>
      obtain ⟨⟨hunix, hchild⟩, hbound⟩ := Option.ite_none_right_eq_some.mp h
      rw [← Option.some.inj hbound]
      exact .bound hunix hchild
  | exit =>
      obtain ⟨hchild, hexited⟩ := Option.ite_none_right_eq_some.mp h
      rw [← Option.some.inj hexited]
      exact .exited hchild

end BrokerView

section Brokers

variable {L : PathLibrary} {File : Type} [DecidableEq File] {file : L.PathBuf → File}
variable {configs : StartId → BrokerConfig L} {s s' : Brokers File}
variable {l : BrokerLabel File} {tr : List (BrokerLabel File)} {n : StartId}

/-- What a step is for broker `n`: one of its own moves, or nothing but maybe a
change at the path of its socket. -/
theorem brokers_move (h : (brokers file configs).step s l s') (n : StartId) :
    (∃ a v, l = .act n a ∧ s'.pcs n = v.pc ∧ s'.children n = v.child ∧
      (∀ f, Brokers.socketOf file (configs n) = some f → s'.sockets f = v.socket) ∧
      BrokerMove (Brokers.socketOf file (configs n)).isSome
        (s.view n (Brokers.socketOf file (configs n))) a v) ∨
    (∀ a, l ≠ .act n a) ∧ s'.pcs n = s.pcs n ∧ s'.children n = s.children n := by
  have h : s.advance (fun n => Brokers.socketOf file (configs n)) l = some s' := h
  cases l with
  | act m a =>
      obtain ⟨v, hact, rfl⟩ := Option.map_eq_some_iff.mp h
      by_cases hn : n = m
      · subst hn
        refine .inl ⟨a, v, rfl, Function.update_self .., Function.update_self .., ?_,
          BrokerView.act_move hact⟩
        intro f hf
        show (Brokers.put s n (Brokers.socketOf file (configs n)) v).sockets f = v.socket
        rw [hf]
        exact Function.update_self ..
      · refine .inr ⟨?_, Function.update_of_ne hn .., Function.update_of_ne hn ..⟩
        intro a' heq
        cases heq
        exact hn rfl
  | other f present =>
      obtain rfl := Option.some.inj h
      exact .inr ⟨nofun, rfl, rfl⟩

/-- A step leaves the path of a socket alone, if it is neither a step of a broker
with that path nor one of others there. -/
theorem brokers_sockets (h : (brokers file configs).step s l s') {f : File}
    (hbroker : ∀ m a, l = .act m a → Brokers.socketOf file (configs m) ≠ some f)
    (hother : ∀ present, l ≠ .other f present) : s'.sockets f = s.sockets f := by
  have h : s.advance (fun n => Brokers.socketOf file (configs n)) l = some s' := h
  cases l with
  | act m a =>
      obtain ⟨v, -, rfl⟩ := Option.map_eq_some_iff.mp h
      have hm := hbroker m a rfl
      cases hsocket : Brokers.socketOf file (configs m) with
      | none =>
          show (Brokers.put s m (Brokers.socketOf file (configs m)) v).sockets f = _
          rw [hsocket]
          rfl
      | some g =>
          have hne : f ≠ g := by
            intro heq
            rw [heq] at hm
            exact hm hsocket
          show (Brokers.put s m (Brokers.socketOf file (configs m)) v).sockets f = _
          rw [hsocket]
          exact Function.update_of_ne hne ..
  | other g present =>
      obtain rfl := Option.some.inj h
      have hne : f ≠ g := by
        intro heq
        rw [heq] at hother
        exact hother present rfl
      exact Function.update_of_ne hne ..

/-! ## What becomes of the children -/

/-- The child has been spawned and nobody has waited for it. -/
def Child.unreaped (child : Child) : Prop :=
  child = .running ∨ child = .killed ∨ child = .exited

/-- What is known of the child of a broker; `refused` if the operating system
has refused a wait for it. -/
def Tended (refused : Prop) (child : Child) : BrokerPc → Prop
  | .uncalled | .creating | .checking | .removing | .writing | .spawning | .failed _ =>
    child = .unspawned
  | .sleeping | .cancelled | .owned | .stopping .kill => child = .running ∨ child = .exited
  | .stopping .wait => child.unreaped
  | .stopping .check | .stopping .remove => child = .reaped
  | .dropping .kill result | .dropping .wait result =>
    (child.unreaped ∨ child = .reaped) ∧ (result = some (.ok ()) → child = .reaped)
  | .dropping .check result | .dropping .remove result | .gone result =>
    (child.unreaped ∧ refused ∨ child = .reaped) ∧ (result = some (.ok ()) → child = .reaped)

theorem Tended.early {refused : Prop} {child : Child} {pc : BrokerPc} (hpc : pc.early) :
    Tended refused child pc ↔ child = .unspawned := by
  cases pc <;> first | exact Iff.rfl | exact hpc.elim

theorem BrokerView.kill_child (v : BrokerView) (error : Option String) :
    (v.kill error).child = v.child ∨ v.child = .running ∧ (v.kill error).child = .killed := by
  cases error with
  | some e => exact .inl rfl
  | none =>
      unfold BrokerView.kill
      by_cases hchild : v.child = .running
      · exact .inr ⟨hchild, by simp [hchild]⟩
      · exact .inl (by simp [hchild])

theorem Child.unreaped.ne {child : Child} (h : child.unreaped) :
    child ≠ .unspawned ∧ child ≠ .reaped := by
  rcases h with rfl | rfl | rfl <;> exact ⟨nofun, nofun⟩

theorem Child.unreaped_kill {v : BrokerView} (h : v.child.unreaped) (error : Option String) :
    (v.kill error).child.unreaped := by
  rcases v.kill_child error with hsame | ⟨-, hkilled⟩
  · rwa [hsame]
  · exact .inr (.inl hkilled)

/-- A child that exits by itself has not been waited for. -/
theorem Tended.exited {refused : Prop} {child : Child} {pc : BrokerPc}
    (h : Tended refused child pc) (hchild : child = .running ∨ child = .killed) :
    Tended refused .exited pc := by
  have hunreaped : child.unreaped := hchild.imp id .inl
  obtain ⟨hspawned, hnot⟩ := hunreaped.ne
  match pc, h with
  | .uncalled, h | .creating, h | .checking, h | .removing, h | .writing, h | .spawning, h
  | .failed _, h => exact absurd h hspawned
  | .sleeping, _ | .cancelled, _ | .owned, _ | .stopping .kill, _ => exact .inr rfl
  | .stopping .wait, _ => exact .inr (.inr rfl)
  | .stopping .check, h | .stopping .remove, h => exact absurd h hnot
  | .dropping .kill _, ⟨_, hok⟩ | .dropping .wait _, ⟨_, hok⟩ =>
      exact ⟨.inl (.inr (.inr rfl)), fun hresult => absurd (hok hresult) hnot⟩
  | .dropping .check _, ⟨hleft, hok⟩ | .dropping .remove _, ⟨hleft, hok⟩ | .gone _, ⟨hleft, hok⟩ =>
      refine ⟨.inl ⟨.inr (.inr rfl), ?_⟩, fun hresult => absurd (hok hresult) hnot⟩
      exact (hleft.resolve_right hnot).2

/-- A refused wait does not get lost. -/
theorem Tended.mono {refused refused' : Prop} {child : Child} {pc : BrokerPc}
    (h : Tended refused child pc) (hrefused : refused → refused') : Tended refused' child pc := by
  match pc, h with
  | .uncalled, h | .creating, h | .checking, h | .removing, h | .writing, h | .spawning, h
  | .failed _, h => exact h
  | .sleeping, h | .cancelled, h | .owned, h => exact h
  | .stopping .kill, h | .stopping .wait, h | .stopping .check, h | .stopping .remove, h => exact h
  | .dropping .kill _, h | .dropping .wait _, h => exact h
  | .dropping .check _, ⟨hleft, hok⟩ | .dropping .remove _, ⟨hleft, hok⟩ | .gone _, ⟨hleft, hok⟩ =>
      exact ⟨hleft.imp (fun h => ⟨h.1, hrefused h.2⟩) id, hok⟩

/-- A move keeps what is known of the child. -/
theorem BrokerMove.tended {unix : Bool} {v v' : BrokerView} {a : BrokerAction}
    {refused : Prop} (h : BrokerMove unix v a v') (hrefused : (∃ e, a = .wait (some e)) → refused)
    (hv : Tended refused v.child v.pc) : Tended refused v'.child v'.pc := by
  cases h with
  | prepared h =>
      obtain ⟨hpc, hpc'⟩ := h.early
      rw [h.child]
      exact (Tended.early hpc').mpr ((Tended.early hpc).mp hv)
  | spawned => exact .inl rfl
  | started hpc | cancelled hpc | stop hpc =>
      rw [hpc] at hv
      exact hv
  | drop hpc =>
      rw [hpc] at hv
      rcases hv with hv | hv
      · exact ⟨.inl (.inl hv), nofun⟩
      · exact ⟨.inl (.inr (.inr hv)), nofun⟩
  | stopKilled hpc =>
      rw [hpc] at hv
      refine Child.unreaped_kill ?_ none
      rcases hv with hv | hv
      · exact .inl hv
      · exact .inr (.inr hv)
  | stopUnkilled hpc =>
      rw [hpc] at hv
      refine ⟨.inl ?_, nofun⟩
      rcases hv with hv | hv
      · exact .inl hv
      · exact .inr (.inr hv)
  | stopUnwaited hpc =>
      rw [hpc] at hv
      exact ⟨.inl hv, nofun⟩
  | @dropKilled result error hpc =>
      rw [hpc] at hv
      obtain ⟨hleft, hok⟩ := hv
      rcases v.kill_child error with hsame | ⟨hrunning, hkilled⟩
      · show (_ ∨ _) ∧ _
        rw [hsame]
        exact ⟨hleft, hok⟩
      · refine ⟨.inl (.inr (.inl hkilled)), fun hresult => ?_⟩
        rw [hok hresult] at hrunning
        cases hrunning
  | stopWaited => rfl
  | dropWaited => exact ⟨.inr rfl, fun _ => rfl⟩
  | @dropUnwaited result e hpc =>
      rw [hpc] at hv
      obtain ⟨hleft, hok⟩ := hv
      exact ⟨hleft.imp (fun h => ⟨h, hrefused ⟨e, rfl⟩⟩) id, hok⟩
  | stopFound hpc =>
      rw [hpc] at hv
      exact hv
  | stopClean hpc | stopRemoved hpc | stopUnremoved hpc =>
      rw [hpc] at hv
      exact ⟨.inr hv, fun _ => hv⟩
  | dropFound hpc | dropClean hpc | dropRemoved hpc | dropUnremoved hpc =>
      rw [hpc] at hv
      exact hv
  | bound => exact hv
  | exited hchild => exact hv.exited hchild

theorem tended (h : (brokers file configs).Trace tr s) (n : StartId) :
    Tended (∃ e, .act n (.wait (some e)) ∈ tr) (s.children n) (s.pcs n) := by
  refine TSys.Trace.induct (I := fun tr s =>
    Tended (∃ e, .act n (.wait (some e)) ∈ tr) (s.children n) (s.pcs n)) ?_ ?_ h
  · rintro s ⟨sockets, rfl⟩
    rfl
  · intro tr s l s' _ ih hstep
    have hkept : Tended (∃ e, .act n (.wait (some e)) ∈ tr ++ [l]) (s.children n) (s.pcs n) := by
      refine ih.mono ?_
      rintro ⟨e, he⟩
      exact ⟨e, List.mem_append_left _ he⟩
    rcases brokers_move hstep n with ⟨a, v, rfl, hpc, hchild, -, hmove⟩ | ⟨-, hpc, hchild⟩
    · rw [hpc, hchild]
      refine hmove.tended ?_ hkept
      rintro ⟨e, rfl⟩
      exact ⟨e, by simp⟩
    · rwa [hpc, hchild]

/-- A child that nobody has waited for is still held by its broker or by the
`start` that spawned it, or this `start` was cancelled, or the operating system
refused a wait. A `stop` that returned `Ok` leaves no child, a `start` that failed
has spawned none, and while a broker is in use nobody kills its child. -/
theorem broker_children (h : (brokers file configs).Trace tr s) (n : StartId) :
    ((s.children n).unreaped →
      s.pcs n = .sleeping ∨ s.pcs n = .owned ∨ (∃ phase, s.pcs n = .stopping phase) ∨
        (∃ phase result, s.pcs n = .dropping phase result) ∨ s.pcs n = .cancelled ∨
        ∃ e, .act n (.wait (some e)) ∈ tr) ∧
    (s.pcs n = .gone (some (.ok ())) → s.children n = .reaped) ∧
    (s.pcs n = .owned → s.children n = .running ∨ s.children n = .exited) ∧
    ∀ error, s.pcs n = .failed error → s.children n = .unspawned := by
  have htended := tended h n
  refine ⟨?_, ?_, ?_, ?_⟩
  · intro hunreaped
    obtain ⟨hspawned, hleft⟩ := hunreaped.ne
    cases hpc : s.pcs n with
    | sleeping => exact .inl rfl
    | owned => exact .inr (.inl rfl)
    | stopping phase => exact .inr (.inr (.inl ⟨phase, rfl⟩))
    | dropping phase result => exact .inr (.inr (.inr (.inl ⟨phase, result, rfl⟩)))
    | cancelled => exact .inr (.inr (.inr (.inr (.inl rfl))))
    | gone result =>
        rw [hpc] at htended
        exact .inr (.inr (.inr (.inr (.inr (htended.1.resolve_right hleft).2))))
    | _ =>
        rw [hpc] at htended
        exact absurd htended hspawned
  · intro hpc
    rw [hpc] at htended
    exact htended.2 rfl
  · intro hpc
    rw [hpc] at htended
    exact htended
  · intro error hpc
    rw [hpc] at htended
    exact htended

/-- A file system in which a path is a file. -/
def socketPaths : PathLibrary where
  PathBuf := String
  display path := path
  leadsToConfig path := path == "/tmp/rumqttd_test_config.toml"

def socketFile (path : String) : String := path

/-- Two brokers on two Unix sockets. -/
def twoSockets : StartId → BrokerConfig socketPaths
  | 0 => .unix "/tmp/first.sock"
  | _ => .unix "/tmp/second.sock"

/-- The first broker finds an old socket, is started and stopped. The second
start is cancelled. -/
def brokerRun : List (BrokerLabel String) :=
  [.act 0 .call, .act 1 .call, .act 0 (.createDir none), .act 0 .checkOld,
    .act 0 (.removeOld none), .act 1 (.createDir none), .act 1 .checkOld, .act 0 (.write none),
    .act 1 (.write none), .act 1 (.spawn none), .act 0 (.spawn none), .act 0 .bind,
    .act 1 .cancel, .act 0 .ret, .act 0 .stop, .act 0 (.kill none), .act 0 .exit,
    .act 0 (.wait none), .act 1 .bind, .act 0 .check, .act 0 (.remove none),
    .act 0 (.kill none), .act 0 (.wait none), .act 0 .check]

/-- The `stop` leaves no child, but the cancelled `start` does. -/
theorem broker_children_run :
    ∃ s, (brokers (L := socketPaths) socketFile twoSockets).Trace brokerRun s ∧
      s.children 0 = .reaped ∧ s.pcs 1 = .cancelled ∧ s.children 1 = .running := by
  have htrace := Brokers.runAll_trace (L := socketPaths) socketFile twoSockets
    (fun file => file == "/tmp/first.sock") brokerRun rfl
  exact ⟨_, htrace, (broker_children htrace 0).2.1 rfl, rfl, rfl⟩

/-! ## What becomes of the sockets -/

/-- What is known of the path of a broker's socket that nobody else touches;
`bound` if the child has opened the socket, `refused` if the operating system has
refused to remove it. -/
def Placed (bound refused : Prop) (child : Child) (socket : Bool) : BrokerPc → Prop
  | .uncalled | .creating | .checking | .removing | .writing | .spawning | .failed _ =>
    ¬ bound ∧ child = .unspawned
  | .sleeping | .cancelled | .owned => bound → socket = true
  | .stopping _ | .dropping _ _ => True
  | .gone _ => child = .reaped → socket = false ∨ refused

theorem Placed.early {bound refused : Prop} {child : Child} {socket : Bool} {pc : BrokerPc}
    (hpc : pc.early) :
    Placed bound refused child socket pc ↔ ¬ bound ∧ child = .unspawned := by
  cases pc <;> first | exact Iff.rfl | exact hpc.elim

/-- A move keeps what is known of the path of the socket. -/
theorem BrokerMove.placed {unix : Bool} {v v' : BrokerView} {a : BrokerAction}
    {bound bound' refused refused' : Prop} (h : BrokerMove unix v a v')
    (hbound : bound' → bound ∨ a = .bind)
    (hrefused : refused ∨ (∃ e, a = .remove (some e)) → refused')
    (hv : Placed bound refused v.child v.socket v.pc) :
    Placed bound' refused' v'.child v'.socket v'.pc := by
  have hunbound (ha : a ≠ .bind) : bound' → bound := fun h => (hbound h).resolve_right ha
  cases h with
  | prepared h =>
      obtain ⟨hpc, hpc'⟩ := h.early
      obtain ⟨hnot, hchild⟩ := (Placed.early hpc).mp hv
      refine (Placed.early hpc').mpr ⟨fun hbound => hnot (hunbound ?_ hbound), h.child.trans hchild⟩
      rintro rfl
      cases h
  | spawned hpc =>
      rw [hpc] at hv
      exact fun h => absurd (hunbound nofun h) hv.1
  | started hpc | cancelled hpc =>
      rw [hpc] at hv
      exact fun h => hv (hunbound nofun h)
  | dropClean hpc hsocket => exact fun _ => .inl hsocket
  | dropRemoved hpc => exact fun _ => .inl rfl
  | @dropUnremoved result e hpc => exact fun _ => .inr (hrefused (.inr ⟨e, rfl⟩))
  | bound hunix hchild =>
      have hchild' : v.child ≠ .unspawned ∧ v.child ≠ .reaped := by
        rw [hchild]
        exact ⟨nofun, nofun⟩
      show Placed bound' refused' v.child true v.pc
      match hpc : v.pc with
      | .uncalled | .creating | .checking | .removing | .writing | .spawning | .failed _ =>
          rw [hpc] at hv
          exact absurd hv.2 hchild'.1
      | .sleeping | .cancelled | .owned => exact fun _ => rfl
      | .stopping _ | .dropping _ _ => trivial
      | .gone _ => exact fun hreaped => absurd hreaped hchild'.2
  | exited hchild =>
      have hchild' : v.child ≠ .unspawned := by
        rcases hchild with hchild | hchild <;> rw [hchild] <;> exact nofun
      show Placed bound' refused' .exited v.socket v.pc
      match hpc : v.pc with
      | .uncalled | .creating | .checking | .removing | .writing | .spawning | .failed _ =>
          rw [hpc] at hv
          exact absurd hv.2 hchild'
      | .sleeping | .cancelled | .owned =>
          rw [hpc] at hv
          exact fun h => hv (hunbound nofun h)
      | .stopping _ | .dropping _ _ => trivial
      | .gone _ => exact nofun
  | _ => trivial

theorem Placed.mono {bound bound' refused refused' : Prop} {child : Child} {socket : Bool}
    {pc : BrokerPc} (h : Placed bound refused child socket pc) (hbound : bound' → bound)
    (hrefused : refused → refused') : Placed bound' refused' child socket pc := by
  match pc, h with
  | .uncalled, h | .creating, h | .checking, h | .removing, h | .writing, h | .spawning, h
  | .failed _, h => exact ⟨fun hb => h.1 (hbound hb), h.2⟩
  | .sleeping, h | .cancelled, h | .owned, h => exact fun hb => h (hbound hb)
  | .stopping _, _ | .dropping _ _, _ => trivial
  | .gone _, h => exact fun hreaped => (h hreaped).imp id hrefused

variable {f : File}

theorem placed (h : (brokers file configs).Trace tr s)
    (hn : Brokers.socketOf file (configs n) = some f)
    (hothers : ∀ m ≠ n, Brokers.socketOf file (configs m) ≠ some f)
    (hquiet : ∀ present, .other f present ∉ tr) :
    Placed (.act n .bind ∈ tr) (∃ e, .act n (.remove (some e)) ∈ tr)
      (s.children n) (s.sockets f) (s.pcs n) := by
  refine TSys.Trace.induct (I := fun tr s => (∀ present, .other f present ∉ tr) →
    Placed (.act n .bind ∈ tr) (∃ e, .act n (.remove (some e)) ∈ tr)
      (s.children n) (s.sockets f) (s.pcs n)) ?_ ?_ h hquiet
  · rintro s ⟨sockets, rfl⟩ _
    exact ⟨List.not_mem_nil, rfl⟩
  · intro tr s l s' _ ih hstep hquiet
    have hbefore := ih fun present hmem => hquiet present (List.mem_append_left _ hmem)
    rcases brokers_move hstep n with ⟨a, v, rfl, hpc, hchild, hsocket, hmove⟩ | ⟨hl, hpc, hchild⟩
    · rw [hpc, hchild, hsocket f hn]
      have hv : (s.view n (Brokers.socketOf file (configs n))).socket = s.sockets f := by
        rw [hn]
        rfl
      rw [← hv] at hbefore
      refine hmove.placed ?_ ?_ hbefore
      · intro hbind
        rcases List.mem_append.mp hbind with hbind | hbind
        · exact .inl hbind
        · simp only [List.mem_singleton, BrokerLabel.act.injEq, true_and] at hbind
          exact .inr hbind.symm
      · rintro (⟨e, he⟩ | ⟨e, rfl⟩)
        · exact ⟨e, List.mem_append_left _ he⟩
        · exact ⟨e, by simp⟩
    · have hsocket : s'.sockets f = s.sockets f := by
        refine brokers_sockets hstep ?_ ?_
        · intro m a heq
          refine hothers m ?_
          rintro rfl
          exact hl a heq
        · rintro present rfl
          exact hquiet present (by simp)
      rw [hpc, hchild, hsocket]
      refine hbefore.mono ?_ ?_
      · intro hbind
        refine (List.mem_append.mp hbind).resolve_right ?_
        intro hlast
        exact hl .bind (List.mem_singleton.mp hlast).symm
      · rintro ⟨e, he⟩
        exact ⟨e, List.mem_append_left _ he⟩

/-- If no other broker and nobody else touches the path of a broker's socket, then
something is there from the moment its child opens the socket until the broker is
stopped or dropped, and nothing is there once it is gone, whatever else went wrong,
if the operating system has neither refused a wait nor a removal. -/
theorem broker_socket (h : (brokers file configs).Trace tr s)
    (hn : Brokers.socketOf file (configs n) = some f)
    (hothers : ∀ m ≠ n, Brokers.socketOf file (configs m) ≠ some f)
    (hquiet : ∀ present, .other f present ∉ tr) :
    (.act n .bind ∈ tr → s.pcs n = .sleeping ∨ s.pcs n = .cancelled ∨ s.pcs n = .owned →
      s.sockets f = true) ∧
    ∀ result, s.pcs n = .gone result → (∀ e, .act n (.wait (some e)) ∉ tr) →
      (∀ e, .act n (.remove (some e)) ∉ tr) → s.sockets f = false := by
  have hplaced := placed h hn hothers hquiet
  refine ⟨?_, ?_⟩
  · rintro hbind (hpc | hpc | hpc)
    · rw [hpc] at hplaced
      exact hplaced hbind
    · rw [hpc] at hplaced
      exact hplaced hbind
    · rw [hpc] at hplaced
      exact hplaced hbind
  · intro result hpc hwait hremove
    have htended := tended h n
    rw [hpc] at hplaced htended
    have hreaped : s.children n = .reaped := by
      refine htended.1.resolve_left ?_
      rintro ⟨-, e, he⟩
      exact hwait e he
    refine (hplaced hreaped).resolve_right ?_
    rintro ⟨e, he⟩
    exact hremove e he

theorem broker_socket_run :
    (∃ s, (brokers (L := socketPaths) socketFile twoSockets).Trace (brokerRun.take 14) s ∧
      s.pcs 0 = .owned ∧ s.sockets "/tmp/first.sock" = true) ∧
    ∃ s, (brokers (L := socketPaths) socketFile twoSockets).Trace brokerRun s ∧
      s.sockets "/tmp/first.sock" = false := by
  have hothers (m : StartId) (hm : m ≠ 0) :
      Brokers.socketOf (L := socketPaths) socketFile (twoSockets m) ≠ some "/tmp/first.sock" := by
    cases m with
    | zero => exact absurd rfl hm
    | succ m => simp [twoSockets, Brokers.socketOf, BrokerConfig.unix, socketFile]
  have hstarted := Brokers.runAll_trace (L := socketPaths) socketFile twoSockets
    (fun file => file == "/tmp/first.sock") (brokerRun.take 14) rfl
  have htrace := Brokers.runAll_trace (L := socketPaths) socketFile twoSockets
    (fun file => file == "/tmp/first.sock") brokerRun rfl
  refine ⟨⟨_, hstarted, rfl, ?_⟩, _, htrace, ?_⟩
  · refine (broker_socket hstarted (n := 0) rfl hothers ?_).1 ?_ (.inr (.inr rfl))
    · simp [brokerRun]
    · simp [brokerRun]
  · refine (broker_socket htrace (n := 0) rfl hothers ?_).2 (some (.ok ())) rfl ?_ ?_
    · simp [brokerRun]
    · simp [brokerRun]
    · simp [brokerRun]

end Brokers

end StingerMqtt

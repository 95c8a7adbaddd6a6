import StingerMqtt.Validation.BrokerLife

/-!
# Brokers come to an end

`start`, `stop` and `Drop` take boundedly many steps, whatever the operating
system answers. The only one that may have to wait is `Child::wait`: for a child
that has been killed and has not exited yet, or that the operating system has
refused to kill.
-/

namespace StingerMqtt

open Kit

/-- The broker does nothing until somebody calls `start`, `stop` or drops it, and
after that nothing at all. -/
def BrokerPc.resting : BrokerPc → Prop
  | .uncalled | .failed _ | .cancelled | .owned | .gone _ => True
  | _ => False

/-- `stop` or `Drop` waits for the child. -/
def BrokerPc.waiting : BrokerPc → Prop
  | .stopping .wait | .dropping .wait _ => True
  | _ => False

def Teardown.left : Teardown → Nat
  | .kill => 4
  | .wait => 3
  | .check => 2
  | .remove => 1

/-- How many steps `start`, `stop` and `Drop` can still take. -/
def BrokerPc.left : BrokerPc → Nat
  | .uncalled => 16
  | .creating => 15
  | .checking => 14
  | .removing => 13
  | .writing => 12
  | .spawning => 11
  | .sleeping => 10
  | .owned => 9
  | .stopping phase => phase.left + 4
  | .dropping phase _ => phase.left
  | .failed _ | .cancelled | .gone _ => 0

/-- A step of broker `n`, not of its child. -/
def BrokerLabel.ofBroker {File : Type} (n : StartId) : BrokerLabel File → Bool
  | .act m a => m == n && a.own
  | .other _ _ => false

/-! ## Every step is one less -/

theorem Preparation.left_lt {unix : Bool} {v v' : BrokerView} {a : BrokerAction}
    (h : Preparation unix v a v') : v'.pc.left < v.pc.left := by
  cases h with
  | called hpc =>
      rw [hpc]
      show BrokerPc.left (if unix then _ else _) < 16
      split <;> simp [BrokerPc.left]
  | checked hpc =>
      rw [hpc]
      show BrokerPc.left (if v.socket then _ else _) < 14
      split <;> simp [BrokerPc.left]
  | created hpc | uncreated hpc | removed hpc | unremoved hpc | written hpc | unwritten hpc
  | unspawned hpc =>
      rw [hpc]
      simp [BrokerPc.left]

theorem BrokerMove.left_le {unix : Bool} {v v' : BrokerView} {a : BrokerAction}
    (h : BrokerMove unix v a v') : v'.pc.left + a.own.toNat ≤ v.pc.left := by
  have hle : a.own.toNat ≤ 1 := Bool.toNat_le _
  cases h with
  | prepared h =>
      have hlt := h.left_lt
      omega
  | bound => exact Nat.le_refl _
  | exited => exact Nat.le_refl _
  | spawned hpc | started hpc | cancelled hpc | stop hpc | drop hpc | stopKilled hpc
  | stopUnkilled hpc | dropKilled hpc | stopWaited hpc | stopUnwaited hpc | dropWaited hpc
  | dropUnwaited hpc | stopFound hpc | stopClean hpc | dropFound hpc | dropClean hpc
  | stopRemoved hpc | stopUnremoved hpc | dropRemoved hpc | dropUnremoved hpc =>
      rw [hpc]
      simp [BrokerPc.left, Teardown.left, BrokerAction.own, BrokerView.stopped]

/-! ## Nothing else waits -/

/-- The only child waited for that may still run is one that the operating system
refused to kill. -/
def Hunted (refused : Prop) (child : Child) : BrokerPc → Prop
  | .stopping .wait => child ≠ .running
  | .dropping .wait _ => child = .running → refused
  | _ => True

theorem Hunted.idle {refused : Prop} {child : Child} {pc : BrokerPc} (hpc : ¬ pc.waiting) :
    Hunted refused child pc := by
  unfold Hunted
  split
  · exact absurd trivial hpc
  · exact absurd trivial hpc
  · trivial

theorem Hunted.mono {refused refused' : Prop} {child child' : Child} {pc : BrokerPc}
    (h : Hunted refused child pc) (hchild : child' = .running → child = .running)
    (hrefused : refused → refused') : Hunted refused' child' pc := by
  unfold Hunted at h ⊢
  split
  · exact fun hrunning => h (hchild hrunning)
  · exact fun hrunning => hrefused (h (hchild hrunning))
  · trivial

/-- A child that is waited for and runs was refused to be killed. -/
theorem Hunted.refused {refused : Prop} {child : Child} {pc : BrokerPc}
    (h : Hunted refused child pc) (hwait : pc.waiting) (hchild : child = .running) : refused := by
  match pc, h with
  | .stopping .wait, h => exact absurd hchild h
  | .dropping .wait _, h => exact h hchild

/-- A child that is waited for has been spawned. -/
theorem Tended.waiting {refused : Prop} {child : Child} {pc : BrokerPc}
    (h : Tended refused child pc) (hwait : pc.waiting) : child.unreaped ∨ child = .reaped := by
  match pc, h with
  | .stopping .wait, h => exact .inl h
  | .dropping .wait _, ⟨hleft, _⟩ => exact hleft

theorem BrokerView.kill_none (v : BrokerView) : (v.kill none).child ≠ .running := by
  unfold BrokerView.kill
  by_cases hchild : v.child = .running
  · simp [hchild]
  · simp [hchild]

theorem BrokerMove.hunted {unix : Bool} {v v' : BrokerView} {a : BrokerAction}
    {refused refused' : Prop} (h : BrokerMove unix v a v')
    (hrefused : refused ∨ (∃ e, a = .kill (some e)) → refused')
    (hv : Hunted refused v.child v.pc) : Hunted refused' v'.child v'.pc := by
  cases h with
  | stopKilled => exact v.kill_none
  | @dropKilled result error =>
      cases error with
      | none => exact fun hrunning => absurd hrunning v.kill_none
      | some e => exact fun _ => hrefused (.inr ⟨e, rfl⟩)
  | bound => exact hv.mono id fun h => hrefused (.inl h)
  | exited => exact hv.mono nofun fun h => hrefused (.inl h)
  | prepared h =>
      refine Hunted.idle fun hwait => ?_
      have hearly := h.early.2
      cases hpc : v'.pc <;> rw [hpc] at hwait hearly <;> first | exact hwait | exact hearly
  | _ => exact Hunted.idle id

/-- A broker that does not rest can go on, unless its child has yet to exit. -/
theorem BrokerView.act_enabled (v : BrokerView) (unix : Bool) (hrest : ¬ v.pc.resting)
    (hwait : v.pc.waiting → v.child = .exited ∨ v.child = .reaped) :
    ∃ a v', a.own = true ∧ (∀ e, a ≠ .wait (some e)) ∧ v.act unix a = some v' := by
  obtain ⟨pc, child, socket⟩ := v
  cases pc with
  | creating => exact ⟨.createDir none, _, rfl, nofun, rfl⟩
  | checking => exact ⟨.checkOld, _, rfl, nofun, rfl⟩
  | removing => exact ⟨.removeOld (some ""), _, rfl, nofun, rfl⟩
  | writing => exact ⟨.write none, _, rfl, nofun, rfl⟩
  | spawning => exact ⟨.spawn none, _, rfl, nofun, rfl⟩
  | sleeping => exact ⟨.ret, _, rfl, nofun, rfl⟩
  | stopping phase | dropping phase =>
      cases phase with
      | kill => exact ⟨.kill none, _, rfl, nofun, rfl⟩
      | wait =>
          -- `wait` needs a child that has exited
          obtain rfl | rfl : child = .exited ∨ child = .reaped := hwait trivial
          · exact ⟨.wait none, _, rfl, nofun, rfl⟩
          · exact ⟨.wait none, _, rfl, nofun, rfl⟩
      | check => exact ⟨.check, _, rfl, nofun, rfl⟩
      | remove => exact ⟨.remove (some ""), _, rfl, nofun, rfl⟩
  | uncalled | failed | cancelled | owned | gone => exact absurd trivial hrest

section Brokers

variable {L : PathLibrary} {File : Type} [DecidableEq File] {file : L.PathBuf → File}
variable {configs : StartId → BrokerConfig L} {s s' : Brokers File}
variable {l : BrokerLabel File} {tr : List (BrokerLabel File)}

theorem brokers_left (h : (brokers file configs).step s l s') (n : StartId) :
    (s'.pcs n).left + (l.ofBroker n).toNat ≤ (s.pcs n).left := by
  rcases brokers_move h n with ⟨a, v, rfl, hpc, -, -, hmove⟩ | ⟨hl, hpc, -⟩
  · have hown : BrokerLabel.ofBroker n (.act n a : BrokerLabel File) = a.own := by
      simp [BrokerLabel.ofBroker]
    rw [hpc, hown]
    exact hmove.left_le
  · have hforeign : l.ofBroker n = false := by
      cases l with
      | other => rfl
      | act m a =>
          have hne : m ≠ n := by
            rintro rfl
            exact hl a rfl
          simp [BrokerLabel.ofBroker, hne]
    rw [hpc, hforeign]
    exact Nat.le_refl _

theorem hunted (h : (brokers file configs).Trace tr s) (n : StartId) :
    Hunted (∃ e, .act n (.kill (some e)) ∈ tr) (s.children n) (s.pcs n) := by
  refine TSys.Trace.induct (I := fun tr s =>
    Hunted (∃ e, .act n (.kill (some e)) ∈ tr) (s.children n) (s.pcs n)) ?_ ?_ h
  · rintro s ⟨sockets, rfl⟩
    trivial
  · intro tr s l s' _ ih hstep
    rcases brokers_move hstep n with ⟨a, v, rfl, hpc, hchild, -, hmove⟩ | ⟨-, hpc, hchild⟩
    · rw [hpc, hchild]
      refine hmove.hunted ?_ ih
      rintro (⟨e, he⟩ | ⟨e, rfl⟩)
      · exact ⟨e, List.mem_append_left _ he⟩
      · exact ⟨e, by simp⟩
    · rw [hpc, hchild]
      refine ih.mono id ?_
      rintro ⟨e, he⟩
      exact ⟨e, List.mem_append_left _ he⟩

/-- In no run does a broker take more than 16 steps from the call of `start` on;
and wherever a run has come to, it rests or has a step that is not a refused wait,
or it waits for a child that has been killed and will exit, or that the operating
system has refused to kill. -/
theorem broker_ends (h : (brokers file configs).Trace tr s) (n : StartId) :
    tr.countP (BrokerLabel.ofBroker n) ≤ 16 ∧
    ((s.pcs n).resting ∨
      (∃ a s', a.own = true ∧ (∀ e, a ≠ .wait (some e)) ∧
        (brokers file configs).step s (.act n a) s') ∨
      (s.pcs n).waiting ∧ (s.children n = .killed ∨
        s.children n = .running ∧ ∃ e, .act n (.kill (some e)) ∈ tr)) := by
  refine ⟨?_, ?_⟩
  · obtain ⟨s₀, ⟨sockets, rfl⟩, hrun⟩ := h
    have hcount := hrun.countP_le fun s l s' hstep => brokers_left hstep n
    have hnew : ((Brokers.new sockets : Brokers File).pcs n).left = 16 := rfl
    omega
  · have hhunted := hunted h n
    have htended := tended h n
    by_cases hrest : (s.pcs n).resting
    · exact .inl hrest
    by_cases hhangs : (s.pcs n).waiting ∧ (s.children n = .running ∨ s.children n = .killed)
    · obtain ⟨hwait, hrunning | hkilled⟩ := hhangs
      · exact .inr (.inr ⟨hwait, .inr ⟨hrunning, hhunted.refused hwait hrunning⟩⟩)
      · exact .inr (.inr ⟨hwait, .inl hkilled⟩)
    · have hexited (hwait : (s.pcs n).waiting) :
          s.children n = .exited ∨ s.children n = .reaped := by
        rcases htended.waiting hwait with (hchild | hchild | hchild) | hchild
        · exact absurd ⟨hwait, .inl hchild⟩ hhangs
        · exact absurd ⟨hwait, .inr hchild⟩ hhangs
        · exact .inl hchild
        · exact .inr hchild
      obtain ⟨a, v, hown, hunrefused, hact⟩ :=
        (s.view n (Brokers.socketOf file (configs n))).act_enabled
          (Brokers.socketOf file (configs n)).isSome hrest hexited
      exact .inr (.inl ⟨a, _, hown, hunrefused, congrArg (Option.map _) hact⟩)

/-- The operating system refuses to kill the child, which then exits by itself. -/
def unkilledRun : List (BrokerLabel String) :=
  [.act 0 .call, .act 0 (.createDir none), .act 0 .checkOld, .act 0 (.write none),
    .act 0 (.spawn none), .act 0 .bind, .act 0 .ret, .act 0 .stop, .act 0 (.kill (some "EPERM")),
    .act 0 (.kill (some "EPERM")), .act 0 .exit, .act 0 (.wait none), .act 0 .check,
    .act 0 (.remove none)]

theorem broker_ends_unkilled :
    unkilledRun.countP (BrokerLabel.ofBroker 0) ≤ 16 ∧
    ∃ s, (brokers (L := socketPaths) socketFile twoSockets).Trace (unkilledRun.take 10) s ∧
      ∃ e, .act 0 (.kill (some e)) ∈ unkilledRun.take 10 := by
  have hall := Brokers.runAll_trace (L := socketPaths) socketFile twoSockets
    (fun _ => false) unkilledRun rfl
  have hhangs := Brokers.runAll_trace (L := socketPaths) socketFile twoSockets
    (fun _ => false) (unkilledRun.take 10) rfl
  refine ⟨(broker_ends hall 0).1, _, hhangs, ?_⟩
  rcases (broker_ends hhangs 0).2 with hrest | ⟨a, s', hown, hunrefused, hstep⟩ | ⟨-, hchild⟩
  · exact hrest.elim
  · obtain ⟨v, hact, -⟩ := Option.map_eq_some_iff.mp hstep
    cases a with
    | wait error =>
        cases error with
        | none => cases hact
        | some e => exact absurd rfl (hunrefused e)
    | bind | exit => cases hown
    | _ => cases hact
  · rcases hchild with hkilled | ⟨-, hrefused⟩
    · cases hkilled
    · exact hrefused

end Brokers

end StingerMqtt

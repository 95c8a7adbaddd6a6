import StingerMqtt.Kit.LockOrder
import StingerMqtt.Concurrent.System

/-!
# The mutexes of a mock client

The calls as programs that take and drop the four mutexes of a client, each
`lock()` and each drop of a guard a step of its own. The work in between is one
step too, in which no receiver comes or goes. `subscribe` nests three of the
mutexes; `simulate_receive` takes two of the same in the other order, but its inner
block drops the first before the second is taken. So every call takes mutexes
in increasing order only, and threads on clones of one client never get stuck.
-/

namespace StingerMqtt

open Kit Mock

/-- The mutexes of a `MockClient`. -/
inductive Lock where
  | publishedMessages
  | subscriptions
  | nextSubId
  | retainedMessages
  deriving DecidableEq

namespace Lock

/-- The place of a mutex in the order in which `subscribe` nests them. -/
def rank : Lock → Nat
  | .publishedMessages => 0
  | .subscriptions => 1
  | .nextSubId => 2
  | .retainedMessages => 3

instance : Preorder Lock := Preorder.lift rank

theorem lt_iff {m m' : Lock} : m < m' ↔ m.rank < m'.rank := Iff.rfl

theorem rank_le (m : Lock) : m.rank ≤ 3 := by
  cases m <;> decide

/-- No mutex comes after infinitely many others. -/
instance : WellFoundedGT Lock where
  wf := by
    apply Subrelation.wf _ (measure fun m : Lock => 3 - m.rank).wf
    intro m m' h
    show 3 - m.rank < 3 - m'.rank
    have hlt := lt_iff.mp h
    have hle := m.rank_le
    omega

end Lock

/-! ## Calls as programs -/

section

variable {B : Broadcast MqttMessage} (p : Profile) (next : Prog Lock (MockWorld B))

/-- `MockClient::subscribe` of a thread that goes on with `next`, also after a
panic. -/
def subscribeProgram (topic : String) (tx : ChannelId) (iter : IterOrder String MqttMessage) :
    Prog Lock (MockWorld B) :=
  .acquire .subscriptions <| .critical [.subscriptions] lockSubscriptions (fun _ =>
    .acquire .nextSubId <| .critical [.nextSubId, .subscriptions] (allocate p topic tx) (fun id =>
      .acquire .retainedMessages <| .critical [.retainedMessages, .nextSubId, .subscriptions]
        (replay topic id tx iter)
        -- the guards are dropped in the reverse order when `subscribe` returns
        (fun _ => .releaseAll [.retainedMessages, .nextSubId, .subscriptions] next)
        next)
      next)
    next

/-- `MockClient::simulate_receive` of a thread that goes on with `next`. -/
def simulateReceiveProgram (message : MqttMessage) : Prog Lock (MockWorld B) :=
  if message.retain then
    -- the inner block drops its guard before `subscriptions` is taken
    .locked .retainedMessages (storeRetained message)
      (.locked .subscriptions (fanOut message) next next) next
  else .locked .subscriptions (fanOut message) next next

/-- A call of a thread that goes on with `next`. -/
def Op.program : Op → Prog Lock (MockWorld B)
  | .subscribe topic _ tx iter => subscribeProgram p next topic tx iter
  | .simulateReceive message => simulateReceiveProgram next message
  | .unsubscribe topic => .locked .subscriptions (Mock.unsubscribe topic) next next
  | .publish message => .locked .publishedMessages (Mock.publish message) next next
  | .publishNoblock message => .locked .publishedMessages (Mock.publishNoblock message) next next
  | .publishNowait message => .locked .publishedMessages (Mock.publishNowait message) next next
  | .lastPublishedMessage => .locked .publishedMessages Mock.lastPublishedMessage next next
  | .publishedMessages => .locked .publishedMessages Mock.publishedMessages next next
  | .clearPublishedMessages => .locked .publishedMessages Mock.clearPublishedMessages next next
  | .retainedMessages => .locked .retainedMessages Mock.retainedMessages next next
  | .clearRetainedMessages => .locked .retainedMessages Mock.clearRetainedMessages next next
  -- what a program does to its channels takes no mutex of the client
  | op => .run (fun w => (op.exec p w).2) fun _ => next

/-- The calls `ops`, one after the other. -/
def programs (ops : List Op) : Prog Lock (MockWorld B) :=
  ops.foldr (fun op next => op.program p next) .done

end

/-- Clones of the mock client `MockClient::new(clientId)`, one for each thread;
thread `t` makes the calls `ops t`. -/
def lockedClones (B : Broadcast MqttMessage) (p : Profile) (clientId : String)
    (ops : ThreadId → List Op) : TSys (Threads Lock (MockWorld B)) ThreadId :=
  threads (.new B clientId) fun t => programs p (ops t)

variable {B : Broadcast MqttMessage} {p : Profile} {next : Prog Lock (MockWorld B)}
  {w : MockWorld B} {clientId : String} {ops : ThreadId → List Op}
  {s : Threads Lock (MockWorld B)}

/-! ## What the programs do -/

theorem eval_subscribeProgram (topic : String) (qos : QoS) (tx : ChannelId)
    (iter : IterOrder String MqttMessage) :
    (subscribeProgram p next topic tx iter).eval w =
      next.eval (subscribe p topic qos tx iter w).2 := by
  unfold subscribeProgram subscribe
  apply Prog.eval_critical
  intro _ w
  apply Prog.eval_critical
  intro subscriptionId w
  apply Prog.eval_critical
  intro _ w
  exact Prog.eval_releaseAll _ _ _

theorem eval_simulateReceiveProgram (message : MqttMessage) :
    (simulateReceiveProgram next message).eval w =
      next.eval (simulateReceive message w).2 := by
  unfold simulateReceiveProgram simulateReceive
  by_cases hretain : message.retain = true
  · rw [if_pos hretain, if_pos hretain]
    exact Prog.eval_locked fun _ _ => Prog.eval_locked_same
  · rw [if_neg hretain, if_neg hretain]
    exact Prog.eval_locked_same

/-- The program of a call does to the state what the call does. -/
theorem eval_program (op : Op) : (op.program p next).eval w = next.eval (op.exec p w).2 := by
  cases op with
  | subscribe topic qos tx iter => exact eval_subscribeProgram topic qos tx iter
  | simulateReceive message => exact eval_simulateReceiveProgram message
  | channel capacity => rfl
  | addReceiver c => rfl
  | dropReceiver c => rfl
  | _ => exact Prog.eval_locked_same

theorem eval_programs (ops : List Op) :
    (programs p ops).eval w = ops.foldl (fun w op => (op.exec p w).2) w := by
  induction ops generalizing w with
  | nil => rfl
  | cons op ops ih =>
      show (op.program p (programs p ops)).eval w = _
      rw [eval_program, ih]
      rfl

/-! ## In which order they take the mutexes -/

theorem ordered_subscribeProgram (hnext : next.Ordered ∅) (topic : String) (tx : ChannelId)
    (iter : IterOrder String MqttMessage) :
    (subscribeProgram p next topic tx iter).Ordered ∅ := by
  have h : (subscribeProgram p next topic tx iter).Ordered
      {m : Lock | m ∈ ([] : List Lock)} := by
    apply Prog.Ordered.acquire (by simp)
    apply Prog.Ordered.critical (by decide) _ hnext
    intro _
    apply Prog.Ordered.acquire (by simp [Lock.lt_iff, Lock.rank])
    apply Prog.Ordered.critical (by decide) _ hnext
    intro subscriptionId
    apply Prog.Ordered.acquire (by simp [Lock.lt_iff, Lock.rank])
    apply Prog.Ordered.critical (by decide) _ hnext
    intro _
    exact Prog.Ordered.releaseAll (by decide) hnext
  simpa using h

theorem ordered_simulateReceiveProgram (hnext : next.Ordered ∅) (message : MqttMessage) :
    (simulateReceiveProgram next message).Ordered ∅ := by
  have hrows : (Prog.locked .subscriptions (fanOut message) next next).Ordered ∅ :=
    Prog.Ordered.locked hnext hnext
  unfold simulateReceiveProgram
  split
  · exact Prog.Ordered.locked hrows hnext
  · exact hrows

/-- Every call takes mutexes in increasing order only, and drops them all. -/
theorem ordered_program (hnext : next.Ordered ∅) (op : Op) : (op.program p next).Ordered ∅ := by
  cases op with
  | subscribe topic qos tx iter => exact ordered_subscribeProgram hnext topic tx iter
  | simulateReceive message => exact ordered_simulateReceiveProgram hnext message
  | channel capacity => exact fun _ => hnext
  | addReceiver c => exact fun _ => hnext
  | dropReceiver c => exact fun _ => hnext
  | _ => exact Prog.Ordered.locked hnext hnext

theorem ordered_programs (ops : List Op) :
    (programs p ops : Prog Lock (MockWorld B)).Ordered ∅ := by
  induction ops with
  | nil => rfl
  | cons op ops ih => exact ordered_program ih op

theorem lockedClones_ordered (h : (lockedClones B p clientId ops).Reachable s) : s.Ordered :=
  Threads.ordered_reachable (fun t => ordered_programs (ops t)) h

/-- A thread that nobody gets in the way of makes its calls as the sequential
client does. -/
theorem lockedClones_alone {t : ThreadId} {calls : List Op} (hprog : s.progs t = programs p calls)
    (hfree : ∀ m, s.holder m = none) :
    Threads.Finishes (.new B clientId) (fun t => programs p (ops t)) s t
      (calls.foldl (fun w op => (op.exec p w).2) s.world) := by
  rw [← eval_programs]
  have hheld : s.held t = ∅ := by
    apply Set.eq_empty_of_forall_notMem
    intro m hm
    exact Option.some_ne_none t (hm.symm.trans (hfree m))
  apply Threads.alone hprog
  · rw [hheld]
    exact ordered_programs calls
  · intro m t' hm
    exact absurd (hm.symm.trans (hfree m)) (Option.some_ne_none t')

/-! ## Nobody gets stuck -/

/-- Threads that make any calls on clones of one client never get stuck: in
every state, some thread that is not done takes its next step, and no threads
wait for each other in a circle. -/
theorem lockedClones_never_stuck (h : (lockedClones B p clientId ops).Reachable s) :
    ((∃ t, s.progs t ≠ .done) → ∃ t s', (lockedClones B p clientId ops).step s t s') ∧
      ∀ t, ¬ Relation.TransGen s.WaitsFor t t := by
  have horder := lockedClones_ordered h
  refine ⟨?_, fun t => horder.no_cycle t⟩
  intro hbusy
  obtain ⟨t, ht⟩ := hbusy
  exact horder.progress ht

/-- One thread receives what the other subscribes to. -/
def crossedCalls : ThreadId → List Op
  | 0 => [.simulateReceive (.simple "a" .atMostOnce true [1])]
  | 1 => [.subscribe "a" .atMostOnce 0 (.stored _ _)]
  | _ => []

/-- Each of the two has taken its first mutex. -/
def crossedThreads : Threads Lock (MockWorld (.log MqttMessage)) :=
  (TSys.runAll Threads.advance
    ⟨.new _ "mock-client", fun _ => none, fun t => programs .debug (crossedCalls t)⟩
    [0, 1]).get rfl

theorem crossedThreads_reachable :
    (lockedClones (.log MqttMessage) .debug "mock-client" crossedCalls).Reachable
      crossedThreads :=
  ⟨[0, 1], _, rfl, TSys.runAll_run (fun _ _ _ h => h) (Option.some_get _).symm⟩

theorem lockedClones_never_stuck_crossed :
    crossedThreads.holder .retainedMessages = some 0 ∧
      crossedThreads.holder .subscriptions = some 1 ∧
      (∃ t s', (lockedClones (.log MqttMessage) .debug "mock-client" crossedCalls).step
        crossedThreads t s') ∧
      ∀ t, ¬ Relation.TransGen crossedThreads.WaitsFor t t := by
  obtain ⟨hprogress, hcircle⟩ := lockedClones_never_stuck crossedThreads_reachable
  refine ⟨rfl, rfl, hprogress ⟨0, ?_⟩, hcircle⟩
  intro hdone
  cases hdone

end StingerMqtt

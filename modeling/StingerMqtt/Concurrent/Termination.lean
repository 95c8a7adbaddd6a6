import StingerMqtt.Kit.StepBound
import StingerMqtt.Concurrent.Granularity
import StingerMqtt.Concurrent.Linear

/-!
# All calls end

A call takes and drops a few mutexes and works on the client in between, at most
nine steps in all. So finitely many threads with finitely many calls come to an
end whatever the scheduler does, and at the end the client is as if the calls had
run one operation at a time.
-/

namespace StingerMqtt

open Kit Mock

variable {B : Broadcast MqttMessage} {p : Profile} {clientId : String}
  {ops : ThreadId → List Op} {s : Threads Lock (MockWorld B)}

/-! ## How many steps a call takes -/

/-- The steps of a call that does not panic: one for each mutex it takes, one for
each section and one for each guard it drops. -/
def Op.steps : Op → Nat
  | .subscribe .. => 9
  | .simulateReceive message => if message.retain then 6 else 3
  | .channel _ | .addReceiver _ | .dropReceiver _ => 1
  | _ => 3

/-- The steps of some calls. -/
def Op.allSteps : List Op → Nat
  | [] => 0
  | op :: ops => allSteps ops + op.steps

section

variable {next : Prog Lock (MockWorld B)} {n : Nat}

theorem within_subscribeProgram (hnext : next.Within n) (topic : String) (tx : ChannelId)
    (iter : IterOrder String MqttMessage) :
    (subscribeProgram p next topic tx iter).Within (n + 9) := by
  have hdrop : ∀ held : List Lock, (Prog.releaseAll held next).Within (held.length + n) :=
    hnext.releaseAll
  have hreplay : ∀ id : UInt32, Prog.Within (.acquire .retainedMessages <|
      .critical [.retainedMessages, .nextSubId, .subscriptions] (replay topic id tx iter)
        (fun _ => .releaseAll [.retainedMessages, .nextSubId, .subscriptions] next) next)
      (n + 5) := by
    intro id
    refine .acquire (.critical (n := n + 3) (fun _ => ?_) hnext ?_)
    · rw [Nat.add_comm]
      exact hdrop _
    · rw [Nat.add_comm]
      exact Nat.le_refl _
  have hallocate : Prog.Within (.acquire .nextSubId <|
      .critical [.nextSubId, .subscriptions] (allocate p topic tx) (fun id =>
        .acquire .retainedMessages <| .critical [.retainedMessages, .nextSubId, .subscriptions]
          (replay topic id tx iter)
          (fun _ => .releaseAll [.retainedMessages, .nextSubId, .subscriptions] next) next) next)
      (n + 7) := by
    refine .acquire (.critical hreplay hnext ?_)
    rw [List.length_cons, List.length_singleton]
    omega
  refine .acquire (.critical (fun _ => hallocate) hnext ?_)
  rw [List.length_singleton]
  omega

theorem within_program (hnext : next.Within n) (op : Op) :
    (op.program p next).Within (n + op.steps) := by
  cases op with
  | subscribe topic qos tx iter => exact within_subscribeProgram hnext topic tx iter
  | simulateReceive message =>
      have hrows : (Prog.locked .subscriptions (fanOut message) next next).Within (n + 3) :=
        .locked hnext hnext
      show (simulateReceiveProgram next message).Within (n + if message.retain then 6 else 3)
      unfold simulateReceiveProgram
      split
      · exact .locked hrows (hnext.mono (by omega))
      · exact hrows
  | channel | addReceiver | dropReceiver => exact .run fun _ => hnext
  | _ => exact .locked hnext hnext

theorem within_programs (ops : List Op) :
    (programs p ops : Prog Lock (MockWorld B)).Within (Op.allSteps ops) := by
  induction ops with
  | nil => exact .done
  | cons op ops ih => exact within_program ih op

end

/-! ## All calls end -/

/-- The steps of all calls of the first threads. -/
def stepsOf (threadCount : Nat) (ops : ThreadId → List Op) : Nat :=
  ∑ t ∈ Finset.range threadCount, Op.allSteps (ops t)

section

variable {threadCount : Nat} {w : MockWorld B} {ts : List ThreadId}

theorem locked_length_le (hops : ∀ t, threadCount ≤ t → ops t = [])
    (h : (threads w fun t => programs p (ops t)).Trace ts s) :
    ts.length ≤ stepsOf threadCount ops := by
  obtain ⟨s₀, rfl, hrun⟩ := h
  refine Threads.run_length_le (fun t => within_programs (ops t)) ?_ hrun
  intro t ht
  rw [hops t ht]
  rfl

/-- Some thread can go on until all calls are made. -/
theorem locked_progress (h : (threads w fun t => programs p (ops t)).Reachable s)
    (hbusy : ∃ t, s.progs t ≠ .done) :
    ∃ t s', (threads w fun t => programs p (ops t)).step s t s' := by
  obtain ⟨t, ht⟩ := hbusy
  have horder : s.Ordered := Threads.ordered_reachable (fun t => ordered_programs (ops t)) h
  exact horder.progress ht

/-- Finitely many threads make all their calls: no schedule takes more steps than
the calls have, none ends before all calls are made, and every schedule can be
continued until they are. -/
theorem locked_terminates (hops : ∀ t, threadCount ≤ t → ops t = [])
    (h : (threads w fun t => programs p (ops t)).Trace ts s) :
    ts.length ≤ stepsOf threadCount ops ∧
      ((∀ t s', ¬ (threads w fun t => programs p (ops t)).step s t s') →
        ∀ t, s.progs t = .done) ∧
      ∃ ts' s', (threads w fun t => programs p (ops t)).Run s ts' s' ∧
        ∀ t, s'.progs t = .done := by
  refine ⟨locked_length_le hops h, ?_, ?_⟩
  · intro hstuck t
    by_contra ht
    obtain ⟨t', s', hstep⟩ := locked_progress ⟨ts, h⟩ ⟨t, ht⟩
    exact hstuck t' s' hstep
  · -- by induction on the steps that are left
    generalize hleft : stepsOf threadCount ops - ts.length = left
    induction left using Nat.strong_induction_on generalizing ts s with
    | _ left ih =>
        by_cases hdone : ∀ t, s.progs t = .done
        · exact ⟨[], s, .nil, hdone⟩
        · obtain ⟨t, s₁, hstep⟩ := locked_progress ⟨ts, h⟩ (not_forall.mp hdone)
          have h₁ := h.snoc hstep
          have hle := locked_length_le hops h₁
          rw [List.length_append, List.length_singleton] at hle
          have hless : stepsOf threadCount ops - (ts ++ [t]).length < left := by
            rw [List.length_append, List.length_singleton]
            omega
          obtain ⟨ts', s', hrun, hdone'⟩ := ih _ hless h₁ rfl
          exact ⟨t :: ts', s', .cons hstep hrun, hdone'⟩

end

theorem crossedCalls_rest : ∀ t, 2 ≤ t → crossedCalls t = []
  | 0, h => absurd h (by decide)
  | 1, h => absurd h (by decide)
  | _ + 2, _ => rfl

/-- The two crossed calls take all the steps they can take. -/
theorem locked_terminates_crossed :
    crossedSchedule.length = stepsOf 2 crossedCalls ∧
      crossedSchedule.length ≤ stepsOf 2 crossedCalls ∧
      ((∀ t s', ¬ (threads oneChannel.2.world fun t => programs .debug (crossedCalls t)).step
          crossedEnd t s') → ∀ t, crossedEnd.progs t = .done) ∧
      ∃ ts' s', (threads oneChannel.2.world fun t => programs .debug (crossedCalls t)).Run
        crossedEnd ts' s' ∧ ∀ t, s'.progs t = .done :=
  ⟨rfl, locked_terminates crossedCalls_rest crossedEnd_trace⟩

/-- Threads that take the mutexes step by step behave as one client that runs one
operation at a time, whenever nobody holds `subscriptions`: the history of calls,
sections and returns that goes along with their steps is explained by the points
of that client, which lead to the same shared client. -/
theorem locked_linearizable {ls₀ : List Label} {cfg₀ : Config B}
    (h₀ : (clones B p clientId).Trace ls₀ cfg₀) (hidle : ∀ t, cfg₀.threads t = .idle)
    (hvalid : ∀ t, ∀ op ∈ ops t, op.Valid cfg₀.world) {ts : List ThreadId}
    (h : (threads cfg₀.world fun t => programs p (ops t)).Trace ts s)
    (hfree : s.holder .subscriptions = none) :
    ∃ steps cfg es, GoesAlong p clientId ops cfg₀ ts s steps cfg ∧
      (clones B p clientId).Trace (ls₀ ++ steps.flatten) cfg ∧
      (atomicClient B p clientId).Trace es s.world ∧ Linearizes (ls₀ ++ steps.flatten) es ∧
      ∀ t, callsOf t steps.flatten <+: ops t ∧
        (s.progs t = .done → callsOf t steps.flatten = ops t) := by
  obtain ⟨steps, cfg, hlock⟩ := locked_goesAlong h₀ hidle hvalid h
  have htracks : Tracks p ops s steps.flatten cfg := hlock.related
  have htrace := h₀.append hlock.run
  have hg := clones_good ⟨_, htrace⟩
  obtain ⟨es, w, hes, hexplains⟩ := (clones_simulation B p clientId).trace htrace
  have hnobody : cfg.holder = none := by
    by_contra hsome
    obtain ⟨t, ht⟩ := Option.ne_none_iff_exists'.mp hsome
    rw [htracks.holder t ht] at hfree
    cases hfree
  have hworld := hexplains.behind.free_world hg hnobody
  rw [← hworld, htracks.world] at hes
  refine ⟨steps, cfg, es, hlock, htrace, hes, hexplains.linearizes (clones_calls htrace),
    fun t => ?_⟩
  obtain ⟨rest, hops, -⟩ := htracks.located t
  exact ⟨⟨rest, hops.symm⟩, fun hdone => (htracks.done hg hdone).1⟩

theorem locked_linearizable_crossed :
    ∃ steps cfg es,
      GoesAlong .debug "mock-client" crossedCalls oneChannel.2 crossedSchedule crossedEnd
        steps cfg ∧
      (clones (.log MqttMessage) .debug "mock-client").Trace (oneChannel.1 ++ steps.flatten)
        cfg ∧
      (atomicClient (.log MqttMessage) .debug "mock-client").Trace es crossedEnd.world ∧
      Linearizes (oneChannel.1 ++ steps.flatten) es ∧
      ∀ t, callsOf t steps.flatten <+: crossedCalls t ∧
        (crossedEnd.progs t = .done → callsOf t steps.flatten = crossedCalls t) :=
  locked_linearizable oneChannel_trace oneChannel_idle crossedCalls_valid crossedEnd_trace rfl

end StingerMqtt

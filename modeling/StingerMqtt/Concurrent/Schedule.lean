import StingerMqtt.Concurrent.Calls

/-!
# Schedules

A schedule says whose turn it is: a thread makes a call, or does its next
section. Playing one gives the run of the clones in this order.
-/

namespace StingerMqtt

open Kit Mock

/-- A turn of a thread. -/
inductive Turn where
  | call (t : ThreadId) (op : Op)
  | go (t : ThreadId)

/-- Whether a thread is in no call. -/
def Pc.isIdle : Pc → Bool
  | .idle => true
  | _ => false

theorem Pc.isIdle_iff {pc : Pc} : pc.isIdle = true ↔ pc = .idle := by
  cases pc <;> simp [Pc.isIdle]

namespace Config

variable {B : Broadcast MqttMessage} (p : Profile)

/-- One turn; `none` if the thread cannot take it. -/
def turn (cfg : Config B) : Turn → Option (Label × Config B)
  | .call t op =>
    if (cfg.threads t).isIdle ∧ op.Valid cfg.world then
      some (⟨t, .invoke cfg.nextCall op⟩, cfg.invoke t op)
    else none
  | .go t => (cfg.advance p t).map fun next => (⟨t, next.1⟩, next.2)

variable (P : Config B → Prop) [DecidablePred P]

/-- Play a schedule through configurations of `P`; `none` if a turn cannot be
taken. -/
def play (cfg : Config B) : List Turn → Option (List Label × Config B)
  | [] => some ([], cfg)
  | turn :: turns =>
    match cfg.turn p turn with
    | none => none
    | some (l, cfg') =>
      if P cfg' then (play cfg' turns).map fun rest => (l :: rest.1, rest.2) else none

variable {p P}

theorem turn_step {cfg cfg' : Config B} {turn : Turn} {l : Label} (clientId : String)
    (h : cfg.turn p turn = some (l, cfg')) : (clones B p clientId).step cfg l cfg' := by
  cases turn with
  | call t op =>
      simp only [Config.turn] at h
      split at h
      · next hcan =>
          cases h
          exact .inl ⟨op, rfl, Pc.isIdle_iff.mp hcan.1, hcan.2, rfl⟩
      · cases h
  | go t =>
      simp only [Config.turn] at h
      obtain ⟨⟨move, cfg''⟩, hadvance, heq⟩ := Option.map_eq_some_iff.mp h
      cases heq
      exact .inr hadvance

/-- What was played is a run of the clones. -/
theorem play_run {cfg : Config B} {turns : List Turn} {out : List Label × Config B}
    (clientId : String) (h : cfg.play p P turns = some out) :
    ((clones B p clientId).within P).Run cfg out.1 out.2 := by
  induction turns generalizing cfg out with
  | nil =>
      cases h
      exact .nil
  | cons turn turns ih =>
      unfold play at h
      cases hturn : cfg.turn p turn with
      | none =>
          rw [hturn] at h
          cases h
      | some next =>
          obtain ⟨l, cfg'⟩ := next
          rw [hturn] at h
          simp only at h
          split at h
          · next hP =>
              obtain ⟨rest, hrest, heq⟩ := Option.map_eq_some_iff.mp h
              cases heq
              exact .cons ⟨turn_step clientId hturn, hP⟩ (ih hrest)
          · cases h

theorem play_trace {clientId : String} {turns : List Turn} {out : List Label × Config B}
    (hnew : P (.new B clientId)) (h : (Config.new B clientId).play p P turns = some out) :
    ((clones B p clientId).within P).Trace out.1 out.2 :=
  ⟨.new B clientId, ⟨rfl, hnew⟩, play_run clientId h⟩

end Config

/-- A thread that takes no step stays where it is. -/
theorem run_threads {B : Broadcast MqttMessage} {p : Profile} {clientId : String}
    {cfg cfg' : Config B} {ls : List Label} (hreach : (clones B p clientId).Reachable cfg)
    (hrun : (clones B p clientId).Run cfg ls cfg') {t : ThreadId}
    (ht : t ∉ ls.map Label.thread) : cfg'.threads t = cfg.threads t := by
  induction hrun with
  | nil => rfl
  | @snoc ls mid cfg' l hrun hstep ih =>
      rw [List.map_append, List.mem_append, not_or] at ht
      obtain ⟨before, htrace⟩ := hreach
      have hg := clones_good ⟨_, htrace.append hrun⟩
      -- a step moves its own thread only
      obtain ⟨pc, hthreads, -, -⟩ := (step_moves hg hstep).thread
      rcases Config.threads_cases hthreads t with ⟨rfl, -⟩ | ⟨-, hsame⟩
      · exact absurd (List.mem_singleton_self _) ht.2
      · rw [hsame]
        exact ih ht.1

/-- All threads are idle if those that took steps are. -/
theorem run_idle {B : Broadcast MqttMessage} {p : Profile} {clientId : String}
    {cfg cfg' : Config B} {ls : List Label} (hreach : (clones B p clientId).Reachable cfg)
    (hidle : ∀ t, cfg.threads t = .idle) (hrun : (clones B p clientId).Run cfg ls cfg')
    (hback : ∀ t ∈ ls.map Label.thread, (cfg'.threads t).isIdle = true) :
    ∀ t, cfg'.threads t = .idle := by
  intro t
  by_cases ht : t ∈ ls.map Label.thread
  · exact Pc.isIdle_iff.mp (hback t ht)
  · rw [run_threads hreach hrun ht]
    exact hidle t

end StingerMqtt

import StingerMqtt.Concurrent.Moves

/-!
# The numbers of the calls

A call keeps its number from its invocation to its return, and no two threads
are ever in the same call.
-/

namespace StingerMqtt

open Kit Mock MockWorld

variable {B : Broadcast MqttMessage} {p : Profile} {cfg cfg' : Config B} {t : ThreadId}
  {move : Move}

/-- The call a step belongs to. -/
def Move.call : Move → CallId
  | .invoke call _ => call
  | .store call _ => call
  | .fanOut call _ => call
  | .lock call => call
  | .allocate call _ => call
  | .replay call => call
  | .atomic call _ => call
  | .ret call _ => call

/-- The place of a section in its call. -/
def Move.rank : Move → Nat
  | .invoke .. => 0
  | .store .. => 1
  | .fanOut .. => 2
  | .lock _ => 3
  | .allocate .. => 4
  | .replay _ => 5
  | .atomic .. => 6
  | .ret .. => 7

/-- The place of the next section of a thread. -/
def Pc.rank : Pc → Nat
  | .idle => 0
  | .store .. => 1
  | .fanOut .. => 2
  | .lock .. => 3
  | .allocate .. => 4
  | .replay .. => 5
  | .atomic .. => 6
  | .returning .. => 7

theorem Pc.start_call (call : CallId) (op : Op) :
    (Pc.start call op).call = some call ∧ 0 < (Pc.start call op).rank := by
  cases op with
  | simulateReceive m =>
      show (if m.retain then Pc.store call m else Pc.fanOut call m).call = some call ∧
        0 < (if m.retain then Pc.store call m else Pc.fanOut call m).rank
      split
      · exact ⟨rfl, Nat.succ_pos 0⟩
      · exact ⟨rfl, Nat.succ_pos 1⟩
  | subscribe => exact ⟨rfl, Nat.succ_pos 2⟩
  | _ => exact ⟨rfl, Nat.succ_pos 5⟩

/-- A step starts a new call, or is the next section of the call its thread is
in; afterwards the thread is in no call, or before a later section of it. -/
theorem Moves.thread (h : Moves p cfg t move cfg') :
    ∃ pc, cfg'.threads = Function.update cfg.threads t pc ∧
      (move.call = cfg.nextCall ∧ cfg'.nextCall = cfg.nextCall + 1 ∨
        (cfg.threads t).call = some move.call ∧ (cfg.threads t).rank = move.rank ∧
          cfg'.nextCall = cfg.nextCall) ∧
      ∀ call, pc.call = some call → call = move.call ∧ move.rank < pc.rank := by
  cases h with
  | invoke hidle hvalid =>
      refine ⟨_, rfl, .inl ⟨rfl, rfl⟩, ?_⟩
      intro call heq
      rw [(Pc.start_call _ _).1] at heq
      exact ⟨(Option.some_inj.mp heq).symm, (Pc.start_call _ _).2⟩
  | ret hpc => exact ⟨_, rfl, .inr ⟨by rw [hpc]; rfl, by rw [hpc]; rfl, rfl⟩, nofun⟩
  | store hpc | fanOutPanicked hpc | fanOut hpc | lockPanicked hpc | lock hpc
  | allocateOverflow hpc | allocate hpc | replay hpc | atomic hpc =>
      refine ⟨_, rfl, .inr ⟨by rw [hpc]; rfl, by rw [hpc]; rfl, rfl⟩, ?_⟩
      rintro call ⟨⟩
      exact ⟨rfl, by simp [Move.rank, Pc.rank]⟩

/-- No two threads are in one call, the next call has a new number, and the
sections of a call come in their order, each at most once. -/
structure Calls (ls : List Label) (cfg : Config B) : Prop where
  fresh : ∀ t call, (cfg.threads t).call = some call → call < cfg.nextCall
  distinct : ∀ t t' call, (cfg.threads t).call = some call → (cfg.threads t').call = some call →
    t = t'
  past : ∀ l ∈ ls, l.move.call < cfg.nextCall
  ahead : ∀ t, ∀ l ∈ ls, (cfg.threads t).call = some l.move.call →
    l.move.rank < (cfg.threads t).rank
  ordered : ls.Pairwise fun l l' => l.move.call = l'.move.call → l.move.rank < l'.move.rank

theorem Calls.new (clientId : String) : Calls [] (Config.new B clientId) where
  fresh t call h := by cases h
  distinct t t' call h := by cases h
  past l hl := absurd hl List.not_mem_nil
  ahead t l hl := absurd hl List.not_mem_nil
  ordered := .nil

theorem Moves.calls {ls : List Label} (hc : Calls ls cfg) (h : Moves p cfg t move cfg') :
    Calls (ls ++ [⟨t, move⟩]) cfg' := by
  obtain ⟨pc, hthreads, hcase, hself⟩ := h.thread
  -- the call of the step is of no other thread, and what it did before ranks lower
  have hcall : cfg.nextCall ≤ cfg'.nextCall ∧ move.call < cfg'.nextCall ∧
      (∀ t' ≠ t, (cfg.threads t').call ≠ some move.call) ∧
      ∀ l ∈ ls, l.move.call = move.call → l.move.rank < move.rank := by
    rcases hcase with ⟨hnew, hnext⟩ | ⟨hin, hrank, hnext⟩
    · rw [hnew, hnext]
      refine ⟨Nat.le_succ _, Nat.lt_succ_self _, ?_, ?_⟩
      · intro t' _ heq
        exact Nat.lt_irrefl _ (hc.fresh t' _ heq)
      · intro l hl heq
        have hpast := hc.past l hl
        rw [heq] at hpast
        exact absurd hpast (Nat.lt_irrefl _)
    · rw [hnext]
      refine ⟨Nat.le_refl _, hc.fresh t _ hin, ?_, ?_⟩
      · intro t' hne heq
        exact hne (hc.distinct t' t _ heq hin)
      · intro l hl heq
        rw [← hrank]
        exact hc.ahead t l hl (by rw [hin, heq])
  obtain ⟨hle, hlt, hothers, hbefore⟩ := hcall
  refine ⟨?_, ?_, ?_, ?_, ?_⟩
  · intro t' call heq
    rcases Config.threads_cases hthreads t' with ⟨-, hpc⟩ | ⟨-, hpc⟩
    · rw [hpc] at heq
      rw [(hself call heq).1]
      exact hlt
    · rw [hpc] at heq
      exact Nat.lt_of_lt_of_le (hc.fresh t' call heq) hle
  · intro t₁ t₂ call h₁ h₂
    rcases Config.threads_cases hthreads t₁ with ⟨rfl, hpc₁⟩ | ⟨hne₁, hpc₁⟩
    · rcases Config.threads_cases hthreads t₂ with ⟨rfl, -⟩ | ⟨hne₂, hpc₂⟩
      · rfl
      · rw [hpc₁] at h₁
        rw [hpc₂, (hself call h₁).1] at h₂
        exact absurd h₂ (hothers t₂ hne₂)
    · rcases Config.threads_cases hthreads t₂ with ⟨rfl, hpc₂⟩ | ⟨-, hpc₂⟩
      · rw [hpc₂] at h₂
        rw [hpc₁, (hself call h₂).1] at h₁
        exact absurd h₁ (hothers t₁ hne₁)
      · rw [hpc₁] at h₁
        rw [hpc₂] at h₂
        exact hc.distinct t₁ t₂ call h₁ h₂
  · intro l hl
    rcases List.mem_append.mp hl with hl | hl
    · exact Nat.lt_of_lt_of_le (hc.past l hl) hle
    · obtain rfl := List.mem_singleton.mp hl
      exact hlt
  · intro t' l hl heq
    rcases Config.threads_cases hthreads t' with ⟨-, hpc⟩ | ⟨hne, hpc⟩
    · rw [hpc] at heq ⊢
      obtain ⟨hcall, hrank⟩ := hself _ heq
      rcases List.mem_append.mp hl with hl | hl
      · exact Nat.lt_trans (hbefore l hl hcall) hrank
      · obtain rfl := List.mem_singleton.mp hl
        exact hrank
    · rw [hpc] at heq ⊢
      rcases List.mem_append.mp hl with hl | hl
      · exact hc.ahead t' l hl heq
      · obtain rfl := List.mem_singleton.mp hl
        exact absurd heq (hothers t' hne)
  · refine List.pairwise_append.mpr ⟨hc.ordered, List.pairwise_singleton _ _, ?_⟩
    intro l hl l' hl' heq
    obtain rfl := List.mem_singleton.mp hl'
    exact hbefore l hl heq

/-- The steps of a history, whichever thread took them. -/
def moves (ls : List Label) : List Move := ls.map Label.move

theorem moves_snoc (ls : List Label) (l : Label) : moves (ls ++ [l]) = moves ls ++ [l.move] :=
  List.map_append

/-- A section that a thread is still before is not in the history. -/
theorem Calls.not_done {ls : List Label} (hc : Calls ls cfg) (t : ThreadId)
    (hcall : (cfg.threads t).call = some move.call)
    (hrank : (cfg.threads t).rank ≤ move.rank) : move ∉ moves ls := by
  intro hmem
  obtain ⟨l, hl, rfl⟩ := List.mem_map.mp hmem
  exact absurd (hc.ahead t l hl hcall) (Nat.not_lt.mpr hrank)

theorem Calls.keys_nodup {ls : List Label} (hc : Calls ls cfg) :
    ((moves ls).map fun move => (move.call, move.rank)).Nodup := by
  unfold moves
  rw [List.map_map]
  refine List.pairwise_map.mpr (hc.ordered.imp ?_)
  intro l l' hlt heq
  obtain ⟨hcall, hrank⟩ := Prod.mk.inj heq
  exact absurd (hlt hcall) (by rw [hrank]; exact Nat.lt_irrefl _)

/-- One section of one call is one step of the history. -/
theorem Calls.unique {ls : List Label} (hc : Calls ls cfg) {move move' : Move}
    (h : move ∈ moves ls) (h' : move' ∈ moves ls) (hcall : move.call = move'.call)
    (hrank : move.rank = move'.rank) : move = move' :=
  List.inj_on_of_nodup_map hc.keys_nodup h h' (Prod.ext hcall hrank)

/-- Good configurations with numbered calls, as one invariant of the clones. -/
theorem clones_inductive {I : List Label → Config B → Prop} {clientId : String}
    (hnew : I [] (.new B clientId))
    (hstep : ∀ ls cfg l cfg', cfg.Good → Calls ls cfg → I ls cfg →
      Moves p cfg l.thread l.move cfg' → I (ls ++ [l]) cfg')
    {ls : List Label} (h : (clones B p clientId).Trace ls cfg) : I ls cfg := by
  let J : List Label → Config B → Prop := fun ls cfg => (cfg.Good ∧ Calls ls cfg) ∧ I ls cfg
  have hJ : (clones B p clientId).Inductive J := by
    refine ⟨?_, ?_⟩
    · rintro cfg rfl
      exact ⟨⟨.new clientId, .new clientId⟩, hnew⟩
    · rintro ls cfg l cfg' ⟨⟨hg, hc⟩, hI⟩ hstep'
      have hmoves := step_moves hg hstep'
      exact ⟨⟨hmoves.good hg, hmoves.calls hc⟩, hstep ls cfg l cfg' hg hc hI hmoves⟩
  exact (hJ.trace h).2

theorem clones_calls {clientId : String} {ls : List Label}
    (h : (clones B p clientId).Trace ls cfg) : Calls ls cfg := by
  refine clones_inductive (.new clientId) ?_ h
  intro ls cfg l cfg' _ hc _ hmoves
  exact hmoves.calls hc

end StingerMqtt

import StingerMqtt.Mock.IdExhaustion
import StingerMqtt.Concurrent.Sections
import StingerMqtt.Concurrent.Sequential

/-!
# What a panic leaves behind

The only thing in a client that panics by itself is the overflow of the id
counter in a debug build, inside a subscribe that holds two mutexes. From then on
the table of subscriptions is lost: every call that takes it panics too, nothing
is sent any more, and the other calls go on as before.
-/

namespace StingerMqtt

open Kit Mock MockWorld

variable {B : Broadcast MqttMessage} {p : Profile} {clientId : String}
  {cfg cfg' : Config B} {t : ThreadId} {move : Move}

/-! ## Where panics come from -/

/-- The table is poisoned by a subscribe whose counter has overflowed, and whoever
panics has met a poisoned table. -/
structure Origin (p : Profile) (ls : List Label) (cfg : Config B) : Prop where
  overflow : cfg.world.poisoned = true ↔ ∃ call, .allocate call .panicked ∈ moves ls
  counter : cfg.world.poisoned = true → p = .debug ∧ cfg.world.nextId.toNat + 1 = 2 ^ 32
  returning : ∀ t call, cfg.threads t = .returning call .panicked → cfg.world.poisoned = true
  returned : ∀ call, .ret call .panicked ∈ moves ls → cfg.world.poisoned = true

theorem Origin.new (p : Profile) (clientId : String) : Origin p [] (Config.new B clientId) where
  overflow := by simp [Config.new, moves]
  counter := by simp [Config.new]
  returning t call h := by cases h
  returned call h := absurd h List.not_mem_nil

/-- Only a counter at its last value overflows, and only in a debug build. -/
theorem addU32_none {id : UInt32} (h : p.addU32 id 1 = none) :
    p = .debug ∧ id.toNat + 1 = 2 ^ 32 := by
  cases p with
  | release => simp [Profile.addU32] at h
  | debug =>
      refine ⟨rfl, ?_⟩
      have hlt : id.toNat < 2 ^ 32 := id.toNat_lt
      have hge : ¬ id.toNat + 1 < 2 ^ 32 := by simpa [Profile.addU32] using h
      omega

/-- A step that neither allocates nor poisons, and lets no thread panic that has
not met a poisoned table. -/
theorem Origin.step {ls : List Label} (h : Origin p ls cfg) {pc : Pc}
    (hthreads : cfg'.threads = Function.update cfg.threads t pc)
    (hpoisoned : cfg'.world.poisoned = cfg.world.poisoned)
    (hnextId : cfg.world.poisoned = true → cfg'.world.nextId = cfg.world.nextId)
    (hmove : ∀ call, move ≠ .allocate call .panicked)
    (hpc : ∀ call, pc = .returning call .panicked → cfg.world.poisoned = true)
    (hret : ∀ call, move = .ret call .panicked → cfg.world.poisoned = true) :
    Origin p (ls ++ [⟨t, move⟩]) cfg' where
  overflow := by
    rw [hpoisoned, h.overflow]
    constructor
    · rintro ⟨call, hcall⟩
      exact ⟨call, by rw [moves_snoc]; exact List.mem_append_left _ hcall⟩
    · rintro ⟨call, hcall⟩
      rw [moves_snoc, List.mem_append, List.mem_singleton] at hcall
      rcases hcall with hcall | hcall
      · exact ⟨call, hcall⟩
      · exact absurd hcall.symm (hmove call)
  counter hp := by
    rw [hpoisoned] at hp
    rw [hnextId hp]
    exact h.counter hp
  returning t' call hreturning := by
    rw [hpoisoned]
    rcases Config.threads_cases hthreads t' with ⟨-, heq⟩ | ⟨-, heq⟩
    · exact hpc call (heq.symm.trans hreturning)
    · exact h.returning t' call (heq.symm.trans hreturning)
  returned call hmem := by
    rw [hpoisoned]
    rw [moves_snoc, List.mem_append, List.mem_singleton] at hmem
    rcases hmem with hmem | hmem
    · exact h.returned call hmem
    · exact hret call hmem.symm

/-- The calls in one section leave the counter alone. -/
theorem Effect.oneSection_nextId {w w' : MockWorld B} {op : Op} {out : Outcome Reply}
    (h : Effect p w op out w') (hone : op.oneSection = true) :
    w'.nextId = w.nextId ∧ (out = .panicked → w.poisoned = true) := by
  cases h with
  | unsubscribePanicked hp => exact ⟨rfl, fun _ => hp⟩
  | unsubscribed | quiet | clearedRetained | created | addedReceiver | droppedReceiver =>
      exact ⟨rfl, nofun⟩
  | _ => cases hone

theorem Moves.origin {ls : List Label} (hg : cfg.Good) (h : Origin p ls cfg)
    (hmoves : Moves p cfg t move cfg') : Origin p (ls ++ [⟨t, move⟩]) cfg' := by
  have hok := hg.threads t
  cases hmoves with
  | @invoke op hidle hvalid =>
      refine h.step rfl rfl (fun _ => rfl) nofun (fun call heq => ?_) nofun
      have hbusy := Pc.start_isBusy cfg.nextCall op
      rw [heq] at hbusy
      cases hbusy
  | store | fanOut | lock | replay =>
      exact h.step rfl rfl (fun _ => rfl) nofun nofun nofun
  | fanOutPanicked _ _ hp | lockPanicked _ _ hp =>
      exact h.step rfl rfl (fun _ => rfl) nofun (fun _ _ => hp) nofun
  | @allocateOverflow call topic tx iter hpc hadd =>
      obtain ⟨hp, hcounter⟩ := addU32_none hadd
      have hmem : Move.allocate call .panicked ∈ moves (ls ++ [⟨t, .allocate call .panicked⟩]) := by
        rw [moves_snoc]
        exact List.mem_append_right _ (List.mem_singleton_self _)
      exact ⟨⟨fun _ => ⟨call, hmem⟩, fun _ => rfl⟩, fun _ => ⟨hp, hcounter⟩, fun _ _ _ => rfl,
        fun _ _ => rfl⟩
  | allocate hpc hadd =>
      rw [hpc] at hok
      refine h.step rfl rfl (fun hp => ?_) nofun nofun nofun
      rw [hok.2.2] at hp
      cases hp
  | atomic hpc _ heffect =>
      obtain ⟨hnextId, hpanicked⟩ := heffect.oneSection_nextId (hg.oneSection hpc)
      refine h.step rfl (heffect.oneSection_shared (hg.oneSection hpc)).2 (fun _ => hnextId) nofun
        (fun _ heq => ?_) nofun
      cases heq
      exact hpanicked rfl
  | ret hpc =>
      refine h.step rfl rfl (fun _ => rfl) nofun nofun (fun _ heq => ?_)
      cases heq
      exact h.returning t _ hpc

theorem clones_origin {ls : List Label} (h : (clones B p clientId).Trace ls cfg) :
    Origin p ls cfg := by
  refine clones_inductive (.new p clientId) ?_ h
  intro ls cfg l cfg' hg _ horigin hmoves
  exact hmoves.origin hg horigin

/-! ## What comes after -/

/-- The calls that take the table of subscriptions. -/
def Op.takesTable : Op → Bool
  | .subscribe .. => true
  | .unsubscribe _ => true
  | .simulateReceive _ => true
  | _ => false

/-- A thread in the call `op` is going to panic if and only if the call takes the
table. -/
def Pc.Doomed (op : Op) : Pc → Prop
  | .store .. => op.takesTable = true
  | .fanOut .. => op.takesTable = true
  | .lock .. => op.takesTable = true
  | .atomic _ op' => op' = op
  | .returning _ out => out = .panicked ↔ op.takesTable = true
  | _ => True

theorem Pc.start_doomed (call : CallId) (op : Op) : (Pc.start call op).Doomed op := by
  cases op with
  | simulateReceive m =>
      show (if m.retain then Pc.store call m else Pc.fanOut call m).Doomed _
      split <;> rfl
  | _ => rfl

/-- On a poisoned table a call in one section panics if and only if it takes it. -/
theorem Effect.panics {w w' : MockWorld B} {op : Op} {out : Outcome Reply}
    (h : Effect p w op out w') (hone : op.oneSection = true) (hp : w.poisoned = true) :
    (out = .panicked ↔ op.takesTable = true) ∧ w'.table = w.table := by
  cases h with
  | unsubscribePanicked => exact ⟨⟨fun _ => rfl, fun _ => rfl⟩, rfl⟩
  | unsubscribed hhealthy =>
      rw [hp] at hhealthy
      cases hhealthy
  | quiet hop =>
      cases op with
      | unsubscribe => cases hop
      | subscribe | simulateReceive => cases hone
      | _ => exact ⟨⟨nofun, nofun⟩, rfl⟩
  | clearedRetained | created | addedReceiver | droppedReceiver =>
      exact ⟨⟨nofun, nofun⟩, rfl⟩
  | _ => cases hone

/-- What has become of a poisoned client `cfg₀` after the history `ls`. -/
structure Aftermath (cfg₀ : Config B) (ls : List Label) (cfg : Config B) : Prop where
  poisoned : cfg.world.poisoned = true
  table : cfg.world.table = cfg₀.world.table
  nextId : cfg.world.nextId = cfg₀.world.nextId
  sent : ∀ c, cfg.world.channels.sent c = cfg₀.world.channels.sent c
  pending : ∀ t call op, (cfg.threads t).call = some call → .invoke call op ∈ moves ls →
    (cfg.threads t).Doomed op
  ended : ∀ call op out, .invoke call op ∈ moves ls → .ret call out ∈ moves ls →
    (out = .panicked ↔ op.takesTable = true)

section

variable {cfg₀ : Config B} {ls₀ ls : List Label}

/-- A step that leaves a poisoned client alone, and its call as it has to end. -/
theorem Aftermath.step (h : Aftermath cfg₀ ls cfg) (hc : Calls (ls₀ ++ ls ++ [⟨t, move⟩]) cfg')
    (hothers : ∀ t' ≠ t, (cfg.threads t').call ≠ some move.call) {pc : Pc}
    (hthreads : cfg'.threads = Function.update cfg.threads t pc)
    (hpoisoned : cfg'.world.poisoned = true) (htable : cfg'.world.table = cfg.world.table)
    (hnextId : cfg'.world.nextId = cfg.world.nextId)
    (hsent : ∀ c, cfg'.world.channels.sent c = cfg.world.channels.sent c)
    (hpc : ∀ call op, pc.call = some call → .invoke call op ∈ moves (ls ++ [⟨t, move⟩]) →
      pc.Doomed op)
    (hret : ∀ call op out, move = .ret call out → .invoke call op ∈ moves ls →
      (out = .panicked ↔ op.takesTable = true)) :
    Aftermath cfg₀ (ls ++ [⟨t, move⟩]) cfg' where
  poisoned := hpoisoned
  table := htable.trans h.table
  nextId := hnextId.trans h.nextId
  sent c := (hsent c).trans (h.sent c)
  pending t' call op hcall hop := by
    rcases Config.threads_cases hthreads t' with ⟨-, heq⟩ | ⟨hne, heq⟩
    · rw [heq] at hcall ⊢
      exact hpc call op hcall hop
    · rw [heq] at hcall ⊢
      refine h.pending t' call op hcall (mem_moves_of_ne hop fun hsame => ?_)
      have hsame : call = move.call := hsame
      rw [hsame] at hcall
      exact hothers t' hne hcall
  ended call op out hop hout := by
    rw [moves_snoc, List.mem_append, List.mem_singleton] at hout
    rcases hout with hout | hout
    · -- nothing comes after a return, so this step is of another call
      obtain ⟨l, hl, hmove⟩ := List.mem_map.mp hout
      have hlast := (List.pairwise_append.mp hc.ordered).2.2 l (List.mem_append_right _ hl)
        ⟨t, move⟩ (List.mem_singleton_self _)
      have hne : call ≠ move.call := by
        intro hsame
        have hlt : 7 < move.rank := by
          have hlt := hlast (by rw [hmove]; exact hsame)
          rwa [hmove] at hlt
        have hle := move.rank_le
        omega
      exact h.ended call op out (mem_moves_of_ne hop hne) hout
    · refine hret call op out hout.symm ?_
      rw [moves_snoc, List.mem_append, List.mem_singleton] at hop
      rcases hop with hop | hop
      · exact hop
      · rw [← hout] at hop
        cases hop

/-- A poisoned client stays poisoned, and a call that takes the table panics. -/
theorem Moves.aftermath (hg : cfg.Good) (hc : Calls (ls₀ ++ ls) cfg)
    (hc' : Calls (ls₀ ++ ls ++ [⟨t, move⟩]) cfg') (h : Aftermath cfg₀ ls cfg)
    (hmoves : Moves p cfg t move cfg') : Aftermath cfg₀ (ls ++ [⟨t, move⟩]) cfg' := by
  have hothers := hmoves.others hc
  have hok := hg.threads t
  have hp := h.poisoned
  -- what the call of `t` is doomed to, if it was made since
  have hdoomed : ∀ call op, (cfg.threads t).call = some call →
      0 < move.rank → .invoke call op ∈ moves (ls ++ [⟨t, move⟩]) →
      (cfg.threads t).Doomed op := by
    intro call op hcall hrank hop
    rw [moves_snoc, List.mem_append, List.mem_singleton] at hop
    refine h.pending t call op hcall (hop.resolve_right fun heq => ?_)
    have heq : Move.invoke call op = move := heq
    rw [← heq] at hrank
    exact absurd hrank (Nat.lt_irrefl 0)
  cases hmoves with
  | @invoke op hidle hvalid =>
      have hkept := h.step hc' hothers rfl hp rfl rfl fun _ => rfl
      apply hkept
      · intro call op' hcall hop
        rw [(Pc.start_call _ _).1] at hcall
        cases hcall
        have hmade : Move.invoke cfg.nextCall op ∈
            moves (ls₀ ++ ls ++ [⟨t, .invoke cfg.nextCall op⟩]) := by
          rw [moves_snoc]
          exact List.mem_append_right _ (List.mem_singleton_self _)
        have hmade' : Move.invoke cfg.nextCall op' ∈
            moves (ls₀ ++ ls ++ [⟨t, .invoke cfg.nextCall op⟩]) := by
          rw [List.append_assoc]
          unfold moves at hop ⊢
          rw [List.map_append]
          exact List.mem_append_right _ hop
        have heq : Move.invoke cfg.nextCall op = .invoke cfg.nextCall op' :=
          hc'.unique hmade hmade' rfl rfl
        cases heq
        exact Pc.start_doomed _ _
      · intro _ _ _ heq
        cases heq
  | @store call m hpc =>
      have hkept := h.step hc' hothers rfl hp rfl rfl fun _ => rfl
      apply hkept
      · intro call' op hcall hop
        have hcall' : (cfg.threads t).call = some call' := by
          rw [hpc]
          exact hcall
        have htakes := hdoomed call' op hcall' (Nat.succ_pos _) hop
        rw [hpc] at htakes
        exact htakes
      · intro _ _ _ heq
        cases heq
  | fanOutPanicked hpc | lockPanicked hpc =>
      have hkept := h.step hc' hothers rfl hp rfl rfl fun _ => rfl
      apply hkept
      · intro call' op hcall hop
        have hcall' : (cfg.threads t).call = some call' := by
          rw [hpc]
          exact hcall
        have htakes := hdoomed call' op hcall' (Nat.succ_pos _) hop
        rw [hpc] at htakes
        exact ⟨fun _ => htakes, fun _ => rfl⟩
      · intro _ _ _ heq
        cases heq
  | fanOut _ _ hhealthy | lock _ _ hhealthy =>
      rw [hp] at hhealthy
      cases hhealthy
  | allocateOverflow hpc | allocate hpc | replay hpc =>
      rw [hpc] at hok
      have hhealthy := hok.2.2
      rw [hp] at hhealthy
      cases hhealthy
  | @atomic call op out w' hpc _ heffect =>
      have hone := hg.oneSection hpc
      obtain ⟨hpanics, htable⟩ := heffect.panics hone hp
      have hsends : op.sends p cfg.world = [] := by
        cases op with
        | subscribe | simulateReceive => cases hone
        | _ => rfl
      have hsent : ∀ c, w'.channels.sent c = cfg.world.channels.sent c := by
        intro c
        rw [heffect.sent hg.sound c, hsends]
        exact List.append_nil _
      have hkept := h.step hc' hothers rfl ((heffect.oneSection_shared hone).2.trans hp) htable
        (heffect.oneSection_nextId hone).1 hsent
      apply hkept
      · intro call' op' hcall hop
        have hcall' : (cfg.threads t).call = some call' := by
          rw [hpc]
          exact hcall
        have hsame := hdoomed call' op' hcall' (Nat.succ_pos _) hop
        rw [hpc] at hsame
        obtain rfl : op = op' := hsame
        exact hpanics
      · intro _ _ _ heq
        cases heq
  | @ret call out hpc =>
      have hkept := h.step hc' hothers rfl hp rfl rfl fun _ => rfl
      apply hkept
      · intro _ _ hcall
        cases hcall
      · intro call' op out' heq hop
        cases heq
        have hcall : (cfg.threads t).call = some call := by
          rw [hpc]
          rfl
        have hiff := h.pending t call op hcall hop
        rw [hpc] at hiff
        exact hiff

theorem run_aftermath (h₀ : (clones B p clientId).Trace ls₀ cfg₀)
    (hp : cfg₀.world.poisoned = true) (hrun : (clones B p clientId).Run cfg₀ ls cfg) :
    Aftermath cfg₀ ls cfg := by
  induction hrun with
  | nil =>
      exact ⟨hp, rfl, rfl, fun _ => rfl, fun t call op _ hop => absurd hop List.not_mem_nil,
        fun call op out hop => absurd hop List.not_mem_nil⟩
  | snoc hrun hstep ih =>
      have htrace := h₀.append hrun
      have hg := clones_good ⟨_, htrace⟩
      exact (step_moves hg hstep).aftermath hg (clones_calls htrace)
        (clones_calls (htrace.snoc hstep)) ih

end

/-- Panics come from one place and take one thing with them. A call panics only
once a subscribe of a debug build has overflowed the counter; from then on the
table, the counter and the channels stay as they are, and of the calls made since
exactly those panic that take the table. -/
theorem panics_exactly {ls₀ ls : List Label} {cfg₀ cfg : Config B}
    (h₀ : (clones B p clientId).Trace ls₀ cfg₀) (hrun : (clones B p clientId).Run cfg₀ ls cfg) :
    ((∃ call, .ret call .panicked ∈ moves ls₀) → cfg₀.world.poisoned = true) ∧
      (cfg₀.world.poisoned = true ↔ ∃ call, .allocate call .panicked ∈ moves ls₀) ∧
      (cfg₀.world.poisoned = true → p = .debug ∧ cfg₀.world.nextId.toNat + 1 = 2 ^ 32 ∧
        cfg.world.poisoned = true ∧ cfg.world.table = cfg₀.world.table ∧
        cfg.world.nextId = cfg₀.world.nextId ∧
        (∀ c, cfg.world.channels.sent c = cfg₀.world.channels.sent c) ∧
        ∀ call op out, .invoke call op ∈ moves ls → .ret call out ∈ moves ls →
          (out = .panicked ↔ op.takesTable = true)) := by
  have horigin := clones_origin h₀
  refine ⟨fun ⟨call, hret⟩ => horigin.returned call hret, horigin.overflow, fun hp => ?_⟩
  obtain ⟨hdebug, hcounter⟩ := horigin.counter hp
  have hafter := run_aftermath h₀ hp hrun
  exact ⟨hdebug, hcounter, hafter.poisoned, hafter.table, hafter.nextId, hafter.sent, hafter.ended⟩

/-! ## The counter does overflow -/

/-- A debug build gets there, with nobody in a call. -/
theorem poisoned_reached (B : Broadcast MqttMessage) (clientId : String) :
    ∃ ls, ∃ cfg : Config B, (clones B .debug clientId).Trace ls cfg ∧
      cfg.world.poisoned = true ∧ cfg.holder = none ∧ ∀ t, cfg.threads t = .idle := by
  obtain ⟨w, ⟨tr, htrace⟩, hmax⟩ := maxId_reached B .debug clientId
  have hlocks := (mock_sound ⟨tr, htrace⟩).locks
  obtain ⟨w₁, hw₁⟩ : ∃ w₁, w₁ = (Op.exec .debug (.channel 4) w).2 := ⟨_, rfl⟩
  have hchannel : (mock B .debug clientId).step w
      ⟨.channel 4, (Op.exec .debug (.channel 4) w).1⟩ w₁ := by
    rw [hw₁]
    exact ⟨Nat.zero_lt_succ 3, rfl⟩
  have hnextId : w₁.nextId = maxId := by
    rw [hw₁]
    exact hmax
  have hvalid : (Op.subscribe "a" .atMostOnce w.channels.next (.stored _ _)).Valid w₁ := by
    rw [hw₁]
    exact Nat.lt_succ_self _
  have heffect := exec_effect (p := .debug) (w := w₁) (by rw [hw₁]; exact hlocks.setChannels _)
    (.subscribe "a" .atMostOnce w.channels.next (.stored _ _))
  obtain ⟨out, w₂, hexec⟩ : ∃ out w₂,
      Op.exec .debug (.subscribe "a" .atMostOnce w.channels.next (.stored _ _)) w₁ = (out, w₂) :=
    ⟨_, _, rfl⟩
  rw [hexec] at heffect
  have hsubscribe : (mock B .debug clientId).step w₁
      ⟨.subscribe "a" .atMostOnce w.channels.next (.stored _ _), out⟩ w₂ := ⟨hvalid, hexec⟩
  obtain ⟨ls, cfg, hclones, hworld, hfree, hidle, -, -⟩ :=
    mock_clones 0 ((htrace.snoc hchannel).snoc hsubscribe)
  refine ⟨ls, cfg, hclones, ?_, hfree, hidle⟩
  rw [hworld]
  -- the last subscribe has no number left
  cases heffect with
  | subscribePanicked hp => exact hp
  | subscribeOverflow => rfl
  | subscribed _ hadd =>
      rw [hnextId] at hadd
      cases hadd
  | quiet hop => cases hop

/-- A call in one section, made and ended by a thread that nobody interrupts. -/
theorem run_atomic (hidle : cfg.threads t = .idle) (hfree : cfg.holder = none) {op : Op}
    (hvalid : op.Valid cfg.world) (hone : op.oneSection = true) :
    ∃ out cfg', (clones B p clientId).Run cfg
      [⟨t, .invoke cfg.nextCall op⟩, ⟨t, .atomic cfg.nextCall op⟩, ⟨t, .ret cfg.nextCall out⟩]
      cfg' := by
  have hstart : Pc.start cfg.nextCall op = .atomic cfg.nextCall op := by
    cases op with
    | subscribe | simulateReceive => cases hone
    | _ => rfl
  have hpc : (cfg.invoke t op).threads t = .atomic cfg.nextCall op :=
    (Config.goto_threads_self _ _).trans hstart
  have hmove : ((cfg.invoke t op).threads t).move p (cfg.invoke t op).world =
      some (.atomic cfg.nextCall op) := by
    rw [hpc]
    rfl
  obtain ⟨cfg₁, hadvance⟩ := advance_of hmove fun _ => hfree
  have hpc₁ := ((advance_inv hadvance).atomic hpc).2
  generalize (op.exec p (cfg.invoke t op).world).1 = out at hpc₁
  have hlast : cfg₁.advance p t = some (.ret cfg.nextCall out, cfg₁.goto t .idle) := by
    unfold Config.advance
    rw [hpc₁]
  refine ⟨out, cfg₁.goto t .idle, .cons (.inl ⟨op, rfl, hidle, hvalid, rfl⟩)
    (.cons (.inr hadvance) ?_)⟩
  exact .single (.inr hlast)

theorem panics_exactly_reached :
    ∃ ls₀ cfg₀ ls cfg call, (clones (.log MqttMessage) .debug "mock-client").Trace ls₀ cfg₀ ∧
      (clones (.log MqttMessage) .debug "mock-client").Run cfg₀ ls cfg ∧
      cfg₀.world.poisoned = true ∧ .ret call .panicked ∈ moves ls := by
  obtain ⟨ls₀, cfg₀, h₀, hp, hfree, hidle⟩ := poisoned_reached (.log MqttMessage) "mock-client"
  have hcall : ∃ out cfg, (clones (.log MqttMessage) .debug "mock-client").Run cfg₀
      [⟨0, .invoke cfg₀.nextCall (.unsubscribe "a")⟩,
        ⟨0, .atomic cfg₀.nextCall (.unsubscribe "a")⟩, ⟨0, .ret cfg₀.nextCall out⟩] cfg :=
    run_atomic (hidle 0) hfree trivial rfl
  obtain ⟨out, cfg, hrun⟩ := hcall
  obtain ⟨-, -, hafter⟩ := panics_exactly h₀ hrun
  obtain ⟨-, -, -, -, -, -, hended⟩ := hafter hp
  have hout : out = .panicked :=
    (hended cfg₀.nextCall (.unsubscribe "a") out (by simp [moves]) (by simp [moves])).mpr rfl
  rw [hout] at hrun
  exact ⟨ls₀, cfg₀, _, cfg, cfg₀.nextCall, h₀, hrun, hp, by simp [moves]⟩

end StingerMqtt

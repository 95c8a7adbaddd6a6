import StingerMqtt.Concurrent.Calls
import StingerMqtt.Concurrent.Schedule

/-!
# Subscription ids under concurrency

Each subscribe draws at most one id, draws happen one after the other, and a
thread that has drawn an id keeps it until it returns it. So with fewer than
`2 ^ 32 - 1` subscribes the ids drawn are `1, 2, 3, …`, in this order.
-/

namespace StingerMqtt

open Kit Mock MockWorld

variable {B : Broadcast MqttMessage} {p : Profile} {cfg cfg' : Config B} {t : ThreadId}
  {move : Move} {ls : List Label}

/-! ## Calls and ids in a history -/

/-- The subscribe a step invokes. -/
def Move.subscribes : Move → Option CallId
  | .invoke call (.subscribe ..) => some call
  | _ => none

/-- The id a step draws, with its subscribe. -/
def Move.draws : Move → Option (CallId × UInt32)
  | .allocate call (.returned id) => some (call, id)
  | _ => none

/-- The id an outcome hands to the caller. -/
def Outcome.subscriptionId : Outcome Reply → Option UInt32
  | .returned reply => reply.subscriptionId
  | .panicked => none

/-- The id a step returns, with its subscribe. -/
def Move.returns : Move → Option (CallId × UInt32)
  | .ret call out => (Outcome.subscriptionId out).map fun id => (call, id)
  | _ => none

/-- The subscribes invoked in a history. -/
def subscribeCalls (ls : List Label) : List CallId := ls.filterMap fun l => l.move.subscribes

/-- The ids drawn in a history. -/
def drawn (ls : List Label) : List (CallId × UInt32) := ls.filterMap fun l => l.move.draws

/-- The ids returned to callers in a history. -/
def returned (ls : List Label) : List (CallId × UInt32) := ls.filterMap fun l => l.move.returns

theorem filterMap_snoc {α : Type} (f : Move → Option α) (ls : List Label) (l : Label) :
    (ls ++ [l]).filterMap (fun l => f l.move) =
      ls.filterMap (fun l => f l.move) ++ (f l.move).toList := by
  rw [List.filterMap_append]
  cases h : f l.move <;> simp [h]

theorem subscribeCalls_snoc (ls : List Label) (l : Label) :
    subscribeCalls (ls ++ [l]) = subscribeCalls ls ++ l.move.subscribes.toList :=
  filterMap_snoc Move.subscribes ls l

theorem drawn_snoc (ls : List Label) (l : Label) :
    drawn (ls ++ [l]) = drawn ls ++ l.move.draws.toList :=
  filterMap_snoc Move.draws ls l

theorem returned_snoc (ls : List Label) (l : Label) :
    returned (ls ++ [l]) = returned ls ++ l.move.returns.toList :=
  filterMap_snoc Move.returns ls l

theorem mem_subscribeCalls {call : CallId} (h : call ∈ subscribeCalls ls) :
    ∃ l ∈ ls, l.move.call = call := by
  obtain ⟨⟨t, move⟩, hl, heq⟩ := List.mem_filterMap.mp h
  refine ⟨⟨t, move⟩, hl, ?_⟩
  cases move with
  | invoke call' op =>
      cases op with
      | subscribe => exact Option.some_inj.mp heq
      | _ => cases heq
  | _ => cases heq

/-! ## Each subscribe draws and returns once -/

/-- The subscribe a thread is in that has not drawn its id yet. -/
def Pc.awaitsId : Pc → Option CallId
  | .lock call .. => some call
  | .allocate call .. => some call
  | _ => none

/-- The id a thread has drawn and not returned yet. -/
def Pc.hasId : Pc → Option (CallId × UInt32)
  | .replay call _ _ _ id => some (call, id)
  | .returning call out => (Outcome.subscriptionId out).map fun id => (call, id)
  | _ => none

/-- Which subscribe drew which id, and which have returned theirs. -/
structure DrawnOnce (ls : List Label) (cfg : Config B) : Prop where
  invoked : ∀ x ∈ drawn ls, x.1 ∈ subscribeCalls ls
  once : ((drawn ls).map Prod.fst).Nodup
  awaits : ∀ t call, (cfg.threads t).awaitsId = some call →
    call ∈ subscribeCalls ls ∧ call ∉ (drawn ls).map Prod.fst
  holds : ∀ t x, (cfg.threads t).hasId = some x →
    x ∈ drawn ls ∧ x.1 ∉ (returned ls).map Prod.fst
  returned_drawn : ∀ x ∈ returned ls, x ∈ drawn ls
  returned_once : ((returned ls).map Prod.fst).Nodup

theorem DrawnOnce.new (clientId : String) : DrawnOnce [] (Config.new B clientId) where
  invoked x hx := absurd hx List.not_mem_nil
  once := .nil
  awaits t call h := by cases h
  holds t x h := by cases h
  returned_drawn x hx := absurd hx List.not_mem_nil
  returned_once := .nil

/-- A step that neither invokes a subscribe nor draws or returns an id. -/
theorem DrawnOnce.quiet (h : DrawnOnce ls cfg) {pc : Pc}
    (hthreads : cfg'.threads = Function.update cfg.threads t pc)
    (hsub : move.subscribes = none) (hdraw : move.draws = none) (hret : move.returns = none)
    (hawaits : pc.awaitsId = none ∨ pc.awaitsId = (cfg.threads t).awaitsId)
    (hholds : pc.hasId = none ∨ pc.hasId = (cfg.threads t).hasId) :
    DrawnOnce (ls ++ [⟨t, move⟩]) cfg' := by
  have hsubs : subscribeCalls (ls ++ [⟨t, move⟩]) = subscribeCalls ls := by
    rw [subscribeCalls_snoc, hsub, Option.toList_none, List.append_nil]
  have hdrawn : drawn (ls ++ [⟨t, move⟩]) = drawn ls := by
    rw [drawn_snoc, hdraw, Option.toList_none, List.append_nil]
  have hreturned : returned (ls ++ [⟨t, move⟩]) = returned ls := by
    rw [returned_snoc, hret, Option.toList_none, List.append_nil]
  refine ⟨?_, ?_, ?_, ?_, ?_, ?_⟩
  · rw [hdrawn, hsubs]
    exact h.invoked
  · rw [hdrawn]
    exact h.once
  · intro t' call heq
    rw [hdrawn, hsubs]
    rcases Config.threads_cases hthreads t' with ⟨rfl, hpc⟩ | ⟨-, hpc⟩
    · rw [hpc] at heq
      rcases hawaits with hnone | hsame
      · rw [hnone] at heq
        cases heq
      · exact h.awaits t' call (hsame ▸ heq)
    · exact h.awaits t' call (hpc ▸ heq)
  · intro t' x heq
    rw [hdrawn, hreturned]
    rcases Config.threads_cases hthreads t' with ⟨rfl, hpc⟩ | ⟨-, hpc⟩
    · rw [hpc] at heq
      rcases hholds with hnone | hsame
      · rw [hnone] at heq
        cases heq
      · exact h.holds t' x (hsame ▸ heq)
    · exact h.holds t' x (hpc ▸ heq)
  · rw [hdrawn, hreturned]
    exact h.returned_drawn
  · rw [hreturned]
    exact h.returned_once

/-- A thread that has not drawn yet, or holds an id, is in that call. -/
theorem Pc.call_of_awaitsId {pc : Pc} {call : CallId} (h : pc.awaitsId = some call) :
    pc.call = some call := by
  cases pc with
  | lock | allocate => exact h
  | _ => cases h

theorem Pc.call_of_hasId {pc : Pc} {x : CallId × UInt32} (h : pc.hasId = some x) :
    pc.call = some x.1 := by
  cases pc with
  | replay =>
      cases h
      rfl
  | returning call out =>
      obtain ⟨id, -, rfl⟩ := Option.map_eq_some_iff.mp h
      rfl
  | _ => cases h

/-- A call in one section hands out no id. -/
theorem Effect.oneSection_id {w w' : MockWorld B} {op : Op} {out : Outcome Reply}
    (h : Effect p w op out w') (hone : op.oneSection = true) :
    Outcome.subscriptionId out = none := by
  cases h with
  | quiet _ hreply => exact hreply
  | unsubscribed | unsubscribePanicked | clearedRetained | created | addedReceiver
  | droppedReceiver => rfl
  | _ => simp [Op.oneSection] at hone

theorem DrawnOnce.invoke (hc : Calls ls cfg) (h : DrawnOnce ls cfg) (op : Op) :
    DrawnOnce (ls ++ [⟨t, .invoke cfg.nextCall op⟩]) (cfg.invoke t op) := by
  cases op with
  | subscribe topic qos tx iter =>
      let l : Label := ⟨t, .invoke cfg.nextCall (.subscribe topic qos tx iter)⟩
      have hsubs : subscribeCalls (ls ++ [l]) = subscribeCalls ls ++ [cfg.nextCall] :=
        subscribeCalls_snoc ls l
      have hdrawn : drawn (ls ++ [l]) = drawn ls := (drawn_snoc ls l).trans (List.append_nil _)
      have hreturned : returned (ls ++ [l]) = returned ls :=
        (returned_snoc ls l).trans (List.append_nil _)
      have hthreads : (cfg.invoke t (.subscribe topic qos tx iter)).threads =
          Function.update cfg.threads t (.lock cfg.nextCall topic tx iter) := rfl
      -- the number of this subscribe is new
      have hnew : cfg.nextCall ∉ (drawn ls).map Prod.fst := by
        intro hmem
        obtain ⟨x, hx, hcall⟩ := List.mem_map.mp hmem
        obtain ⟨l, hl, hlcall⟩ := mem_subscribeCalls (h.invoked x hx)
        have hpast := hc.past l hl
        rw [hlcall, hcall] at hpast
        exact Nat.lt_irrefl _ hpast
      refine ⟨?_, ?_, ?_, ?_, ?_, ?_⟩
      · intro x hx
        rw [hdrawn] at hx
        rw [hsubs]
        exact List.mem_append_left _ (h.invoked x hx)
      · rw [hdrawn]
        exact h.once
      · intro t' call heq
        rw [hsubs, hdrawn]
        rcases Config.threads_cases hthreads t' with ⟨-, hpc⟩ | ⟨-, hpc⟩
        · rw [hpc] at heq
          obtain rfl : cfg.nextCall = call := Option.some_inj.mp heq
          exact ⟨List.mem_append_right _ (List.mem_singleton_self _), hnew⟩
        · rw [hpc] at heq
          exact ⟨List.mem_append_left _ (h.awaits t' call heq).1, (h.awaits t' call heq).2⟩
      · intro t' x heq
        rw [hdrawn, hreturned]
        rcases Config.threads_cases hthreads t' with ⟨-, hpc⟩ | ⟨-, hpc⟩
        · rw [hpc] at heq
          cases heq
        · rw [hpc] at heq
          exact h.holds t' x heq
      · rw [hdrawn, hreturned]
        exact h.returned_drawn
      · rw [hreturned]
        exact h.returned_once
  | simulateReceive m =>
      refine h.quiet rfl rfl rfl rfl (.inl ?_) (.inl ?_)
      · show (if m.retain then Pc.store cfg.nextCall m
          else Pc.fanOut cfg.nextCall m).awaitsId = none
        split <;> rfl
      · show (if m.retain then Pc.store cfg.nextCall m else Pc.fanOut cfg.nextCall m).hasId = none
        split <;> rfl
  | _ => exact h.quiet rfl rfl rfl rfl (.inl rfl) (.inl rfl)

theorem DrawnOnce.allocate (hc : Calls ls cfg) (h : DrawnOnce ls cfg) {call : CallId}
    {topic : String} {tx : ChannelId} {iter : IterOrder String MqttMessage} {id : UInt32}
    (hpc : cfg.threads t = .allocate call topic tx iter)
    (hthreads : cfg'.threads = Function.update cfg.threads t (.replay call topic tx iter id)) :
    DrawnOnce (ls ++ [⟨t, .allocate call (.returned id)⟩]) cfg' := by
  let l : Label := ⟨t, .allocate call (.returned id)⟩
  obtain ⟨hinvoked, hnew⟩ := h.awaits t call (by rw [hpc]; rfl)
  have hin : (cfg.threads t).call = some call := by rw [hpc]; rfl
  have hsubs : subscribeCalls (ls ++ [l]) = subscribeCalls ls :=
    (subscribeCalls_snoc ls l).trans (List.append_nil _)
  have hdrawn : drawn (ls ++ [l]) = drawn ls ++ [(call, id)] := drawn_snoc ls l
  have hkeys : (drawn (ls ++ [l])).map Prod.fst = (drawn ls).map Prod.fst ++ [call] := by
    rw [hdrawn, List.map_append]
    rfl
  have hreturned : returned (ls ++ [l]) = returned ls :=
    (returned_snoc ls l).trans (List.append_nil _)
  refine ⟨?_, ?_, ?_, ?_, ?_, ?_⟩
  · intro x hx
    rw [hsubs]
    rw [hdrawn] at hx
    rcases List.mem_append.mp hx with hx | hx
    · exact h.invoked x hx
    · obtain rfl := List.mem_singleton.mp hx
      exact hinvoked
  · rw [hkeys, ← List.concat_eq_append]
    exact h.once.concat hnew
  · intro t' call' heq
    rw [hsubs, hkeys]
    rcases Config.threads_cases hthreads t' with ⟨-, hpc'⟩ | ⟨ht, hpc'⟩
    · rw [hpc'] at heq
      cases heq
    · rw [hpc'] at heq
      refine ⟨(h.awaits t' call' heq).1, ?_⟩
      intro hmem
      rcases List.mem_append.mp hmem with hmem | hmem
      · exact (h.awaits t' call' heq).2 hmem
      · -- two threads would be in one call
        obtain rfl := List.mem_singleton.mp hmem
        exact ht (hc.distinct t' t call' (Pc.call_of_awaitsId heq) hin)
  · intro t' x heq
    rw [hdrawn, hreturned]
    rcases Config.threads_cases hthreads t' with ⟨-, hpc'⟩ | ⟨ht, hpc'⟩
    · rw [hpc'] at heq
      obtain rfl := Option.some_inj.mp heq
      refine ⟨List.mem_append_right _ (List.mem_singleton_self _), fun hmem => hnew ?_⟩
      obtain ⟨x, hx, hcall⟩ := List.mem_map.mp hmem
      exact List.mem_map.mpr ⟨x, h.returned_drawn x hx, hcall⟩
    · rw [hpc'] at heq
      exact ⟨List.mem_append_left _ (h.holds t' x heq).1, (h.holds t' x heq).2⟩
  · intro x hx
    rw [hreturned] at hx
    rw [hdrawn]
    exact List.mem_append_left _ (h.returned_drawn x hx)
  · rw [hreturned]
    exact h.returned_once

theorem DrawnOnce.ret (hc : Calls ls cfg) (h : DrawnOnce ls cfg) {call : CallId}
    {out : Outcome Reply} (hpc : cfg.threads t = .returning call out) :
    DrawnOnce (ls ++ [⟨t, .ret call out⟩]) (cfg.goto t .idle) := by
  cases hout : Outcome.subscriptionId out with
  | none =>
      refine h.quiet rfl rfl rfl ?_ (.inl rfl) (.inl rfl)
      show (Outcome.subscriptionId out).map _ = none
      rw [hout]
      rfl
  | some id =>
      let l : Label := ⟨t, .ret call out⟩
      have hret : (Move.ret call out).returns = some (call, id) := by
        show (Outcome.subscriptionId out).map _ = _
        rw [hout]
        rfl
      have hin : (cfg.threads t).call = some call := by rw [hpc]; rfl
      have hhas : (cfg.threads t).hasId = some (call, id) := by
        rw [hpc]
        exact hret
      obtain ⟨hmem, hnew⟩ := h.holds t (call, id) hhas
      have hsubs : subscribeCalls (ls ++ [l]) = subscribeCalls ls :=
        (subscribeCalls_snoc ls l).trans (List.append_nil _)
      have hdrawn : drawn (ls ++ [l]) = drawn ls := (drawn_snoc ls l).trans (List.append_nil _)
      have hreturned : returned (ls ++ [l]) = returned ls ++ [(call, id)] := by
        rw [returned_snoc, hret]
        rfl
      have hkeys : (returned (ls ++ [l])).map Prod.fst = (returned ls).map Prod.fst ++ [call] := by
        rw [hreturned, List.map_append]
        rfl
      refine ⟨?_, ?_, ?_, ?_, ?_, ?_⟩
      · rw [hdrawn, hsubs]
        exact h.invoked
      · rw [hdrawn]
        exact h.once
      · intro t' call' heq
        rw [hdrawn, hsubs]
        rcases Config.goto_threads_cases t' with ⟨-, hpc'⟩ | ⟨-, hpc'⟩
        · rw [hpc'] at heq
          cases heq
        · rw [hpc'] at heq
          exact h.awaits t' call' heq
      · intro t' x heq
        rw [hdrawn, hkeys]
        rcases Config.goto_threads_cases t' with ⟨-, hpc'⟩ | ⟨ht, hpc'⟩
        · rw [hpc'] at heq
          cases heq
        · rw [hpc'] at heq
          refine ⟨(h.holds t' x heq).1, ?_⟩
          intro hmem'
          rcases List.mem_append.mp hmem' with hmem' | hmem'
          · exact (h.holds t' x heq).2 hmem'
          · -- two threads would be in one call
            have hin' := Pc.call_of_hasId heq
            rw [List.mem_singleton.mp hmem'] at hin'
            exact ht (hc.distinct t' t call hin' hin)
      · intro x hx
        rw [hdrawn]
        rw [hreturned] at hx
        rcases List.mem_append.mp hx with hx | hx
        · exact h.returned_drawn x hx
        · obtain rfl := List.mem_singleton.mp hx
          exact hmem
      · rw [hkeys, ← List.concat_eq_append]
        exact h.returned_once.concat hnew

theorem Moves.drawnOnce (hg : cfg.Good) (hc : Calls ls cfg) (h : DrawnOnce ls cfg)
    (hmoves : Moves p cfg t move cfg') : DrawnOnce (ls ++ [⟨t, move⟩]) cfg' := by
  cases hmoves with
  | invoke => exact h.invoke hc _
  | allocate hpc => exact h.allocate hc hpc rfl
  | ret hpc => exact h.ret hc hpc
  | lock hpc => exact h.quiet rfl rfl rfl rfl (.inr (by rw [hpc]; rfl)) (.inl rfl)
  | replay hpc => exact h.quiet rfl rfl rfl rfl (.inl rfl) (.inr (by rw [hpc]; rfl))
  | atomic hpc _ heffect =>
      refine h.quiet rfl rfl rfl rfl (.inl rfl) (.inl ?_)
      show (Outcome.subscriptionId _).map _ = none
      rw [heffect.oneSection_id (hg.oneSection hpc)]
      rfl
  | store | fanOutPanicked | fanOut | lockPanicked | allocateOverflow =>
      exact h.quiet rfl rfl rfl rfl (.inl rfl) (.inl rfl)

/-! ## The ids are drawn in order -/

/-- The ids drawn are `1, 2, 3, …`, and each row has the one its subscribe
drew. -/
structure InOrder (ls : List Label) (cfg : Config B) : Prop where
  numbered : cfg.world.Numbered
  count : cfg.world.nextId.toNat = (drawn ls).length + 1
  ids : (drawn ls).map (fun x => x.2.toNat) = List.range' 1 (drawn ls).length
  rows : ∀ r ∈ cfg.rows, (r.1, r.2.subId) ∈ drawn ls

theorem InOrder.new (clientId : String) : InOrder [] (Config.new B clientId) where
  numbered := .new clientId
  count := rfl
  ids := rfl
  rows _ hr := absurd hr List.not_mem_nil

theorem InOrder.lt_nextId (h : InOrder ls cfg) {x : CallId × UInt32} (hx : x ∈ drawn ls) :
    x.2 < cfg.world.nextId := by
  have hmem : x.2.toNat ∈ (drawn ls).map fun x => x.2.toNat :=
    List.mem_map.mpr ⟨x, hx, rfl⟩
  rw [h.ids, List.mem_range'_1] at hmem
  rw [UInt32.lt_iff_toNat_lt, h.count]
  omega

/-- A step that draws no id and adds no row. -/
theorem InOrder.quiet (h : InOrder ls cfg) (hdraw : move.draws = none)
    (hn : cfg'.world.Numbered) (hnext : cfg'.world.nextId = cfg.world.nextId)
    (hrows : cfg'.rows.Sublist cfg.rows) : InOrder (ls ++ [⟨t, move⟩]) cfg' := by
  have hdrawn : drawn (ls ++ [⟨t, move⟩]) = drawn ls := by
    rw [drawn_snoc, hdraw, Option.toList_none, List.append_nil]
  refine ⟨hn, ?_, ?_, ?_⟩
  · rw [hdrawn, hnext]
    exact h.count
  · rw [hdrawn]
    exact h.ids
  · rw [hdrawn]
    exact fun r hr => h.rows r (hrows.subset hr)

/-- A subscribe that has not drawn yet is not counted among the draws. -/
theorem DrawnOnce.room (h : DrawnOnce ls cfg) (t : ThreadId) {call : CallId}
    (hawaits : (cfg.threads t).awaitsId = some call) :
    (drawn ls).length + 1 ≤ (subscribeCalls ls).length := by
  obtain ⟨hinvoked, hnew⟩ := h.awaits t call hawaits
  -- the calls that drew, and this one, are as many different subscribes
  have hnodup : (call :: (drawn ls).map Prod.fst).Nodup := List.nodup_cons.mpr ⟨hnew, h.once⟩
  have hsubset : call :: (drawn ls).map Prod.fst ⊆ subscribeCalls ls := by
    intro c hc
    rcases List.mem_cons.mp hc with rfl | hc
    · exact hinvoked
    · obtain ⟨x, hx, rfl⟩ := List.mem_map.mp hc
      exact h.invoked x hx
  have hle := (List.subperm_of_subset hnodup hsubset).length_le
  simpa using hle

/-- The next id is drawn. -/
theorem InOrder.allocate (h : InOrder ls cfg) (hroom : (drawn ls).length + 2 < 2 ^ 32)
    {call : CallId} {topic : String} {tx : ChannelId} {nextId' : UInt32}
    (hadd : p.addU32 cfg.world.nextId 1 = some nextId')
    (hworld : cfg'.world = pushed cfg.world topic tx nextId')
    (hrows : cfg'.rows = cfg.rows ++ [(call, ⟨topic, cfg.world.nextId, tx⟩)]) :
    InOrder (ls ++ [⟨t, .allocate call (.returned cfg.world.nextId)⟩]) cfg' := by
  have hdrawn : drawn (ls ++ [⟨t, .allocate call (.returned cfg.world.nextId)⟩]) =
      drawn ls ++ [(call, cfg.world.nextId)] := drawn_snoc ls _
  have hbelow : cfg.world.nextId.toNat + 1 < 2 ^ 32 := by
    rw [h.count]
    omega
  obtain ⟨hsome, hnat⟩ := addU32_eq p hbelow
  obtain rfl := Option.some.inj (hsome.symm.trans hadd)
  have hlt : cfg.world.nextId < cfg.world.nextId + 1 := by
    rw [UInt32.lt_iff_toNat_lt, hnat]
    exact Nat.lt_succ_self _
  refine ⟨?_, ?_, ?_, ?_⟩
  · rw [hworld]
    exact h.numbered.pushed topic tx hlt
  · rw [hworld, hdrawn, List.length_append]
    show (cfg.world.nextId + 1).toNat = (drawn ls).length + 1 + 1
    rw [hnat, h.count]
  · rw [hdrawn, List.map_append, h.ids, List.length_append]
    show List.range' 1 _ ++ [cfg.world.nextId.toNat] = List.range' 1 (_ + 1)
    rw [List.range'_1_concat, h.count, Nat.add_comm]
  · rw [hrows, hdrawn]
    intro r hr
    rcases List.mem_append.mp hr with hr | hr
    · exact List.mem_append_left _ (h.rows r hr)
    · obtain rfl := List.mem_singleton.mp hr
      exact List.mem_append_right _ (List.mem_singleton_self _)

theorem Moves.inOrder (hg : cfg.Good) (hd : DrawnOnce ls cfg) (h : InOrder ls cfg)
    (hcount : (subscribeCalls ls).length < 2 ^ 32 - 1) (hmoves : Moves p cfg t move cfg') :
    InOrder (ls ++ [⟨t, move⟩]) cfg' := by
  cases hmoves with
  | invoke | fanOutPanicked | lockPanicked | lock | ret =>
      exact h.quiet rfl h.numbered rfl (.refl _)
  | store => exact h.quiet rfl (h.numbered.congr rfl rfl rfl fun _ => rfl) rfl (.refl _)
  | fanOut hpc hfree hp htook =>
      refine h.quiet rfl (h.numbered.sending ?_ htook) rfl (.refl _)
      intro d hd
      exact (h.numbered.drawn d.1 (fanOuts_row hd).1).2
  | allocateOverflow hpc hadd =>
      -- the counter cannot be at the end: too few subscribes were called
      have hroom := hd.room t (by rw [hpc]; rfl)
      rw [(addU32_eq p (by rw [h.count]; omega)).1] at hadd
      cases hadd
  | allocate hpc hadd =>
      have hroom := hd.room t (by rw [hpc]; rfl)
      exact h.allocate (by omega) hadd rfl rfl
  | replay hpc htook =>
      obtain ⟨hmem, -⟩ := hd.holds t _ (by rw [hpc]; rfl)
      refine h.quiet rfl (h.numbered.sending ?_ htook) rfl (.refl _)
      intro d hd
      rw [(replays_row hd).1]
      exact h.lt_nextId hmem
  | @atomic call op out w' hpc _ heffect =>
      have hone := hg.oneSection hpc
      have hsub : Event.isSubscribe ⟨op, out⟩ = false := by
        cases op with
        | subscribe => simp [Op.oneSection] at hone
        | _ => rfl
      obtain ⟨hn, hnext⟩ := heffect.numbered hg.sound h.numbered (.inr hsub)
      rw [hsub] at hnext
      exact h.quiet rfl hn (UInt32.toNat_inj.mp hnext) (rowsAfter_sublist _ _ _)

theorem clones_drawnOnce {clientId : String} (h : (clones B p clientId).Trace ls cfg) :
    DrawnOnce ls cfg := by
  refine clones_inductive (.new clientId) ?_ h
  intro ls cfg l cfg' hg hc hd hmoves
  exact hmoves.drawnOnce hg hc hd

theorem clones_inOrder {clientId : String} (h : (clones B p clientId).Trace ls cfg)
    (hcount : (subscribeCalls ls).length < 2 ^ 32 - 1) : InOrder ls cfg := by
  let I : List Label → Config B → Prop := fun ls cfg =>
    DrawnOnce ls cfg ∧ ((subscribeCalls ls).length < 2 ^ 32 - 1 → InOrder ls cfg)
  have hI : I ls cfg := by
    refine clones_inductive ⟨.new clientId, fun _ => .new clientId⟩ ?_ h
    rintro ls cfg l cfg' hg hc ⟨hd, hord⟩ hmoves
    refine ⟨hmoves.drawnOnce hg hc hd, ?_⟩
    intro hcount
    -- the bound held before the step, as calls only add up
    have hle : (subscribeCalls ls).length ≤ (subscribeCalls (ls ++ [l])).length := by
      rw [subscribeCalls_snoc, List.length_append]
      exact Nat.le_add_right _ _
    have hcount : (subscribeCalls ls).length < 2 ^ 32 - 1 := Nat.lt_of_le_of_lt hle hcount
    exact hmoves.inOrder hg hd (hord hcount) hcount
  exact hI.2 hcount

/-! ## Identity of subscriptions -/

theorem drawn_append (ls ls' : List Label) : drawn (ls ++ ls') = drawn ls ++ drawn ls' :=
  List.filterMap_append

theorem drawn_ids_nodup (h : InOrder ls cfg) : ((drawn ls).map Prod.snd).Nodup := by
  have hnodup : ((drawn ls).map fun x => x.2.toNat).Nodup := by
    rw [h.ids]
    exact List.nodup_range'
  rw [← Function.comp_def UInt32.toNat Prod.snd, ← List.map_map] at hnodup
  exact hnodup.of_map _

/-- No two subscribes return one id. -/
theorem returned_ids_nodup (hd : DrawnOnce ls cfg) (h : InOrder ls cfg) :
    ((returned ls).map Prod.snd).Nodup := by
  refine List.Nodup.map_on ?_ (hd.returned_once.of_map _)
  intro x hx y hy heq
  exact List.inj_on_of_nodup_map (drawn_ids_nodup h) (hd.returned_drawn x hx)
    (hd.returned_drawn y hy) heq

/-- A row in the table has been there since its id was drawn. -/
theorem Moves.table_new (hg : cfg.Good) (h : Moves p cfg t move cfg') {s : Subscription}
    (hs : s ∈ cfg'.world.table) :
    s ∈ cfg.world.table ∨ ∃ call, move.draws = some (call, s.subId) := by
  cases h with
  | invoke | store | fanOutPanicked | fanOut | lockPanicked | lock | allocateOverflow | replay
  | ret => exact .inl hs
  | allocate hpc hadd =>
      rcases List.mem_append.mp hs with hs | hs
      · exact .inl hs
      · obtain rfl := List.mem_singleton.mp hs
        exact .inr ⟨_, rfl⟩
  | atomic hpc _ heffect =>
      exact .inl (heffect.oneSection_table (hg.oneSection hpc) hg.rows hs)

/-- From a configuration on, a row is one it had or got an id drawn since. -/
theorem run_table_new {clientId : String} {ls' : List Label}
    (hreach : (clones B p clientId).Reachable cfg)
    (hrun : (clones B p clientId).Run cfg ls' cfg') {s : Subscription}
    (hs : s ∈ cfg'.world.table) :
    s ∈ cfg.world.table ∨ s.subId ∈ (drawn ls').map Prod.snd := by
  induction hrun with
  | nil => exact .inl hs
  | @snoc ls' mid cfg' l hrun hstep ih =>
      obtain ⟨ls, htrace⟩ := hreach
      have hg := clones_good ⟨_, htrace.append hrun⟩
      rw [drawn_snoc, List.map_append]
      rcases (step_moves hg hstep).table_new hg hs with hs | ⟨call, hdraw⟩
      · exact (ih hs).imp_right (List.mem_append_left _)
      · right
        rw [hdraw]
        exact List.mem_append_right _ (List.mem_singleton_self _)

/-- An `unsubscribe` removes the rows with its filter and keeps the others, in
their order. -/
theorem unsubscribe_step {clientId : String} {l : Label} {call : CallId} {topic : String}
    (hg : cfg.Good) (hn : cfg.world.Numbered) (hmove : l.move = .atomic call (.unsubscribe topic))
    (hstep : (clones B p clientId).step cfg l cfg') :
    cfg'.world.table = cfg.world.table.filter fun s => s.topic ≠ topic := by
  have h := step_moves hg hstep
  rw [hmove] at h
  cases h with
  | atomic hpc hfree heffect =>
      cases heffect with
      | unsubscribePanicked hp => exact absurd hp (by simp [hn.healthy])
      | unsubscribed => rfl
      | quiet hop => simp [Op.quiet] at hop

/-- With fewer than `2 ^ 32 - 1` subscribes, in whatever order the sections of
the calls come: the rows are in the order of their ids, the counter is ahead of
every id, no id is returned twice, an id whose row is gone is never drawn again
nor in the table, and an `unsubscribe` removes exactly the rows with its
filter. -/
theorem subscription_identity {clientId : String} (h : (clones B p clientId).Trace ls cfg)
    (hcount : (subscribeCalls ls).length < 2 ^ 32 - 1) :
    (cfg.world.table.Pairwise fun s s' => s.subId < s'.subId) ∧
    (∀ s ∈ cfg.world.table, 1 ≤ s.subId ∧ s.subId < cfg.world.nextId) ∧
    ((returned ls).map Prod.snd).Nodup ∧
    (∀ before after cfg₀, ls = before ++ after → (clones B p clientId).Trace before cfg₀ →
      (clones B p clientId).Run cfg₀ after cfg →
      ∀ id ∈ (drawn before).map Prod.snd, (∀ s ∈ cfg₀.world.table, s.subId ≠ id) →
        id ∉ (drawn after).map Prod.snd ∧ ∀ s ∈ cfg.world.table, s.subId ≠ id) ∧
    (∀ l call topic cfg', l.move = .atomic call (.unsubscribe topic) →
      (clones B p clientId).step cfg l cfg' →
        cfg'.world.table = cfg.world.table.filter fun s => s.topic ≠ topic) := by
  have hg := clones_good ⟨ls, h⟩
  have hd := clones_drawnOnce h
  have hord := clones_inOrder h hcount
  refine ⟨hord.numbered.increasing, hord.numbered.drawn, returned_ids_nodup hd hord, ?_, ?_⟩
  · rintro before after cfg₀ rfl hbefore hafter id hid hgone
    have hnodup := drawn_ids_nodup hord
    rw [drawn_append, List.map_append] at hnodup
    -- an id is drawn once, and this one was before
    have hfresh : id ∉ (drawn after).map Prod.snd := fun hmem =>
      List.disjoint_of_nodup_append hnodup hid hmem
    refine ⟨hfresh, ?_⟩
    intro s hs heq
    rcases run_table_new ⟨before, hbefore⟩ hafter hs with hold | hnew
    · exact hgone s hold heq
    · exact hfresh (heq ▸ hnew)
  · intro l call topic cfg' hmove hstep
    exact unsubscribe_step hg hord.numbered hmove hstep

/-- Two threads subscribe at the same time, then one of the rows is removed. -/
def subscribeTwice : List Turn :=
  [.call 0 (.channel 4), .go 0, .go 0,
    .call 0 (.subscribe "a" .atMostOnce 0 (.stored _ _)),
    .call 1 (.subscribe "b" .atMostOnce 0 (.stored _ _)),
    .go 1, .go 1, .go 1, .go 0, .go 1, .go 0, .go 0, .go 0,
    .call 1 (.unsubscribe "b"), .go 1, .go 1]

theorem subscription_identity_run :
    let run := ((Config.new (.log MqttMessage) "mock-client").play .debug (fun _ => True)
      subscribeTwice).get (by decide)
    (run.2.world.table.Pairwise fun s s' => s.subId < s'.subId) ∧
    (∀ s ∈ run.2.world.table, 1 ≤ s.subId ∧ s.subId < run.2.world.nextId) ∧
    ((returned run.1).map Prod.snd).Nodup := by
  intro run
  have hrun : (clones (.log MqttMessage) .debug "mock-client").Trace run.1 run.2 :=
    TSys.within_trace (Config.play_trace trivial (Option.some_get _).symm)
  obtain ⟨hincreasing, hdrawn, hreturned, -⟩ := subscription_identity hrun (by decide)
  exact ⟨hincreasing, hdrawn, hreturned⟩

end StingerMqtt

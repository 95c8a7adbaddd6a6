import StingerMqtt.Concurrent.Calls
import StingerMqtt.Mock.Delivery

/-!
# The ledger of the messages sent

What the clones write down of each message sent is what the channels accepted,
and it names the call that received the message and the subscribe it went to.
A call sends to a subscription at most once in its fan-out, and a subscribe
replays the message of a call at most once.
-/

namespace StingerMqtt

open Kit Mock MockWorld

variable {B : Broadcast MqttMessage} {p : Profile} {cfg cfg' : Config B} {t : ThreadId}
  {move : Move} {ls : List Label}

/-- Every row's channel has a receiver. -/
def Config.AllLive (cfg : Config B) : Prop := cfg.world.AllLive

instance : DecidablePred (@Config.AllLive B) := fun cfg =>
  inferInstanceAs (Decidable cfg.world.AllLive)

/-! ## What the channels accepted -/

/-- The row and the message of a delivery. -/
def Delivery.send (d : Delivery) : Subscription × MqttMessage := (d.row, d.message)

theorem map_replayedTo (call : CallId) (row : Subscription) (iter : IterOrder String MqttMessage) :
    (cfg.replayedTo call row iter).map Delivery.send = replays cfg.world row iter := by
  unfold Config.replayedTo replays
  split
  · rw [List.map_map]
    rfl
  · rfl

theorem Effect.oneSection_sent {w w' : MockWorld B} {op : Op} {out : Outcome Reply}
    (h : Effect p w op out w') (hw : w.Sound) (hone : op.oneSection = true) (c : ChannelId) :
    w'.channels.sent c = w.channels.sent c := by
  have hnone : op.sends p w = [] := by
    cases op with
    | subscribe | simulateReceive => simp [Op.oneSection] at hone
    | _ => rfl
  rw [h.sent hw, hnone]
  exact List.append_nil _

/-- A step writes down what the channels accept. -/
theorem Moves.sent (hg : cfg.Good) (h : Moves p cfg t move cfg') :
    ∃ news, cfg'.deliveries = cfg.deliveries ++ news ∧ ∀ c, cfg'.world.channels.sent c =
      cfg.world.channels.sent c ++ Bank.onChannel c (copies (news.map Delivery.send)) := by
  cases h with
  | fanOut hpc hfree hp htook =>
      refine ⟨_, rfl, ?_⟩
      intro c
      show _ = _ ++ Bank.onChannel c (copies ((cfg.fannedOut _ _).map fun d => (d.row, d.message)))
      rw [map_fannedOut hg.rows]
      exact htook.sent c
  | replay hpc htook =>
      refine ⟨_, rfl, ?_⟩
      intro c
      rw [map_replayedTo]
      exact htook.sent c
  | atomic hpc _ heffect =>
      refine ⟨[], (List.append_nil _).symm, ?_⟩
      intro c
      have hsent := heffect.oneSection_sent hg.sound (hg.oneSection hpc) c
      exact hsent.trans (List.append_nil _).symm
  | _ => exact ⟨[], (List.append_nil _).symm, fun _ => (List.append_nil _).symm⟩

/-- What was sent stays sent. -/
theorem Moves.sent_mono (hg : cfg.Good) (h : Moves p cfg t move cfg') {c : ChannelId}
    {m : MqttMessage} (hm : m ∈ cfg.world.channels.sent c) : m ∈ cfg'.world.channels.sent c := by
  obtain ⟨news, -, hsent⟩ := h.sent hg
  rw [hsent]
  exact List.mem_append_left _ hm

/-- The channels accepted what the ledger says, in this order. -/
theorem clones_sent {clientId : String} (h : (clones B p clientId).Trace ls cfg) (c : ChannelId) :
    cfg.world.channels.sent c =
      Bank.onChannel c (copies (cfg.deliveries.map Delivery.send)) := by
  let I : List Label → Config B → Prop := fun _ cfg => ∀ c, cfg.world.channels.sent c =
    Bank.onChannel c (copies (cfg.deliveries.map Delivery.send))
  have hI : I ls cfg := by
    refine clones_inductive (fun c => B.sent_channel 1) ?_ h
    intro ls cfg l cfg' hg _ hI hmoves c
    obtain ⟨news, hnews, hsent⟩ := hmoves.sent hg
    rw [hsent, hI, hnews, List.map_append, ← Bank.onChannel_append]
    unfold copies
    rw [List.map_append]
  exact hI c

/-! ## Which call received a message -/

/-- The message of the call a thread is in. -/
def Pc.received : Pc → Option (CallId × MqttMessage)
  | .store call m => some (call, m)
  | .fanOut call m => some (call, m)
  | _ => none

/-- The message a section stores or sends. -/
def Move.received : Move → Option (CallId × MqttMessage)
  | .store call m => some (call, m)
  | .fanOut call m => some (call, m)
  | _ => none

/-- Whoever stores or sends a message has been called with it. -/
structure Announced (ls : List Label) (cfg : Config B) : Prop where
  before : ∀ t call m, (cfg.threads t).received = some (call, m) →
    Move.invoke call (.simulateReceive m) ∈ moves ls
  after : ∀ move ∈ moves ls, ∀ call m, move.received = some (call, m) →
    Move.invoke call (.simulateReceive m) ∈ moves ls

theorem Announced.new (clientId : String) : Announced [] (Config.new B clientId) where
  before t call m h := by cases h
  after move hmem := absurd hmem List.not_mem_nil

theorem Announced.snoc (h : Announced ls cfg) {pc : Pc}
    (hthreads : cfg'.threads = Function.update cfg.threads t pc)
    (hpc : ∀ call m, pc.received = some (call, m) →
      Move.invoke call (.simulateReceive m) ∈ moves (ls ++ [⟨t, move⟩]))
    (hmove : ∀ call m, move.received = some (call, m) →
      Move.invoke call (.simulateReceive m) ∈ moves (ls ++ [⟨t, move⟩])) :
    Announced (ls ++ [⟨t, move⟩]) cfg' where
  before t' call m heq := by
    rcases Config.threads_cases hthreads t' with ⟨-, hpc'⟩ | ⟨-, hpc'⟩
    · exact hpc call m (hpc' ▸ heq)
    · rw [moves_snoc]
      exact List.mem_append_left _ (h.before t' call m (hpc' ▸ heq))
  after move' hmem call m heq := by
    rw [moves_snoc] at hmem
    rcases List.mem_append.mp hmem with hmem | hmem
    · rw [moves_snoc]
      exact List.mem_append_left _ (h.after move' hmem call m heq)
    · obtain rfl := List.mem_singleton.mp hmem
      exact hmove call m heq

theorem Moves.announced (ha : Announced ls cfg) (h : Moves p cfg t move cfg') :
    Announced (ls ++ [⟨t, move⟩]) cfg' := by
  have hold : ∀ call m, (cfg.threads t).received = some (call, m) →
      Move.invoke call (.simulateReceive m) ∈ moves (ls ++ [⟨t, move⟩]) := by
    intro call m heq
    rw [moves_snoc]
    exact List.mem_append_left _ (ha.before t call m heq)
  cases h with
  | @invoke op hidle hvalid =>
      refine ha.snoc rfl ?_ (fun _ _ heq => by cases heq)
      intro call m heq
      have hop : op = .simulateReceive m ∧ call = cfg.nextCall := by
        cases op with
        | simulateReceive m' =>
            have hreceived : (if m'.retain then Pc.store cfg.nextCall m'
                else Pc.fanOut cfg.nextCall m').received = some (call, m) := heq
            split at hreceived <;> cases hreceived <;> exact ⟨rfl, rfl⟩
        | _ => cases heq
      obtain ⟨rfl, rfl⟩ := hop
      rw [moves_snoc]
      exact List.mem_append_right _ (List.mem_singleton_self _)
  | store hpc =>
      rw [hpc] at hold
      refine ha.snoc rfl ?_ ?_
      · exact hold
      · exact hold
  | fanOutPanicked hpc | fanOut hpc =>
      rw [hpc] at hold
      refine ha.snoc rfl ?_ hold
      intro call m heq
      cases heq
  | lockPanicked | lock | allocateOverflow | allocate | replay | atomic | ret =>
      refine ha.snoc rfl (fun call m heq => ?_) fun call m heq => ?_
      · cases heq
      · cases heq

theorem clones_announced {clientId : String} (h : (clones B p clientId).Trace ls cfg) :
    Announced ls cfg := by
  refine clones_inductive (.new clientId) ?_ h
  intro ls cfg l cfg' _ _ ha hmoves
  exact hmoves.announced ha

/-- The message of a call is one message. -/
theorem Announced.unique (ha : Announced ls cfg) (hc : Calls ls cfg) {move move' : Move}
    (h : move ∈ moves ls) (h' : move' ∈ moves ls) {call : CallId} {m m' : MqttMessage}
    (hm : move.received = some (call, m)) (hm' : move'.received = some (call, m')) : m = m' := by
  have heq := hc.unique (ha.after move h call m hm) (ha.after move' h' call m' hm') rfl rfl
  simpa using heq

/-! ## What was sent for which call to which subscription -/

/-- What one entry of the ledger is about. -/
def Delivery.key (d : Delivery) : Option CallId × CallId × Via := (d.call, d.subscription, d.via)

/-- Why a message was sent: its subscribe has replayed and then the call that
received it fanned it out, or it was stored and then replayed. -/
def Delivery.Due (ls : List Label) (d : Delivery) : Prop :=
  ∃ call, d.call = some call ∧
    match d.via with
    | .fanOut => [Move.replay d.subscription, .fanOut call d.message].Sublist (moves ls)
    | .replay => [Move.store call d.message, .replay d.subscription].Sublist (moves ls)

theorem Delivery.Due.fanOut {d : Delivery} (h : d.Due ls) (hvia : d.via = .fanOut)
    {call : CallId} (hcall : d.call = some call) :
    [Move.replay d.subscription, .fanOut call d.message].Sublist (moves ls) := by
  obtain ⟨call', hcall', hdue⟩ := h
  obtain rfl : call' = call := Option.some_inj.mp (hcall'.symm.trans hcall)
  rw [hvia] at hdue
  exact hdue

theorem Delivery.Due.replay {d : Delivery} (h : d.Due ls) (hvia : d.via = .replay)
    {call : CallId} (hcall : d.call = some call) :
    [Move.store call d.message, .replay d.subscription].Sublist (moves ls) := by
  obtain ⟨call', hcall', hdue⟩ := h
  obtain rfl : call' = call := Option.some_inj.mp (hcall'.symm.trans hcall)
  rw [hvia] at hdue
  exact hdue

/-- A subscribe that has pushed its row has replayed, or is about to. -/
def Config.Replayed (ls : List Label) (cfg : Config B) (r : CallId × Subscription) : Prop :=
  Move.replay r.1 ∈ moves ls ∨
    ∃ t iter, cfg.threads t = .replay r.1 r.2.topic r.2.tx iter r.2.subId

/-- The ledger tells apart all that was sent. -/
structure Ledger (ls : List Label) (cfg : Config B) : Prop where
  rowsOnce : (cfg.rows.map Prod.fst).Nodup
  rowsDrawn : ∀ r ∈ cfg.rows, ∃ out, Move.allocate r.1 out ∈ moves ls
  replayed : ∀ r ∈ cfg.rows, cfg.Replayed ls r
  stored : ∀ topic m, cfg.world.retained.lookup topic = some m →
    ∃ call, cfg.origin topic = some call ∧ Move.store call m ∈ moves ls
  due : ∀ d ∈ cfg.deliveries, d.Due ls
  once : (cfg.deliveries.map Delivery.key).Nodup

theorem Delivery.Due.snoc {d : Delivery} (h : d.Due ls) (l : Label) : d.Due (ls ++ [l]) := by
  obtain ⟨call, hcall, hdue⟩ := h
  refine ⟨call, hcall, ?_⟩
  rw [moves_snoc]
  cases hvia : d.via <;> rw [hvia] at hdue <;> exact hdue.trans (List.sublist_append_left _ _)

theorem Ledger.new (clientId : String) : Ledger [] (Config.new B clientId) where
  rowsOnce := .nil
  rowsDrawn r hr := absurd hr List.not_mem_nil
  replayed r hr := absurd hr List.not_mem_nil
  stored topic m h := by
    have h : (MockWorld.new B clientId).retained.lookup topic = some m := h
    simp at h
  due d hd := absurd hd List.not_mem_nil
  once := .nil

/-- A subscribe that was about to replay still is, unless it was its turn. -/
theorem Config.Replayed.snoc {r : CallId × Subscription} (h : cfg.Replayed ls r) {pc : Pc}
    (hthreads : cfg'.threads = Function.update cfg.threads t pc)
    (hturn : ∀ topic tx iter id, cfg.threads t = .replay r.1 topic tx iter id →
      move = .replay r.1) : cfg'.Replayed (ls ++ [⟨t, move⟩]) r := by
  unfold Config.Replayed
  rw [moves_snoc]
  rcases h with hdone | ⟨t', iter, hpc⟩
  · exact .inl (List.mem_append_left _ hdone)
  · rcases Config.threads_cases hthreads t' with ⟨rfl, -⟩ | ⟨-, hsame⟩
    · left
      rw [← hturn _ _ _ _ hpc]
      exact List.mem_append_right _ (List.mem_singleton_self _)
    · exact .inr ⟨t', iter, hsame.trans hpc⟩

/-- While nobody holds `subscriptions`, every subscribe with a row has
replayed. -/
theorem Ledger.all_replayed (h : Ledger ls cfg) (hg : cfg.Good) (hfree : cfg.holder = none)
    {r : CallId × Subscription} (hr : r ∈ cfg.rows) : Move.replay r.1 ∈ moves ls := by
  rcases h.replayed r hr with hdone | ⟨t, iter, hpc⟩
  · exact hdone
  · have hok := hg.threads t
    rw [hpc] at hok
    -- a thread about to replay is the holder
    have hheld := hok.2.1
    rw [hfree] at hheld
    cases hheld

theorem Ledger.drawn_snoc (h : Ledger ls cfg) (l : Label) {r : CallId × Subscription}
    (hr : r ∈ cfg.rows) : ∃ out, Move.allocate r.1 out ∈ moves (ls ++ [l]) := by
  obtain ⟨out, hmem⟩ := h.rowsDrawn r hr
  rw [moves_snoc]
  exact ⟨out, List.mem_append_left _ hmem⟩

/-- A step that adds no row, no entry and sends nothing. -/
theorem Ledger.quiet (h : Ledger ls cfg) {pc : Pc}
    (hthreads : cfg'.threads = Function.update cfg.threads t pc)
    (hturn : ∀ call topic tx iter id, cfg.threads t ≠ .replay call topic tx iter id)
    (hrows : cfg'.rows.Sublist cfg.rows)
    (hstored : ∀ topic m, cfg'.world.retained.lookup topic = some m →
      cfg.world.retained.lookup topic = some m ∧ cfg'.origin topic = cfg.origin topic)
    (hsent : cfg'.deliveries = cfg.deliveries) : Ledger (ls ++ [⟨t, move⟩]) cfg' where
  rowsOnce := h.rowsOnce.sublist (hrows.map _)
  rowsDrawn r hr := h.drawn_snoc _ (hrows.subset hr)
  replayed r hr := (h.replayed r (hrows.subset hr)).snoc hthreads fun topic tx iter id hpc =>
    absurd hpc (hturn _ topic tx iter id)
  stored topic m hlookup := by
    obtain ⟨hold, horigin⟩ := hstored topic m hlookup
    obtain ⟨call, hcall, hmem⟩ := h.stored topic m hold
    rw [moves_snoc]
    exact ⟨call, horigin.trans hcall, List.mem_append_left _ hmem⟩
  due d hd := (h.due d (hsent ▸ hd)).snoc _
  once := hsent ▸ h.once

/-- The retained store after a call in one section: as it was, or empty. -/
theorem Effect.oneSection_retained {w w' : MockWorld B} {op : Op} {out : Outcome Reply}
    (h : Effect p w op out w') (hone : op.oneSection = true) {topic : String} {m : MqttMessage}
    (hlookup : w'.retained.lookup topic = some m) (origin : String → Option CallId) :
    w.retained.lookup topic = some m ∧ Config.originAfter origin op topic = origin topic := by
  cases h with
  | clearedRetained =>
      rw [retained_setRetained] at hlookup
      cases hlookup
  | quiet hop =>
      cases op with
      | clearRetainedMessages => simp [Op.quiet] at hop
      | _ => exact ⟨hlookup, rfl⟩
  | unsubscribed | unsubscribePanicked | created | addedReceiver | droppedReceiver =>
      exact ⟨hlookup, rfl⟩
  | _ => simp [Op.oneSection] at hone

theorem Ledger.store (h : Ledger ls cfg) {call : CallId} {m : MqttMessage}
    (hpc : cfg.threads t = .store call m) :
    Ledger (ls ++ [⟨t, .store call m⟩])
      ({ cfg with
          world := cfg.world.setRetained (cfg.world.retained.insert m.topic m)
          origin := Function.update cfg.origin m.topic (some call) }.goto t (.fanOut call m)) where
  rowsOnce := h.rowsOnce
  rowsDrawn r hr := h.drawn_snoc _ hr
  replayed r hr := (h.replayed r hr).snoc rfl fun topic tx iter id hat => by
    rw [hpc] at hat
    cases hat
  stored topic m' hlookup := by
    rw [moves_snoc]
    have hlookup : (cfg.world.retained.insert m.topic m).lookup topic = some m' := hlookup
    by_cases htopic : topic = m.topic
    · subst htopic
      rw [AList.lookup_insert] at hlookup
      obtain rfl := Option.some_inj.mp hlookup
      exact ⟨call, Function.update_self .., List.mem_append_right _ (List.mem_singleton_self _)⟩
    · rw [AList.lookup_insert_ne htopic] at hlookup
      obtain ⟨call', hcall, hmem⟩ := h.stored topic m' hlookup
      exact ⟨call', (Function.update_of_ne htopic ..).trans hcall, List.mem_append_left _ hmem⟩
  due d hd := (h.due d hd).snoc _
  once := h.once

theorem Ledger.allocate (hc : Calls ls cfg) (h : Ledger ls cfg) {call : CallId} {topic : String}
    {tx : ChannelId} {iter : IterOrder String MqttMessage} {nextId' : UInt32}
    (hpc : cfg.threads t = .allocate call topic tx iter) :
    Ledger (ls ++ [⟨t, .allocate call (.returned cfg.world.nextId)⟩])
      ({ cfg with
          world := pushed cfg.world topic tx nextId'
          rows := cfg.rows ++ [(call, (⟨topic, cfg.world.nextId, tx⟩ : Subscription))] }.goto t
        (.replay call topic tx iter cfg.world.nextId)) where
  rowsOnce := by
    show ((cfg.rows ++ [_]).map Prod.fst).Nodup
    rw [List.map_append, List.map_singleton, ← List.concat_eq_append]
    apply h.rowsOnce.concat
    intro hmem
    obtain ⟨r, hr, rfl⟩ := List.mem_map.mp hmem
    obtain ⟨out, hdrawn⟩ := h.rowsDrawn r hr
    exact hc.not_done t (by rw [hpc]; rfl) (by rw [hpc]; rfl) hdrawn
  rowsDrawn r hr := by
    rcases List.mem_append.mp hr with hr | hr
    · exact h.drawn_snoc _ hr
    · obtain rfl := List.mem_singleton.mp hr
      rw [moves_snoc]
      exact ⟨_, List.mem_append_right _ (List.mem_singleton_self _)⟩
  replayed r hr := by
    rcases List.mem_append.mp hr with hr | hr
    · apply (h.replayed r hr).snoc rfl
      intro topic tx iter id hat
      rw [hpc] at hat
      cases hat
    · obtain rfl := List.mem_singleton.mp hr
      exact .inr ⟨t, iter, Config.goto_threads_self _ _⟩
  stored topic m hlookup := by
    obtain ⟨call', hcall, hmem⟩ := h.stored topic m hlookup
    rw [moves_snoc]
    exact ⟨call', hcall, List.mem_append_left _ hmem⟩
  due d hd := (h.due d hd).snoc _
  once := h.once

/-- Sending keeps the ledger, if what is sent is due and new. -/
theorem Ledger.sending (h : Ledger ls cfg) {pc : Pc}
    (hthreads : cfg'.threads = Function.update cfg.threads t pc)
    (hturn : ∀ call topic tx iter id, cfg.threads t = .replay call topic tx iter id →
      move = .replay call)
    (hrows : cfg'.rows = cfg.rows) (hretained : cfg'.world.retained = cfg.world.retained)
    (horigin : cfg'.origin = cfg.origin) {news : List Delivery}
    (hsent : cfg'.deliveries = cfg.deliveries ++ news)
    (hdue : ∀ d ∈ news, d.Due (ls ++ [⟨t, move⟩]))
    (hnew : ∀ d ∈ news, ∀ d' ∈ cfg.deliveries, d'.key ≠ d.key)
    (honce : (news.map Delivery.key).Nodup) : Ledger (ls ++ [⟨t, move⟩]) cfg' where
  rowsOnce := hrows ▸ h.rowsOnce
  rowsDrawn r hr := by
    rw [hrows] at hr
    exact h.drawn_snoc _ hr
  replayed r hr := by
    rw [hrows] at hr
    exact (h.replayed r hr).snoc hthreads (hturn r.1)
  stored topic m hlookup := by
    rw [hretained] at hlookup
    obtain ⟨call, hcall, hmem⟩ := h.stored topic m hlookup
    rw [moves_snoc, horigin]
    exact ⟨call, hcall, List.mem_append_left _ hmem⟩
  due d hd := by
    rw [hsent] at hd
    rcases List.mem_append.mp hd with hd | hd
    · exact (h.due d hd).snoc _
    · exact hdue d hd
  once := by
    rw [hsent, List.map_append]
    refine List.nodup_append.mpr ⟨h.once, honce, ?_⟩
    intro k hk k' hk' heq
    obtain ⟨d', hd', rfl⟩ := List.mem_map.mp hk
    obtain ⟨d, hd, rfl⟩ := List.mem_map.mp hk'
    exact hnew d hd d' hd' heq

theorem mem_fannedOut {call : CallId} {m : MqttMessage} {d : Delivery}
    (h : d ∈ cfg.fannedOut call m) :
    ∃ r ∈ cfg.rows, topicMatches r.2.topic m.topic = true ∧
      d = ⟨some call, r.1, r.2, m, .fanOut⟩ := by
  obtain ⟨r, hr, rfl⟩ := List.mem_map.mp h
  obtain ⟨hmem, hmatch⟩ := List.mem_filter.mp ((List.takeWhile_sublist _).mem hr)
  exact ⟨r, hmem, hmatch, rfl⟩

theorem fannedOut_keys_nodup (h : Ledger ls cfg) (call : CallId) (m : MqttMessage) :
    ((cfg.fannedOut call m).map Delivery.key).Nodup := by
  unfold Config.fannedOut
  rw [List.map_map]
  have hsub : ((cfg.rows.filter fun row => topicMatches row.2.topic m.topic).takeWhile
      fun row => cfg.world.channels.Live row.2.tx).Sublist cfg.rows :=
    (List.takeWhile_sublist _).trans List.filter_sublist
  refine List.Nodup.map_on ?_ ((h.rowsOnce.of_map _).sublist hsub)
  intro r hr r' hr' heq
  exact List.inj_on_of_nodup_map h.rowsOnce (hsub.mem hr) (hsub.mem hr')
    (congrArg (fun key => key.2.1) heq)

theorem mem_replayedTo (hg : cfg.Good) (h : Ledger ls cfg) {call : CallId} {row : Subscription}
    {iter : IterOrder String MqttMessage} {d : Delivery} (hd : d ∈ cfg.replayedTo call row iter) :
    ∃ k m, cfg.origin m.topic = some k ∧ Move.store k m ∈ moves ls ∧
      d = ⟨some k, call, row, m, .replay⟩ := by
  unfold Config.replayedTo at hd
  split at hd
  · obtain ⟨m, hm, rfl⟩ := List.mem_map.mp hd
    -- an entry is kept under the topic of its message, where its call is noted too
    obtain ⟨key, hlookup, -⟩ := mem_replayed.mp hm
    obtain rfl := hg.sound.keys key m hlookup
    obtain ⟨k, hk, hmem⟩ := h.stored m.topic m hlookup
    exact ⟨k, m, hk, hmem, by rw [hk]⟩
  · exact absurd hd List.not_mem_nil

/-- The entries of the retained store come from different calls. -/
theorem replayedTo_keys_nodup (hg : cfg.Good) (hc : Calls ls cfg) (h : Ledger ls cfg)
    (call : CallId) (row : Subscription) (iter : IterOrder String MqttMessage) :
    ((cfg.replayedTo call row iter).map Delivery.key).Nodup := by
  have hnodup : (cfg.replayedTo call row iter).Nodup := by
    unfold Config.replayedTo
    split
    · refine List.Nodup.map_on ?_ ((replayed_topics_nodup hg.sound row.topic iter).of_map _)
      intro m _ m' _ heq
      exact congrArg Delivery.message heq
    · exact .nil
  refine List.Nodup.map_on ?_ hnodup
  intro d hd d' hd' heq
  obtain ⟨k, m, -, hstore, rfl⟩ := mem_replayedTo hg h hd
  obtain ⟨k', m', -, hstore', rfl⟩ := mem_replayedTo hg h hd'
  obtain rfl : k = k' := Option.some_inj.mp (congrArg Prod.fst heq)
  -- one call stores one message, so the keys tell the messages apart
  have hsame := hc.unique hstore hstore' rfl rfl
  obtain rfl : m = m' := by simpa using hsame
  rfl

theorem Moves.ledger (hg : cfg.Good) (hc : Calls ls cfg) (h : Ledger ls cfg)
    (hmoves : Moves p cfg t move cfg') : Ledger (ls ++ [⟨t, move⟩]) cfg' := by
  cases hmoves with
  | invoke hpc | fanOutPanicked hpc | lockPanicked hpc | lock hpc | allocateOverflow hpc
  | ret hpc =>
      refine h.quiet rfl (fun _ _ _ _ _ hat => ?_) (.refl _) (fun _ _ hlookup => ⟨hlookup, rfl⟩) rfl
      rw [hpc] at hat
      cases hat
  | atomic hpc _ heffect =>
      have hone := hg.oneSection hpc
      refine h.quiet rfl (fun _ _ _ _ _ hat => ?_) (rowsAfter_sublist _ _ _)
        (fun topic m hlookup => heffect.oneSection_retained hone hlookup cfg.origin) rfl
      rw [hpc] at hat
      cases hat
  | store hpc => exact h.store hpc
  | allocate hpc _ => exact h.allocate hc hpc
  | @fanOut call m result b hpc hfree hp htook =>
      refine h.sending rfl (fun _ _ _ _ _ hat => ?_) rfl rfl rfl rfl ?_ ?_
        (fannedOut_keys_nodup h call m)
      · rw [hpc] at hat
        cases hat
      · intro d hd
        obtain ⟨r, hr, -, rfl⟩ := mem_fannedOut hd
        refine ⟨call, rfl, ?_⟩
        rw [moves_snoc]
        exact (List.singleton_sublist.mpr (h.all_replayed hg hfree hr)).append (.refl _)
      · -- this is the only fan-out of the call
        intro d hd d' hd' heq
        obtain ⟨r, hr, -, rfl⟩ := mem_fannedOut hd
        have hcall : d'.call = some call := congrArg Prod.fst heq
        have hvia : d'.via = .fanOut := congrArg (fun key => key.2.2) heq
        have hdone : Move.fanOut call d'.message ∈ moves ls :=
          ((h.due d' hd').fanOut hvia hcall).mem (by simp)
        exact hc.not_done t (by rw [hpc]; rfl) (by rw [hpc]; rfl) hdone
  | @replay call topic tx iter id b hpc htook =>
      refine h.sending rfl (fun _ _ _ _ _ hat => ?_) rfl rfl rfl rfl ?_ ?_
        (replayedTo_keys_nodup hg hc h call _ iter)
      · rw [hpc] at hat
        cases hat
        rfl
      · intro d hd
        obtain ⟨k, m, -, hstore, rfl⟩ := mem_replayedTo hg h hd
        refine ⟨k, rfl, ?_⟩
        rw [moves_snoc]
        exact (List.singleton_sublist.mpr hstore).append (.refl _)
      · -- nothing is sent to a subscription before its replay
        intro d hd d' hd' heq
        obtain ⟨k, m, -, -, rfl⟩ := mem_replayedTo hg h hd
        have hcall : d'.call = some k := congrArg Prod.fst heq
        have hsubscription : d'.subscription = call := congrArg (fun key => key.2.1) heq
        have hvia : d'.via = .replay := congrArg (fun key => key.2.2) heq
        have hdone : Move.replay d'.subscription ∈ moves ls :=
          ((h.due d' hd').replay hvia hcall).mem (by simp)
        rw [hsubscription] at hdone
        exact hc.not_done t (by rw [hpc]; rfl) (by rw [hpc]; rfl) hdone

theorem clones_ledger {clientId : String} (h : (clones B p clientId).Trace ls cfg) :
    Ledger ls cfg := by
  refine clones_inductive (.new clientId) ?_ h
  intro ls cfg l cfg' hg hc hl hmoves
  exact hmoves.ledger hg hc hl

end StingerMqtt

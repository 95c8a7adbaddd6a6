import StingerMqtt.Concurrent.Ledger
import StingerMqtt.Concurrent.Schedule

/-!
# The latest value of a topic

`simulate_receive` stores its message under one lock and sends it under
another. The retained store ends with the message of the call that stored last,
a subscriber with the message of the call that fanned out last, and nothing
makes them the same call.
-/

namespace StingerMqtt

open Kit Mock MockWorld

variable {B : Broadcast MqttMessage} {p : Profile} {cfg₀ cfg cfg' : Config B} {t : ThreadId}
  {move : Move} {ls : List Label} {topic : String}

/-! ## What is stored and what is sent last -/

/-- The topic a section stores on, with its call and message. -/
def Move.stores : Move → Option (String × CallId × MqttMessage)
  | .store call m => some (m.topic, call, m)
  | _ => none

/-- The topic a section fans out on, with its call and message. -/
def Move.fansOut : Move → Option (String × CallId × MqttMessage)
  | .fanOut call m => some (m.topic, call, m)
  | _ => none

theorem Move.received_of_stores {call : CallId} {m : MqttMessage}
    (h : move.stores = some (topic, call, m)) :
    move.received = some (call, m) ∧ m.topic = topic := by
  cases move with
  | store =>
      cases h
      exact ⟨rfl, rfl⟩
  | _ => cases h

theorem Move.received_of_fansOut {call : CallId} {m : MqttMessage}
    (h : move.fansOut = some (topic, call, m)) :
    move.received = some (call, m) ∧ m.topic = topic := by
  cases move with
  | fanOut =>
      cases h
      exact ⟨rfl, rfl⟩
  | _ => cases h

/-- The last message stored on `topic` in a history is that of `call`. -/
abbrev LastStored (ls : List Label) (topic : String) (call : CallId) (m : MqttMessage) : Prop :=
  LastWrite Move.stores (fun _ => false) (moves ls) topic (call, m)

/-- The last message fanned out on `topic` in a history is that of `call`. -/
abbrev LastFannedOut (ls : List Label) (topic : String) (call : CallId) (m : MqttMessage) : Prop :=
  LastWrite Move.fansOut (fun _ => false) (moves ls) topic (call, m)

/-- The last message on `topic` that was sent to the subscription of a
subscribe. -/
def Config.lastSent (cfg : Config B) (subscription : CallId) (topic : String) :
    Option MqttMessage :=
  (cfg.deliveries.filter fun d =>
    d.subscription = subscription ∧ d.message.topic = topic).getLast?.map Delivery.message

theorem filter_key {rows : List (CallId × Subscription)} (hnodup : (rows.map Prod.fst).Nodup)
    {r : CallId × Subscription} (hr : r ∈ rows) :
    rows.filter (fun r' => r'.1 = r.1) = [r] := by
  have hcongr : rows.filter (fun r' => r'.1 = r.1) = rows.filter (fun r' => r' = r) := by
    apply List.filter_congr
    intro r' hr'
    refine decide_eq_decide.mpr ⟨?_, fun heq => heq ▸ rfl⟩
    intro hkey
    exact List.inj_on_of_nodup_map hnodup hr' hr hkey
  rw [hcongr, List.filter_eq, (hnodup.of_map _).count, if_pos hr]
  rfl

/-- On live channels a fan-out sends to every row that matches, once. -/
theorem fannedOut_for (hg : cfg.Good) (hl : Ledger ls cfg) (hlive : cfg.AllLive)
    {r : CallId × Subscription} (hr : r ∈ cfg.rows) (call : CallId) (m : MqttMessage) :
    (cfg.fannedOut call m).filter
        (fun d => d.subscription = r.1 ∧ d.message.topic = topic) =
      if topicMatches r.2.topic m.topic = true ∧ m.topic = topic then
        [⟨some call, r.1, r.2, m, .fanOut⟩]
      else [] := by
  have hall : ((cfg.rows.filter fun row => topicMatches row.2.topic m.topic).takeWhile
      fun row => cfg.world.channels.Live row.2.tx) =
      cfg.rows.filter fun row => topicMatches row.2.topic m.topic := by
    rw [List.takeWhile_eq_self_iff]
    intro row hrow
    have hmem : row.2 ∈ cfg.world.table := by
      rw [← hg.rows]
      exact List.mem_map_of_mem (List.mem_of_mem_filter hrow)
    exact decide_eq_true (hlive row.2 hmem)
  -- no other row is of this subscribe
  have hrow : ∀ q : CallId × Subscription → Bool,
      (cfg.rows.filter q).filter (fun r' => r'.1 = r.1) = if q r then [r] else [] := by
    intro q
    rw [List.filter_filter]
    simp only [Bool.and_comm]
    rw [← List.filter_filter, filter_key hl.rowsOnce hr, List.filter_singleton]
    cases q r <;> rfl
  unfold Config.fannedOut
  rw [hall, List.filter_map]
  by_cases htopic : m.topic = topic
  · have hpred : ((fun d : Delivery => decide (d.subscription = r.1 ∧ d.message.topic = topic)) ∘
        fun row : CallId × Subscription => ⟨some call, row.1, row.2, m, .fanOut⟩) =
        fun r' => decide (r'.1 = r.1) := by
      funext r'
      simp [htopic]
    rw [hpred, hrow]
    by_cases hmatch : topicMatches r.2.topic m.topic = true
    · rw [if_pos hmatch, if_pos ⟨hmatch, htopic⟩]
      rfl
    · rw [if_neg hmatch, if_neg fun h => hmatch h.1]
      rfl
  · have hpred : ((fun d : Delivery => decide (d.subscription = r.1 ∧ d.message.topic = topic)) ∘
        fun row : CallId × Subscription => ⟨some call, row.1, row.2, m, .fanOut⟩) =
        fun _ => false := by
      funext r'
      simp [htopic]
    rw [hpred, List.filter_false, if_neg fun h => htopic h.2]
    rfl

/-! ## Runs that only receive retained messages -/

/-- Whether a step may occur in a run whose only calls are `simulate_receive`
with the retain flag. -/
def Move.receivesOnly : Move → Bool
  | .invoke _ (.simulateReceive m) => m.retain
  | .invoke .. => false
  | _ => true

/-- Where a thread can be in such a run. -/
def Pc.receivesOnly : Pc → Bool
  | .idle | .store .. | .fanOut .. | .returning .. => true
  | _ => false

/-- What holds in such a run that started at `cfg₀`. -/
structure Receiving (cfg₀ : Config B) (ls : List Label) (cfg : Config B) : Prop where
  threads : ∀ t, (cfg.threads t).receivesOnly = true
  rows : cfg.rows = cfg₀.rows
  healthy : cfg.world.poisoned = false
  stored : ∀ topic, Holds Move.stores Prod.snd (moves ls) topic
    (cfg₀.world.retained.lookup topic) (cfg.world.retained.lookup topic)
  sent : ∀ r ∈ cfg.rows, ∀ topic, topicMatches r.2.topic topic = true →
    Holds Move.fansOut Prod.snd (moves ls) topic (cfg₀.lastSent r.1 topic)
      (cfg.lastSent r.1 topic)
  progress : ∀ call m, Move.invoke call (.simulateReceive m) ∈ moves ls →
    (∃ t, cfg.threads t = .store call m) ∨
      Move.store call m ∈ moves ls ∧
        ((∃ t, cfg.threads t = .fanOut call m) ∨ Move.fanOut call m ∈ moves ls)

theorem Receiving.start (hidle : ∀ t, cfg₀.threads t = .idle)
    (hhealthy : cfg₀.world.poisoned = false) : Receiving cfg₀ [] cfg₀ where
  threads t := by
    rw [hidle]
    rfl
  rows := rfl
  healthy := hhealthy
  stored _ := .nil
  sent _ _ _ _ := .nil
  progress _ _ h := absurd h List.not_mem_nil

/-- Every call of such a run that has begun goes on: this step is its next
section, or leaves it where it is. -/
theorem Receiving.progress_step (h : Receiving cfg₀ ls cfg) {pc : Pc}
    (hthreads : cfg'.threads = Function.update cfg.threads t pc)
    (hinvoke : ∀ call m, move = .invoke call (.simulateReceive m) → pc = .store call m)
    (hstore : ∀ call m, cfg.threads t = .store call m →
      move = .store call m ∧ pc = .fanOut call m)
    (hfan : ∀ call m, cfg.threads t = .fanOut call m → move = .fanOut call m) (call : CallId)
    (m : MqttMessage) (hmem : Move.invoke call (.simulateReceive m) ∈ moves (ls ++ [⟨t, move⟩])) :
    (∃ t, cfg'.threads t = .store call m) ∨
      Move.store call m ∈ moves (ls ++ [⟨t, move⟩]) ∧
        ((∃ t, cfg'.threads t = .fanOut call m) ∨
          Move.fanOut call m ∈ moves (ls ++ [⟨t, move⟩])) := by
  have hself : cfg'.threads t = pc := by rw [hthreads, Function.update_self]
  rw [moves_snoc] at hmem ⊢
  rcases List.mem_append.mp hmem with hmem | hmem
  · rcases h.progress call m hmem with ⟨t', hpc⟩ | ⟨hstored, ⟨t', hpc⟩ | hfanned⟩
    · rcases Config.threads_cases hthreads t' with ⟨rfl, -⟩ | ⟨-, hsame⟩
      · obtain ⟨rfl, rfl⟩ := hstore call m hpc
        exact .inr ⟨by simp, .inl ⟨t', hself⟩⟩
      · exact .inl ⟨t', hsame.trans hpc⟩
    · refine .inr ⟨List.mem_append_left _ hstored, ?_⟩
      rcases Config.threads_cases hthreads t' with ⟨rfl, -⟩ | ⟨-, hsame⟩
      · obtain rfl := hfan call m hpc
        exact .inr (by simp)
      · exact .inl ⟨t', hsame.trans hpc⟩
    · exact .inr ⟨List.mem_append_left _ hstored, .inr (List.mem_append_left _ hfanned)⟩
  · have hmove := List.mem_singleton.mp hmem
    exact .inl ⟨t, hself.trans (hinvoke call m hmove.symm)⟩

/-- A step of such a run that neither stores nor sends. -/
theorem Receiving.quiet (h : Receiving cfg₀ ls cfg) {pc : Pc}
    (hthreads : cfg'.threads = Function.update cfg.threads t pc) (hpc : pc.receivesOnly = true)
    (hstores : move.stores = none) (hfansOut : move.fansOut = none)
    (hrows : cfg'.rows = cfg.rows) (hpoisoned : cfg'.world.poisoned = cfg.world.poisoned)
    (hretained : cfg'.world.retained = cfg.world.retained)
    (hsent : cfg'.deliveries = cfg.deliveries)
    (hprogress : ∀ call m, Move.invoke call (.simulateReceive m) ∈ moves (ls ++ [⟨t, move⟩]) →
      (∃ t, cfg'.threads t = .store call m) ∨
        Move.store call m ∈ moves (ls ++ [⟨t, move⟩]) ∧
          ((∃ t, cfg'.threads t = .fanOut call m) ∨
            Move.fanOut call m ∈ moves (ls ++ [⟨t, move⟩]))) :
    Receiving cfg₀ (ls ++ [⟨t, move⟩]) cfg' where
  threads t' := by
    rcases Config.threads_cases hthreads t' with ⟨-, hself⟩ | ⟨-, hsame⟩
    · rw [hself]
      exact hpc
    · rw [hsame]
      exact h.threads t'
  rows := hrows.trans h.rows
  healthy := hpoisoned.trans h.healthy
  stored topic := by
    rw [hretained, moves_snoc]
    apply (h.stored topic).skip
    intro v heq
    rw [hstores] at heq
    cases heq
  sent r hr topic hmatch := by
    rw [hrows] at hr
    unfold Config.lastSent
    rw [hsent, moves_snoc]
    apply (h.sent r hr topic hmatch).skip
    intro v heq
    rw [hfansOut] at heq
    cases heq
  progress := hprogress

theorem Receiving.store (h : Receiving cfg₀ ls cfg) {call : CallId} {m : MqttMessage}
    (hpc : cfg.threads t = .store call m) :
    Receiving cfg₀ (ls ++ [⟨t, .store call m⟩])
      ({ cfg with
          world := cfg.world.setRetained (cfg.world.retained.insert m.topic m)
          origin := Function.update cfg.origin m.topic (some call) }.goto t (.fanOut call m)) where
  threads t' := by
    rcases Config.goto_threads_cases t' with ⟨-, hself⟩ | ⟨-, hsame⟩
    · rw [hself]
      rfl
    · rw [hsame]
      exact h.threads t'
  rows := h.rows
  healthy := h.healthy
  stored topic := by
    show Holds _ _ _ _ _ ((cfg.world.retained.insert m.topic m).lookup topic)
    rw [moves_snoc]
    by_cases htopic : topic = m.topic
    · subst htopic
      rw [AList.lookup_insert]
      exact Holds.write (call, m) rfl
    · rw [AList.lookup_insert_ne htopic]
      refine (h.stored topic).skip fun v heq => htopic ?_
      exact (congrArg Prod.fst (Option.some_inj.mp heq)).symm
  sent r hr topic hmatch := by
    rw [moves_snoc]
    exact (h.sent r hr topic hmatch).skip fun _ heq => by cases heq
  progress := by
    refine h.progress_step rfl (fun _ _ heq => by cases heq) (fun call' m' hat => ?_)
      fun call' m' hat => ?_
    · rw [hpc] at hat
      cases hat
      exact ⟨rfl, rfl⟩
    · rw [hpc] at hat
      cases hat

theorem Receiving.fanOut (hg : cfg.Good) {tr : List Label} (hl : Ledger tr cfg)
    (hlive : cfg.AllLive) (h : Receiving cfg₀ ls cfg) {call : CallId} {m : MqttMessage}
    {b : Bank B} {out : Outcome Reply} (hpc : cfg.threads t = .fanOut call m) :
    Receiving cfg₀ (ls ++ [⟨t, .fanOut call m⟩])
      ({ cfg with
          world := cfg.world.setChannels b
          deliveries := cfg.deliveries ++ cfg.fannedOut call m }.goto t (.returning call out)) where
  threads t' := by
    rcases Config.goto_threads_cases t' with ⟨-, hself⟩ | ⟨-, hsame⟩
    · rw [hself]
      rfl
    · rw [hsame]
      exact h.threads t'
  rows := h.rows
  healthy := h.healthy
  stored topic := by
    rw [moves_snoc]
    exact (h.stored topic).skip fun _ heq => by cases heq
  sent r hr topic hmatch := by
    have hlast : (cfg.deliveries ++ cfg.fannedOut call m).filter
          (fun d => d.subscription = r.1 ∧ d.message.topic = topic) =
        cfg.deliveries.filter (fun d => d.subscription = r.1 ∧ d.message.topic = topic) ++
          if topicMatches r.2.topic m.topic = true ∧ m.topic = topic then
            [⟨some call, r.1, r.2, m, .fanOut⟩]
          else [] := by
      rw [List.filter_append, fannedOut_for hg hl hlive hr]
    rw [moves_snoc]
    show Holds _ _ _ _ _ (((cfg.deliveries ++ cfg.fannedOut call m).filter
      (fun d => d.subscription = r.1 ∧ d.message.topic = topic)).getLast?.map Delivery.message)
    rw [hlast]
    by_cases htopic : m.topic = topic
    · subst htopic
      rw [if_pos ⟨hmatch, rfl⟩, List.getLast?_concat]
      exact Holds.write (call, m) rfl
    · rw [if_neg fun h => htopic h.2, List.append_nil]
      refine (h.sent r hr topic hmatch).skip fun v heq => htopic ?_
      exact congrArg Prod.fst (Option.some_inj.mp heq)
  progress := by
    refine h.progress_step rfl (fun _ _ heq => by cases heq) (fun call' m' hat => ?_)
      fun call' m' hat => ?_
    · rw [hpc] at hat
      cases hat
    · rw [hpc] at hat
      cases hat
      rfl

theorem Moves.receiving (hg : cfg.Good) {tr : List Label} (hl : Ledger tr cfg)
    (hlive : cfg.AllLive) (h : Receiving cfg₀ ls cfg) (honly : move.receivesOnly = true)
    (hmoves : Moves p cfg t move cfg') : Receiving cfg₀ (ls ++ [⟨t, move⟩]) cfg' := by
  have hat := h.threads t
  cases hmoves with
  | @invoke op hpc hvalid =>
      have hop : ∃ m, op = .simulateReceive m ∧ m.retain = true := by
        cases op with
        | simulateReceive m => exact ⟨m, rfl, honly⟩
        | _ => cases honly
      obtain ⟨m, rfl, hretain⟩ := hop
      have hstart : Pc.start cfg.nextCall (.simulateReceive m) = .store cfg.nextCall m :=
        if_pos hretain
      refine h.quiet rfl ?_ rfl rfl rfl rfl rfl rfl (h.progress_step rfl ?_ ?_ ?_)
      · rw [hstart]
        rfl
      · intro call m' heq
        cases heq
        exact hstart
      · intro call m' hat
        rw [hpc] at hat
        cases hat
      · intro call m' hat
        rw [hpc] at hat
        cases hat
  | store hpc => exact h.store hpc
  | fanOut hpc => exact h.fanOut hg hl hlive hpc
  | fanOutPanicked _ _ hp =>
      rw [h.healthy] at hp
      cases hp
  | ret hpc =>
      refine h.quiet rfl rfl rfl rfl rfl rfl rfl rfl
        (h.progress_step rfl (fun _ _ heq => by cases heq) ?_ ?_)
      · intro call m' hat
        rw [hpc] at hat
        cases hat
      · intro call m' hat
        rw [hpc] at hat
        cases hat
  | lockPanicked hpc | lock hpc | allocateOverflow hpc | allocate hpc | replay hpc | atomic hpc =>
      -- no thread is in such a call
      rw [hpc] at hat
      cases hat

/-- What such a run makes of the store and of what was sent. -/
theorem run_receiving {clientId : String} {ls₀ : List Label}
    (h₀ : (clones B p clientId).Trace ls₀ cfg₀) (hlive : cfg₀.AllLive)
    (hidle : ∀ t, cfg₀.threads t = .idle) (hhealthy : cfg₀.world.poisoned = false)
    (hrun : ((clones B p clientId).within Config.AllLive).Run cfg₀ ls cfg)
    (honly : ∀ move ∈ moves ls, move.receivesOnly = true) : Receiving cfg₀ ls cfg := by
  induction hrun with
  | nil => exact .start hidle hhealthy
  | @snoc ls mid cfg l hrun hstep ih =>
      rw [moves_snoc] at honly
      have htrace := h₀.append (TSys.within_run hrun)
      have hg := clones_good ⟨_, htrace⟩
      have hmid : mid.AllLive := TSys.within_last hrun hlive
      refine (step_moves hg hstep.1).receiving hg (clones_ledger htrace) hmid (ih ?_) ?_
      · exact fun move hmove => honly move (List.mem_append_left _ hmove)
      · exact honly l.move (List.mem_append_right _ (List.mem_singleton_self _))

/-- From an idle configuration on, whoever stores or sends was called since. -/
theorem run_announced {clientId : String} {ls₀ : List Label}
    (h₀ : (clones B p clientId).Trace ls₀ cfg₀) (hidle : ∀ t, cfg₀.threads t = .idle)
    (hrun : (clones B p clientId).Run cfg₀ ls cfg) : Announced ls cfg := by
  induction hrun with
  | nil =>
      refine ⟨?_, fun move hmove => absurd hmove List.not_mem_nil⟩
      intro t call m heq
      rw [hidle] at heq
      cases heq
  | snoc hrun hstep ih =>
      have hg := clones_good ⟨_, h₀.append hrun⟩
      exact (step_moves hg hstep).announced ih

/-- Retained messages are received by any number of threads. When all calls
have returned, the store holds for each topic what was stored on it last, and
each subscription that matches was last sent what was fanned out last. The two
are one message if one call did both. A topic nothing was received on is as it
was. -/
theorem latest_values {clientId : String} {ls₀ : List Label}
    (h₀ : (clones B p clientId).Trace ls₀ cfg₀) (hlive : cfg₀.AllLive)
    (hidle : ∀ t, cfg₀.threads t = .idle) (hhealthy : cfg₀.world.poisoned = false)
    (hrun : ((clones B p clientId).within Config.AllLive).Run cfg₀ ls cfg)
    (honly : ∀ move ∈ moves ls, move.receivesOnly = true)
    (hreturned : ∀ t, cfg.threads t = .idle) :
    (∀ c, cfg.world.channels.sent c =
      Bank.onChannel c (copies (cfg.deliveries.map Delivery.send))) ∧
    cfg.rows = cfg₀.rows ∧ cfg.rows.map Prod.snd = cfg.world.table ∧
    (∀ call m, Move.invoke call (.simulateReceive m) ∈ moves ls →
      ∃ call₁ m₁ call₂ m₂, LastStored ls m.topic call₁ m₁ ∧ LastFannedOut ls m.topic call₂ m₂ ∧
        cfg.world.retained.lookup m.topic = some m₁ ∧
        (∀ r ∈ cfg.rows, topicMatches r.2.topic m.topic = true →
          cfg.lastSent r.1 m.topic = some m₂) ∧
        (call₁ = call₂ → m₁ = m₂)) ∧
    (∀ topic, (∀ call m, Move.invoke call (.simulateReceive m) ∈ moves ls → m.topic ≠ topic) →
      cfg.world.retained.lookup topic = cfg₀.world.retained.lookup topic ∧
      ∀ r ∈ cfg.rows, topicMatches r.2.topic topic = true →
        cfg.lastSent r.1 topic = cfg₀.lastSent r.1 topic) := by
  have htrace := h₀.append (TSys.within_run hrun)
  have hg := clones_good ⟨_, htrace⟩
  have hc := clones_calls htrace
  have ha := clones_announced htrace
  have hr := run_receiving h₀ hlive hidle hhealthy hrun honly
  refine ⟨clones_sent htrace, hr.rows, hg.rows, ?_, ?_⟩
  · intro call m hinvoked
    -- the call has stored and sent its message, so there is a last one that did
    have hdone : Move.store call m ∈ moves ls ∧ Move.fanOut call m ∈ moves ls := by
      rcases hr.progress call m hinvoked with ⟨t, hpc⟩ | ⟨hstored, ⟨t, hpc⟩ | hfanned⟩
      · rw [hreturned] at hpc
        cases hpc
      · rw [hreturned] at hpc
        cases hpc
      · exact ⟨hstored, hfanned⟩
    obtain ⟨before, after, hsplit⟩ := List.append_of_mem hdone.1
    obtain ⟨before', after', hsplit'⟩ := List.append_of_mem hdone.2
    obtain ⟨⟨call₁, m₁⟩, hlast₁⟩ :
        ∃ v, LastWrite Move.stores (fun _ => false) (moves ls) m.topic v := by
      rw [hsplit]
      exact exists_lastWrite rfl fun _ _ => rfl
    obtain ⟨⟨call₂, m₂⟩, hlast₂⟩ :
        ∃ v, LastWrite Move.fansOut (fun _ => false) (moves ls) m.topic v := by
      rw [hsplit']
      exact exists_lastWrite rfl fun _ _ => rfl
    refine ⟨call₁, m₁, call₂, m₂, hlast₁, hlast₂, (hr.stored m.topic).last _ hlast₁,
      fun r hrow hmatch => (hr.sent r hrow m.topic hmatch).last _ hlast₂, ?_⟩
    rintro rfl
    have hall : ∀ move ∈ moves ls, move ∈ moves (ls₀ ++ ls) := by
      intro move hmove
      unfold moves at hmove ⊢
      rw [List.map_append]
      exact List.mem_append_right _ hmove
    obtain ⟨move₁, hmove₁, hstores⟩ := hlast₁.exists_mem
    obtain ⟨move₂, hmove₂, hfansOut⟩ := hlast₂.exists_mem
    exact ha.unique hc (hall _ hmove₁) (hall _ hmove₂) (Move.received_of_stores hstores).1
      (Move.received_of_fansOut hfansOut).1
  · intro topic hnone
    -- whoever stores or sends on the topic was called with a message on it
    have hann := run_announced h₀ hidle (TSys.within_run hrun)
    refine ⟨(hr.stored topic).kept ?_, fun r hrow hmatch => (hr.sent r hrow topic hmatch).kept ?_⟩
    · rintro move hmove ⟨call, m⟩ hstores
      obtain ⟨hreceived, htopic⟩ := Move.received_of_stores hstores
      exact hnone call m (hann.after move hmove call m hreceived) htopic
    · rintro move hmove ⟨call, m⟩ hfansOut
      obtain ⟨hreceived, htopic⟩ := Move.received_of_fansOut hfansOut
      exact hnone call m (hann.after move hmove call m hreceived) htopic

/-- A subscription, made before anything is received. -/
def subscribeFirst : List Turn :=
  [.call 0 (.channel 4), .go 0, .go 0,
    .call 0 (.subscribe "a" .atMostOnce 0 (.stored _ _)), .go 0, .go 0, .go 0, .go 0]

/-- Two threads receive on one topic; the one that stores first fans out last. -/
def receiveCrossed : List Turn :=
  [.call 0 (.simulateReceive (.simple "a" .atMostOnce true [1])),
    .call 1 (.simulateReceive (.simple "a" .atMostOnce true [2])),
    .go 0, .go 1, .go 1, .go 0, .go 0, .go 1]

/-- The client with its subscription. -/
def crossedStart : List Label × Config (.log MqttMessage) :=
  ((Config.new (.log MqttMessage) "mock-client").play .debug Config.AllLive
    subscribeFirst).get (by decide)

/-- The two calls from there. -/
def crossedRun : List Label × Config (.log MqttMessage) :=
  (crossedStart.2.play .debug Config.AllLive receiveCrossed).get (by decide)

theorem crossedStart_trace :
    ((clones (.log MqttMessage) .debug "mock-client").within Config.AllLive).Trace
      crossedStart.1 crossedStart.2 :=
  Config.play_trace (by decide) (Option.some_get _).symm

theorem crossedRun_run :
    ((clones (.log MqttMessage) .debug "mock-client").within Config.AllLive).Run
      crossedStart.2 crossedRun.1 crossedRun.2 :=
  Config.play_run "mock-client" (Option.some_get _).symm

theorem crossedStart_idle (t : ThreadId) : crossedStart.2.threads t = .idle := by
  obtain ⟨_, ⟨rfl, -⟩, hsteps⟩ := crossedStart_trace
  exact run_idle ⟨[], _, rfl, .nil⟩ (fun _ => rfl) (TSys.within_run hsteps) (by decide) t

theorem crossedRun_idle (t : ThreadId) : crossedRun.2.threads t = .idle :=
  run_idle ⟨_, TSys.within_trace crossedStart_trace⟩ crossedStart_idle
    (TSys.within_run crossedRun_run) (by decide) t

theorem latest_values_run :
    crossedRun.2.world.retained.lookup "a" = some (.simple "a" .atMostOnce true [2]) ∧
      ∃ call₁ m₁ call₂ m₂, LastStored crossedRun.1 "a" call₁ m₁ ∧
        LastFannedOut crossedRun.1 "a" call₂ m₂ ∧
        crossedRun.2.world.retained.lookup "a" = some m₁ ∧
        (∀ r ∈ crossedRun.2.rows, topicMatches r.2.topic "a" = true →
          crossedRun.2.lastSent r.1 "a" = some m₂) ∧
        (call₁ = call₂ → m₁ = m₂) := by
  obtain ⟨-, -, -, hlatest, -⟩ := latest_values (TSys.within_trace crossedStart_trace) (by decide)
    crossedStart_idle rfl crossedRun_run (by decide) crossedRun_idle
  refine ⟨by decide, ?_⟩
  exact hlatest 2 (.simple "a" .atMostOnce true [1]) List.mem_cons_self

/-- It is not true that the last message sent on a topic is the one the store
holds. -/
theorem not_latest :
    ¬ ∀ ls₀ (cfg₀ : Config (.log MqttMessage)) ls cfg,
      (clones (.log MqttMessage) .debug "mock-client").Trace ls₀ cfg₀ → cfg₀.AllLive →
      (∀ t, cfg₀.threads t = .idle) → cfg₀.world.poisoned = false →
      ((clones (.log MqttMessage) .debug "mock-client").within Config.AllLive).Run cfg₀ ls cfg →
      (∀ move ∈ moves ls, move.receivesOnly = true) → (∀ t, cfg.threads t = .idle) →
      ∀ topic, ∀ r ∈ cfg.rows, topicMatches r.2.topic topic = true →
        cfg.lastSent r.1 topic = cfg.world.retained.lookup topic := by
  intro h
  have hsame := h _ _ _ _ (TSys.within_trace crossedStart_trace) (by decide) crossedStart_idle rfl
    crossedRun_run (by decide) crossedRun_idle "a" (1, ⟨"a", 1, 0⟩) (by decide) (by decide)
  exact absurd hsame (by decide)

end StingerMqtt

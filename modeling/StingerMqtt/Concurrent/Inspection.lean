import StingerMqtt.Kit.Builder
import StingerMqtt.Concurrent.Schedule
import StingerMqtt.Concurrent.Sections

/-!
# What the inspectors see

`published_messages`, `last_published_message` and `retained_messages` look at a
client that other threads publish to, receive on and clear at the same time. Each
is one section, and what it answers is the history up to that section: the
messages published since the last clear, in the order in which they were
recorded, and for every topic the last message stored since the last clear.
-/

namespace StingerMqtt

open Kit Mock MockWorld

variable {B : Broadcast MqttMessage} {p : Profile} {clientId : String}

/-! ## The history as the inspectors see it -/

/-- The message a section appends to the list of published messages. -/
def Move.publishes : Move → Option MqttMessage
  | .atomic _ (.publish message) => some message
  | .atomic _ (.publishNoblock message) => some message
  | .atomic _ (.publishNowait message) => some message
  | _ => none

/-- The section empties the list of published messages. -/
def Move.clearsPublished : Move → Option Unit
  | .atomic _ .clearPublishedMessages => some ()
  | _ => none

/-- The messages published in a history since the last clear. -/
def published (ms : List Move) : List MqttMessage :=
  (since Move.clearsPublished ms).filterMap Move.publishes

/-- The entry a section writes to the retained store. -/
def Move.writesRetained : Move → Option (String × MqttMessage)
  | .store _ message => some (message.topic, message)
  | _ => none

/-- The section empties the retained store. -/
def Move.clearsRetained : Move → Bool
  | .atomic _ .clearRetainedMessages => true
  | _ => false

/-- Of the messages stored on `topic` in a history since the last clear, the
last one. -/
abbrev LastKept (ms : List Move) (topic : String) (message : MqttMessage) : Prop :=
  LastWrite Move.writesRetained Move.clearsRetained ms topic message

/-- What a call that publishes or looks at the published messages answers, if
`msgs` were published before. -/
def Op.publishedAnswer (msgs : List MqttMessage) : Op → Option Reply
  | .publish message => some (.published (.ok (publishSuccess message.qos)))
  | .publishNoblock message => some (.published (.ok (publishSuccess message.qos)))
  | .publishNowait _ => some (.published (.ok .queued))
  | .lastPublishedMessage => some (.lastMessage msgs.getLast?)
  | .publishedMessages => some (.messages msgs)
  | .clearPublishedMessages => some .done
  | _ => none

/-- The list of published messages. -/
def MockWorld.published (w : MockWorld B) : List MqttMessage := w.client.publishedMessages.data

theorem published_snoc (ms : List Move) (move : Move) :
    published (ms ++ [move]) =
      if move.clearsPublished.isSome then [] else published ms ++ move.publishes.toList := by
  unfold published
  cases hclear : move.clearsPublished with
  | some _ =>
      rw [since_snoc_some (by simp [hclear])]
      rfl
  | none =>
      rw [since_snoc_none hclear, List.filterMap_append]
      cases hpub : move.publishes <;> simp [hpub]

/-! ## A section -/

section

variable {cfg cfg' : Config B} {t : ThreadId} {move : Move}

theorem exec_published {w : MockWorld B} (hw : w.Locks) (call : CallId) {op : Op}
    (hone : op.oneSection = true) :
    (op.exec p w).2.published =
      if (Move.atomic call op).clearsPublished.isSome then []
      else w.published ++ (Move.atomic call op).publishes.toList := by
  have hnothing : w.published = w.published ++ [] := (List.append_nil _).symm
  cases op with
  | subscribe | simulateReceive => cases hone
  | publish m | publishNoblock m | publishNowait m =>
      show (recordPublished _ m w).2.published = w.published ++ [m]
      rw [recordPublished_eq hw]
      rfl
  | clearPublishedMessages =>
      show (clearPublishedMessages w).2.published = []
      rw [clearPublishedMessages_eq hw]
      rfl
  | clearRetainedMessages =>
      show (clearRetainedMessages w).2.published = w.published ++ []
      rw [clearRetainedMessages_eq hw]
      exact hnothing
  | unsubscribe topic =>
      show (unsubscribe topic w).2.published = w.published ++ []
      unfold Mock.unsubscribe
      cases w.client.subscriptions.lock <;> exact hnothing
  | lastPublishedMessage | publishedMessages | retainedMessages | channel | addReceiver
  | dropReceiver => exact hnothing

/-- Every step appends to the published messages what it publishes. -/
theorem step_published (hg : cfg.Good) {l : Label}
    (h : (clones B p clientId).step cfg l cfg') :
    cfg'.world.published =
      if l.move.clearsPublished.isSome then []
      else cfg.world.published ++ l.move.publishes.toList := by
  have hnothing : cfg.world.published = cfg.world.published ++ [] := (List.append_nil _).symm
  rcases h with ⟨op, hmove, -, -, rfl⟩ | h
  · rw [hmove]
    exact hnothing
  · have hadvances := advance_inv h
    have hmoves := advance_moves hg h
    generalize l.move = move at hadvances hmoves
    cases hmoves with
    | atomic hpc _ _ =>
        rw [(hadvances.atomic hpc).1]
        exact exec_published hg.sound.locks _ (hg.oneSection hpc)
    | _ => exact hnothing

/-- Every step writes to the retained store what it stores. -/
theorem Moves.retained (hg : cfg.Good) (h : Moves p cfg t move cfg') :
    cfg'.world.retained =
      applyWrite Move.writesRetained Move.clearsRetained cfg.world.retained move := by
  cases h with
  | @atomic call op out w' hpc _ heffect =>
      have hone := hg.oneSection hpc
      cases op with
      | subscribe | simulateReceive => cases hone
      | _ => exact heffect.retained
  | _ => rfl

end

/-! ## What a call in one section answers -/

/-- A thread that is about to return does nothing else. -/
theorem run_returning {cfg cfg' : Config B} {ls : List Label} {t : ThreadId} {call : CallId}
    {out : Outcome Reply} (hpc : cfg.threads t = .returning call out)
    (h : (clones B p clientId).Run cfg ls cfg') :
    cfg'.threads t = .returning call out ∨ .ret call out ∈ moves ls := by
  induction h with
  | nil => exact .inl hpc
  | @snoc ls mid cfg' l _ hstep ih =>
      rw [moves_snoc, List.mem_append, List.mem_singleton]
      rcases ih with hmid | hdone
      · by_cases ht : l.thread = t
        · subst ht
          rcases hstep with ⟨op, -, hidle, -, -⟩ | hadvance
          · cases hmid.symm.trans hidle
          · have hmove := (advance_inv hadvance).move
            rw [hmid] at hmove
            exact .inr (.inr (Option.some_inj.mp hmove))
        · have hsame : cfg'.threads t = mid.threads t := by
            rcases hstep with ⟨op, -, -, -, rfl⟩ | hadvance
            · exact Function.update_of_ne (Ne.symm ht) _ _
            · rw [(advance_inv hadvance).threads, Function.update_of_ne (Ne.symm ht)]
          exact .inl (hsame.trans hmid)
      · exact .inr (.inl hdone)

theorem Pc.move_atomic {w : MockWorld B} {pc : Pc} {call : CallId} {op : Op}
    (h : pc.move p w = some (.atomic call op)) : pc = .atomic call op := by
  cases pc <;> simp_all [Pc.move]

/-- A call in one section returns what its section answered. -/
theorem answer_of_section {before after : List Label} {t : ThreadId} {call : CallId} {op : Op}
    {cfg' : Config B}
    (h : (clones B p clientId).Trace (before ++ ⟨t, .atomic call op⟩ :: after) cfg') :
    ∃ cfg, (clones B p clientId).Trace before cfg ∧ op.oneSection = true ∧
      ∀ out, .ret call out ∈ moves after → out = (op.exec p cfg.world).1 := by
  obtain ⟨cfg, hbefore, hrun⟩ := h.split
  obtain ⟨cfg₁, hstep, hafter⟩ := hrun.cons_inv
  rcases hstep with ⟨op', hmove, -⟩ | hadvance
  · cases hmove
  · have hadvances := advance_inv hadvance
    have hpc := Pc.move_atomic hadvances.move
    have hg := clones_good ⟨_, hbefore⟩
    refine ⟨cfg, hbefore, hg.oneSection hpc, fun out hret => ?_⟩
    have hc := clones_calls h
    have hmem : ∀ move ∈ moves after,
        move ∈ moves (before ++ ⟨t, .atomic call op⟩ :: after) := by
      intro move hmove
      unfold moves at hmove ⊢
      rw [List.map_append, List.map_cons]
      exact List.mem_append_right _ (List.mem_cons_of_mem _ hmove)
    rcases run_returning (hadvances.atomic hpc).2 hafter with hlast | hdone
    · -- a thread that has not returned yet has not returned anything
      have hcall : (cfg'.threads t).call = some call := by
        rw [hlast]
        rfl
      refine absurd (hmem _ hret) (hc.not_done t hcall ?_)
      rw [hlast]
      exact Nat.le_refl _
    · have heq : Move.ret call out = .ret call (op.exec p cfg.world).1 :=
        hc.unique (hmem _ hret) (hmem _ hdone) rfl rfl
      cases heq
      rfl

/-! ## The inspectors -/

theorem clones_published {ls : List Label} {cfg : Config B}
    (h : (clones B p clientId).Trace ls cfg) : cfg.world.published = published (moves ls) := by
  refine TSys.Trace.induct (I := fun ls cfg => cfg.world.published = published (moves ls)) ?_ ?_ h
  · rintro cfg rfl
    rfl
  · intro ls cfg l cfg' htrace ih hstep
    rw [step_published (clones_good ⟨ls, htrace⟩) hstep, ih, moves_snoc, published_snoc]

theorem clones_retained {ls : List Label} {cfg : Config B}
    (h : (clones B p clientId).Trace ls cfg) (topic : String) (m : MqttMessage) :
    cfg.world.retained.lookup topic = some m ↔ LastKept (moves ls) topic m := by
  refine TSys.Trace.induct (I := fun ls cfg => ∀ topic m,
    cfg.world.retained.lookup topic = some m ↔ LastKept (moves ls) topic m) ?_ ?_ h topic m
  · rintro cfg rfl topic m
    simp [Config.new, moves, not_lastWrite_nil]
  · intro ls cfg l cfg' htrace ih hstep topic m
    have hg := clones_good ⟨ls, htrace⟩
    rw [(step_moves hg hstep).retained hg, moves_snoc]
    refine lookup_applyWrite_iff (fun move hclear => ?_) ih topic m
    cases move with
    | atomic => rfl
    | _ => cases hclear

theorem exec_publishedAnswer {w : MockWorld B} (hw : w.Locks) {op : Op} {reply : Reply}
    (h : op.publishedAnswer w.published = some reply) : (op.exec p w).1 = .returned reply := by
  cases op with
  | publish m | publishNoblock m | publishNowait m =>
      cases h
      show ((recordPublished _ m w).1.map Reply.published) = _
      rw [recordPublished_eq hw]
      rfl
  | lastPublishedMessage =>
      cases h
      show ((lastPublishedMessage w).1.map Reply.lastMessage) = _
      unfold Mock.lastPublishedMessage
      rw [Mutex.lock_of_healthy hw.published]
      rfl
  | publishedMessages =>
      cases h
      show ((publishedMessages w).1.map Reply.messages) = _
      unfold Mock.publishedMessages
      rw [Mutex.lock_of_healthy hw.published]
      rfl
  | clearPublishedMessages =>
      cases h
      show ((clearPublishedMessages w).1.map fun _ => Reply.done) = _
      rw [clearPublishedMessages_eq hw]
      rfl
  | _ => cases h

/-- Whatever other threads do meanwhile, the list of published messages is what
was published since the last clear, in order; and a call that publishes, clears or
looks at the list answers by the list as its section found it. -/
theorem published_log {ls : List Label} {cfg : Config B}
    (h : (clones B p clientId).Trace ls cfg) :
    cfg.world.published = published (moves ls) ∧
      ∀ before after t call op out reply, ls = before ++ ⟨t, .atomic call op⟩ :: after →
        op.publishedAnswer (published (moves before)) = some reply →
        .ret call out ∈ moves after → out = .returned reply := by
  refine ⟨clones_published h, ?_⟩
  intro before after t call op out reply hls hanswer hret
  subst hls
  obtain ⟨cfg₁, hbefore, -, hout⟩ := answer_of_section h
  rw [hout out hret]
  rw [← clones_published hbefore] at hanswer
  exact exec_publishedAnswer (clones_good ⟨_, hbefore⟩).sound.locks hanswer

/-- Two threads publish, a third one looks and clears in between. -/
def publishBetween : List Turn :=
  [.call 0 (.publish (.simple "a" .atLeastOnce false [1])),
    .call 1 (.publishNowait (.simple "b" .atMostOnce false [2])), .call 2 .publishedMessages,
    .go 1, .go 2, .go 0, .go 0, .go 2, .call 2 .clearPublishedMessages, .go 2, .go 1,
    .call 0 (.simulateReceive (.simple "c" .atMostOnce true [3])), .go 0, .go 2,
    .call 2 .retainedMessages, .go 2, .go 0, .go 2]

/-- The run of this schedule. -/
def publishRun : List Label × Config (.log MqttMessage) :=
  ((Config.new (.log MqttMessage) "mock-client").play .debug (fun _ => True)
    publishBetween).get (by decide)

theorem publishRun_trace :
    (clones (.log MqttMessage) .debug "mock-client").Trace publishRun.1 publishRun.2 :=
  TSys.within_trace (Config.play_trace trivial (Option.some_get _).symm)

theorem published_log_run :
    publishRun.2.world.published = published (moves publishRun.1) ∧
      ∀ before after t call op out reply,
        publishRun.1 = before ++ ⟨t, .atomic call op⟩ :: after →
        op.publishedAnswer (published (moves before)) = some reply →
        .ret call out ∈ moves after → out = .returned reply :=
  published_log publishRun_trace

/-- Whatever other threads do meanwhile, the retained store holds for each topic
the last message stored since the last clear, and `retained_messages` answers with
the store as its section found it. -/
theorem retained_log {ls : List Label} {cfg : Config B}
    (h : (clones B p clientId).Trace ls cfg) :
    (∀ topic m, cfg.world.retained.lookup topic = some m ↔ LastKept (moves ls) topic m) ∧
      ∀ before after t call out, ls = before ++ ⟨t, .atomic call .retainedMessages⟩ :: after →
        .ret call out ∈ moves after → ∃ store, out = .returned (.retained store) ∧
          ∀ topic m, store.lookup topic = some m ↔ LastKept (moves before) topic m := by
  refine ⟨clones_retained h, ?_⟩
  intro before after t call out hls hret
  subst hls
  obtain ⟨cfg₁, hbefore, -, hout⟩ := answer_of_section h
  refine ⟨cfg₁.world.retained, ?_, clones_retained hbefore⟩
  rw [hout out hret]
  show ((retainedMessages cfg₁.world).1.map Reply.retained) = _
  rw [retainedMessages_eq (clones_good ⟨_, hbefore⟩).sound.locks]
  rfl

theorem retained_log_run :
    (∀ topic m, publishRun.2.world.retained.lookup topic = some m ↔
        LastKept (moves publishRun.1) topic m) ∧
      ∀ before after t call out,
        publishRun.1 = before ++ ⟨t, .atomic call .retainedMessages⟩ :: after →
        .ret call out ∈ moves after → ∃ store, out = .returned (.retained store) ∧
          ∀ topic m, store.lookup topic = some m ↔ LastKept (moves before) topic m :=
  retained_log publishRun_trace

end StingerMqtt

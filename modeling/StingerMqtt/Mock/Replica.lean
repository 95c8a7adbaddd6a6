import StingerMqtt.Kit.Builder
import StingerMqtt.Mock.Delivery

/-!
# Subscribers as replicas of the retained store

A subscriber that keeps the last message of each topic it is sent: the replay at
its subscribe gives it the part of the retained store its filter matches, and
the fan-out keeps it up to date.
-/

namespace StingerMqtt

open Kit Mock MockWorld

variable {B : Broadcast MqttMessage} {p : Profile} {w w' w₁ w₂ : MockWorld B}

/-! ## The newest message of a topic -/

/-- The message, if it is one on the topic. -/
def onTopic (topic : String) (m : MqttMessage) : Option MqttMessage :=
  if m.topic = topic then some m else none

/-- The last message on the topic. -/
def newest (topic : String) (log : List MqttMessage) : Option MqttMessage :=
  lastValue (onTopic topic) log

theorem newest_append (topic : String) (log log' : List MqttMessage) :
    newest topic (log ++ log') = (newest topic log').or (newest topic log) :=
  lastValue_append log log'

/-- Tags do not matter. -/
theorem newest_tagged (topic : String) (id : UInt32) (log : List MqttMessage) :
    newest topic (log.map fun m => m.tagged id) = (newest topic log).map fun m => m.tagged id := by
  have htagged : ∀ m : MqttMessage, onTopic topic (m.tagged id) =
      (onTopic topic m).map fun m => m.tagged id := by
    intro m
    show (if m.topic = topic then some (m.tagged id) else none) = _
    unfold onTopic
    split <;> rfl
  show lastValue (onTopic topic) _ = (lastValue (onTopic topic) log).map _
  rw [← lastValue_map]
  unfold lastValue
  rw [List.filterMap_map]
  exact congrArg _ (List.filterMap_congr fun m _ => htagged m)

theorem onTopic_eq_some {topic : String} {m m' : MqttMessage} :
    onTopic topic m = some m' ↔ m' = m ∧ m.topic = topic := by
  unfold onTopic
  split <;> simp_all [eq_comm]

/-- The newest message of a topic in a replay is the stored one. -/
theorem newest_replayed (hw : w.Sound) {filter topic : String}
    (hmatch : topicMatches filter topic = true) (iter : IterOrder String MqttMessage) :
    newest topic (replayed filter iter w.retained) = w.retained.lookup topic := by
  have hstored : ∀ m ∈ replayed filter iter w.retained, m.topic = topic →
      w.retained.lookup topic = some m := by
    intro m hm htopic
    obtain ⟨key, hlookup, -⟩ := mem_replayed.mp hm
    rw [← htopic, hw.keys key m hlookup]
    exact hlookup
  cases hlookup : w.retained.lookup topic with
  | none =>
      refine lastValue_eq_none fun m hm => ?_
      unfold onTopic
      rw [if_neg]
      intro htopic
      rw [hstored m hm htopic] at hlookup
      cases hlookup
  | some m =>
      refine lastValue_eq_some (mem_replayed.mpr ⟨topic, hlookup, hmatch⟩)
        (onTopic_eq_some.mpr ⟨rfl, hw.keys topic m hlookup⟩) ?_
      intro m' hm' v hv
      obtain ⟨rfl, htopic'⟩ := onTopic_eq_some.mp hv
      have hsame := hstored v hm' htopic'
      rw [hlookup] at hsame
      exact (Option.some.inj hsame).symm

/-! ## Calls that keep the replica -/

/-- The calls of a history leave the subscription with this filter alone, never
clear the retained store, and receive only retained messages on the topic. -/
structure Mirrored (filter topic : String) (tr : List Event) : Prop where
  subscribed : ∀ e ∈ tr, e.unsubscribes filter = false
  kept : ∀ e ∈ tr, e.clears = false
  retained : ∀ e ∈ tr, ∀ m, e.received = some m → m.topic = topic → m.retain = true

theorem Mirrored.deliveries {filter topic : String} {tr : List Event}
    (h : Mirrored filter topic tr) :
    deliveries filter tr = tr.flatMap (Event.delivers filter) := by
  unfold StingerMqtt.deliveries
  rw [List.takeWhile_eq_self_iff.mpr]
  intro e he
  rw [h.subscribed e he]
  rfl

/-- What one call delivers on the topic is what it writes there. -/
theorem newest_delivers {filter topic : String} (hmatch : topicMatches filter topic = true)
    {e : Event} (hclear : e.clears = false)
    (hretain : ∀ m, e.received = some m → m.topic = topic → m.retain = true)
    (store : HashMap String MqttMessage) :
    (newest topic (e.delivers filter)).or (store.lookup topic) =
      (applyWrite Event.writes Event.clears store e).lookup topic := by
  obtain ⟨op, out⟩ := e
  cases op with
  | simulateReceive m =>
      have hdelivers : Event.delivers filter ⟨.simulateReceive m, out⟩ =
          [m].filter fun m => topicMatches filter m.topic := rfl
      rw [hdelivers]
      by_cases htopic : m.topic = topic
      · have hretained : m.retain = true := hretain m rfl htopic
        rw [applyWrite_some hclear (Event.writes_iff.mpr ⟨rfl, hretained, rfl⟩)]
        subst htopic
        simp [hmatch, newest, onTopic, lastValue]
      · have hskip : newest topic ([m].filter fun m => topicMatches filter m.topic) = none := by
          refine lastValue_eq_none fun m' hm' => ?_
          obtain rfl : m' = m := by simpa using List.mem_of_mem_filter hm'
          exact if_neg htopic
        rw [hskip, Option.none_or]
        cases hretained : m.retain with
        | false => rw [applyWrite_none hclear (by simp [Event.writes, hretained])]
        | true =>
            rw [applyWrite_some hclear (Event.writes_iff.mpr ⟨rfl, hretained, rfl⟩)]
            exact (AList.lookup_insert_ne (Ne.symm htopic)).symm
  | _ =>
      rw [applyWrite_none hclear rfl]
      rfl

/-- What a history delivers on the topic is what it writes there. -/
theorem newest_deliveries {filter topic : String} (hmatch : topicMatches filter topic = true)
    {tr : List Event} (h : Mirrored filter topic tr) (store : HashMap String MqttMessage) :
    (newest topic (deliveries filter tr)).or (store.lookup topic) =
      (tr.foldl (applyWrite Event.writes Event.clears) store).lookup topic := by
  rw [h.deliveries]
  induction tr generalizing store with
  | nil => rfl
  | cons e tr ih =>
      have hrest : Mirrored filter topic tr :=
        ⟨fun e' he' => h.subscribed e' (List.mem_cons_of_mem _ he'),
          fun e' he' => h.kept e' (List.mem_cons_of_mem _ he'),
          fun e' he' => h.retained e' (List.mem_cons_of_mem _ he')⟩
      rw [List.flatMap_cons, newest_append, Option.or_assoc,
        newest_delivers hmatch (h.kept e List.mem_cons_self)
          (h.retained e List.mem_cons_self) store]
      exact ih hrest _

/-- The retained store after a run, from the one before it. -/
theorem run_retained {clientId : String} {tr : List Event} (hw : w.Sound)
    (hrun : (mock B p clientId).Run w tr w') :
    w'.retained = tr.foldl (applyWrite Event.writes Event.clears) w.retained := by
  have hboth : w'.Sound ∧ w'.retained =
      tr.foldl (applyWrite Event.writes Event.clears) w.retained := by
    induction hrun with
    | nil => exact ⟨hw, rfl⟩
    | snoc _ hstep ih =>
        obtain ⟨hmid, hretained⟩ := ih
        obtain ⟨hvalid, heffect⟩ := mock_step hmid hstep
        refine ⟨heffect.sound hmid hvalid, ?_⟩
        rw [heffect.retained, hretained, List.foldl_append]
        rfl
  exact hboth.2

/-! ## Replicas -/

/-- What a subscription has been sent since its subscribe. -/
theorem subscription_log {clientId : String} {pre post : List Event} {filter : String}
    {qos : QoS} {tx : ChannelId} {iter : IterOrder String MqttMessage} {id : UInt32}
    (hpre : ((mock B p clientId).within AllLive).Trace pre w)
    (hsub : ((mock B p clientId).within AllLive).step w
      ⟨.subscribe filter qos tx iter, .returned (.subscribed (.ok id))⟩ w₁)
    (hpost : ((mock B p clientId).within AllLive).Run w₁ post w₂)
    (hcount : subscribeCount pre + 1 + subscribeCount post < 2 ^ 32 - 1) :
    w₂.log ⟨filter, id, tx⟩ =
      (replayed filter iter w.retained ++ deliveries filter post).map fun m => m.tagged id := by
  have hw := mock_sound ⟨pre, TSys.within_trace hpre⟩
  obtain ⟨hn, -⟩ := mock_numbered (TSys.within_trace hpre) (by omega)
  have heffect := (mock_step hw hsub.1).2
  obtain ⟨-, hrow, -, hlive⟩ := subscribed_row heffect
  have hlog := subscribed_log hw hn heffect ((hlive tx).mp (hsub.2 _ hrow))
  have hpre₁ := hpre.snoc hsub
  have hone : Event.isSubscribe ⟨.subscribe filter qos tx iter,
      .returned (.subscribed (.ok id))⟩ = true := rfl
  have hcount₁ : subscribeCount (pre ++ [⟨.subscribe filter qos tx iter,
      .returned (.subscribed (.ok id))⟩]) = subscribeCount pre + 1 := by
    unfold subscribeCount
    rw [List.countP_append, List.countP_singleton, if_pos hone]
  have hcount₂ : subscribeCount (pre ++ [⟨.subscribe filter qos tx iter,
      .returned (.subscribed (.ok id))⟩] ++ post) =
        subscribeCount pre + 1 + subscribeCount post := by
    rw [← hcount₁]
    exact List.countP_append
  obtain ⟨hn₁, -⟩ := mock_numbered (TSys.within_trace hpre₁) (by omega)
  have hunique : ∀ s ∈ w₁.table, s.subId = id → s = ⟨filter, id, tx⟩ :=
    fun s hs hid => hn₁.row_unique hs hrow hid
  rw [run_log hpre₁ hpost (by omega) (hn₁.drawn _ hrow).2 hunique, hlog, if_pos hrow,
    List.map_append]

/-- As long as nobody unsubscribes the filter or clears the store, and only
retained messages are received on a topic that the filter matches, the last
message the subscription was sent on the topic is the one in the store. -/
theorem replica_newest {clientId : String} {pre post : List Event} {filter topic : String}
    {qos : QoS} {tx : ChannelId} {iter : IterOrder String MqttMessage} {id : UInt32}
    (hpre : ((mock B p clientId).within AllLive).Trace pre w)
    (hsub : ((mock B p clientId).within AllLive).step w
      ⟨.subscribe filter qos tx iter, .returned (.subscribed (.ok id))⟩ w₁)
    (hpost : ((mock B p clientId).within AllLive).Run w₁ post w₂)
    (hcount : subscribeCount pre + 1 + subscribeCount post < 2 ^ 32 - 1)
    (hmatch : topicMatches filter topic = true) (hmirrored : Mirrored filter topic post) :
    newest topic (w₂.log ⟨filter, id, tx⟩) =
      (w₂.retained.lookup topic).map fun m => m.tagged id := by
  have hw := mock_sound ⟨pre, TSys.within_trace hpre⟩
  have hw₁ := mock_sound ⟨_, TSys.within_trace (hpre.snoc hsub)⟩
  have hstore : w₁.retained = w.retained := (mock_step hw hsub.1).2.retained
  have hpost' : (mock B p clientId).Run w₁ post w₂ := TSys.within_run hpost
  rw [subscription_log hpre hsub hpost hcount, newest_tagged, newest_append,
    newest_replayed hw hmatch, newest_deliveries hmatch hmirrored, run_retained hw₁ hpost', hstore]

/-- What a subscriber has that keeps the last message of each topic. -/
def replica (log : List MqttMessage) : HashMap String MqttMessage :=
  log.foldl (fun store m => store.insert m.topic m) ∅

theorem lookup_replica (topic : String) (log : List MqttMessage) :
    (replica log).lookup topic = newest topic log := by
  induction log using List.reverseRecOn with
  | nil => rfl
  | append_singleton log m ih =>
      have hsnoc : replica (log ++ [m]) = (replica log).insert m.topic m := by
        unfold replica
        rw [List.foldl_append]
        rfl
      rw [hsnoc, newest_append]
      by_cases htopic : m.topic = topic
      · subst htopic
        rw [AList.lookup_insert]
        simp [newest, onTopic, lastValue]
      · rw [AList.lookup_insert_ne (Ne.symm htopic), ih]
        simp [newest, onTopic, lastValue, htopic]

/-- A subscription is sent nothing on a topic its filter does not match. -/
theorem newest_unmatched (hw : w.Sound) {filter topic : String}
    (hmatch : topicMatches filter topic = false) (iter : IterOrder String MqttMessage)
    (post : List Event) :
    newest topic (replayed filter iter w.retained ++ deliveries filter post) = none := by
  have hmatches : ∀ m ∈ replayed filter iter w.retained ++ deliveries filter post,
      topicMatches filter m.topic = true := by
    intro m hm
    rcases List.mem_append.mp hm with hm | hm
    · obtain ⟨key, hlookup, hkey⟩ := mem_replayed.mp hm
      rw [hw.keys key m hlookup]
      exact hkey
    · obtain ⟨e, -, he⟩ := List.mem_flatMap.mp hm
      exact (List.mem_filter.mp he).2
  refine lastValue_eq_none fun m hm => if_neg ?_
  intro htopic
  rw [← htopic, hmatches m hm] at hmatch
  cases hmatch

/-- As long as nobody unsubscribes the filter or clears the store, and only
retained messages are received on the topics the filter matches, a subscriber
that keeps the last message of each topic has exactly the part of the retained
store that the filter matches. -/
theorem replica_exact {clientId : String} {pre post : List Event} {filter : String}
    {qos : QoS} {tx : ChannelId} {iter : IterOrder String MqttMessage} {id : UInt32}
    (hpre : ((mock B p clientId).within AllLive).Trace pre w)
    (hsub : ((mock B p clientId).within AllLive).step w
      ⟨.subscribe filter qos tx iter, .returned (.subscribed (.ok id))⟩ w₁)
    (hpost : ((mock B p clientId).within AllLive).Run w₁ post w₂)
    (hcount : subscribeCount pre + 1 + subscribeCount post < 2 ^ 32 - 1)
    (hmirrored : ∀ topic, topicMatches filter topic = true → Mirrored filter topic post)
    (topic : String) :
    (replica (w₂.log ⟨filter, id, tx⟩)).lookup topic =
      if topicMatches filter topic then
        (w₂.retained.lookup topic).map fun m => m.tagged id
      else none := by
  rw [lookup_replica]
  cases hmatch : topicMatches filter topic with
  | true => exact replica_newest hpre hsub hpost hcount hmatch (hmirrored topic hmatch)
  | false =>
      have hw := mock_sound ⟨pre, TSys.within_trace hpre⟩
      rw [subscription_log hpre hsub hpost hcount, newest_tagged, newest_unmatched hw hmatch]
      rfl

/-- A message stored before the subscribe, one that replaces it, and others. -/
theorem replica_exact_run :
    let before := execAll .debug (.new (.log MqttMessage) "mock-client")
      [.channel 4, .simulateReceive (.simple "a/b" .atMostOnce true [1])]
    let sub := Op.exec .debug (.subscribe "a/#" .atMostOnce 0 (.stored _ _)) before.2
    let after := execAll .debug sub.2
      [.simulateReceive (.simple "b" .atMostOnce false [2]),
        .simulateReceive (.simple "a/b" .atMostOnce true [3])]
    ∀ topic, (replica (after.2.log ⟨"a/#", 1, 0⟩)).lookup topic =
      if topicMatches "a/#" topic then
        (after.2.retained.lookup topic).map fun m => m.tagged 1
      else none := by
  intro before sub after
  let client := (mock (.log MqttMessage) .debug "mock-client").within AllLive
  have hpre : client.Trace before.1 before.2 := execAll_trace .debug (by decide) (by decide)
  have hsub : client.step before.2
      ⟨.subscribe "a/#" .atMostOnce 0 (.stored _ _), .returned (.subscribed (.ok 1))⟩ sub.2 :=
    ⟨⟨by decide, rfl⟩, by decide⟩
  have hpost : client.Run sub.2 after.1 after.2 :=
    execAll_run .debug "mock-client" (by decide)
  have hreceived : ∀ e ∈ after.1, e.received.all fun m =>
      m.retain || !topicMatches "a/#" m.topic := by decide
  refine replica_exact hpre hsub hpost (by decide) ?_
  intro topic hmatch
  refine ⟨by decide, by decide, ?_⟩
  intro e he m hm htopic
  have hall := hreceived e he
  rw [hm, Option.all_some, htopic, hmatch] at hall
  simpa using hall

end StingerMqtt

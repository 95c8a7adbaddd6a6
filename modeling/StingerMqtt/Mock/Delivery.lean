import Mathlib.Data.List.TakeWhile
import StingerMqtt.Mock.Invariants

/-!
# Delivery over whole runs

What one subscription is sent, from its subscribe to the end of a run in which
its channel stays open: the retained messages that match, then the received
messages that match, in call order, up to the first unsubscribe of its filter.
-/

namespace StingerMqtt

open Kit Mock

variable {B : Broadcast MqttMessage} {p : Profile} {w w' : MockWorld B}

namespace MockWorld

/-- Every row's channel has a receiver. -/
def AllLive (w : MockWorld B) : Prop := ∀ s ∈ w.table, w.channels.Live s.tx

instance : DecidablePred (@AllLive B) := fun w =>
  inferInstanceAs (Decidable (∀ s ∈ w.table, w.channels.Live s.tx))

/-- What was sent on the channel of a row with its id. -/
def log (w : MockWorld B) (s : Subscription) : List MqttMessage :=
  (w.channels.sent s.tx).filter fun m => m.subscriptionId = some s.subId

/-- No two rows share an id. -/
theorem Numbered.ids_nodup (h : w.Numbered) : (w.table.map Subscription.subId).Nodup := by
  refine List.pairwise_map.mpr (h.increasing.imp ?_)
  intro s s' hlt heq
  rw [heq] at hlt
  exact UInt32.lt_irrefl _ hlt

theorem Numbered.row_unique (h : w.Numbered) {s s' : Subscription} (hs : s ∈ w.table)
    (hs' : s' ∈ w.table) (hid : s.subId = s'.subId) : s = s' :=
  List.inj_on_of_nodup_map h.ids_nodup hs hs' hid

end MockWorld

open MockWorld

/-! ## One call -/

/-- The part of what was sent that is on the channel of `s` with its id. -/
theorem copies_log {sends : List (Subscription × MqttMessage)} {s : Subscription}
    (hid : ∀ d ∈ sends, d.1.subId = s.subId → d.1 = s) :
    (Bank.onChannel s.tx (copies sends)).filter (fun m => m.subscriptionId = some s.subId) =
      (sends.filter fun d => d.1 = s).map fun d => d.2.tagged s.subId := by
  induction sends with
  | nil => rfl
  | cons d sends ih =>
      have hrest := ih fun d' hd' => hid d' (List.mem_cons_of_mem _ hd')
      have hcons : copies (d :: sends) = [copyFor d.2 d.1] ++ copies sends := rfl
      rw [hcons, Bank.onChannel_append, List.filter_append, hrest]
      by_cases hd : d.1 = s
      · subst hd
        simp [Bank.onChannel, copyFor]
      · have hne : d.1.subId ≠ s.subId := fun h => hd (hid d List.mem_cons_self h)
        by_cases htx : d.1.tx = s.tx
        · simp [Bank.onChannel, copyFor, hd, hne, htx]
        · simp [Bank.onChannel, copyFor, hd, htx]

/-- The row a fan-out is looked at for gets one copy if the fan-out gets to it. -/
theorem fanOuts_for (hn : w.Numbered) (m : MqttMessage) (s : Subscription) :
    (fanOuts w m).filter (fun d => d.1 = s) = if s ∈ reached w m then [(s, m)] else [] := by
  have hnodup : (reached w m).Nodup :=
    (hn.ids_nodup.of_map _).sublist ((List.takeWhile_sublist _).trans (List.filter_sublist))
  unfold fanOuts
  rw [List.filter_map]
  show ((reached w m).filter fun s' => s' = s).map _ = _
  rw [List.filter_eq, hnodup.count]
  split <;> rfl

/-- On live channels a fan-out gets to every row that matches. -/
theorem mem_reached_of_allLive (hlive : w.AllLive) (m : MqttMessage) (s : Subscription) :
    s ∈ reached w m ↔ s ∈ w.table ∧ topicMatches s.topic m.topic = true := by
  have hall : reached w m = addressed w.table m := by
    unfold reached
    rw [List.takeWhile_eq_self_iff]
    intro s' hs'
    exact decide_eq_true (hlive s' (List.mem_of_mem_filter hs'))
  rw [hall]
  exact List.mem_filter

/-- What one call adds to the log of a row. -/
theorem Effect.log {op : Op} {out : Outcome Reply} (hw : w.Sound) (h : Effect p w op out w')
    {s : Subscription} (hid : ∀ d ∈ op.sends p w, d.1.subId = s.subId → d.1 = s) :
    w'.log s = w.log s ++
      ((op.sends p w).filter fun d => d.1 = s).map fun d => d.2.tagged s.subId := by
  unfold MockWorld.log
  rw [h.sent hw, List.filter_append, copies_log hid]

/-- The message a call receives. -/
def Event.received : Event → Option MqttMessage
  | ⟨.simulateReceive m, _⟩ => some m
  | _ => none

/-- What a call delivers to a row that stands in the table when it is made. -/
def Event.delivers (topic : String) (e : Event) : List MqttMessage :=
  e.received.toList.filter fun m => topicMatches topic m.topic

/-- The rows a call sends to are in the table, or are the row a subscribe
creates. -/
theorem sends_drawn {op : Op} {d : Subscription × MqttMessage} (hd : d ∈ op.sends p w) :
    d.1 ∈ w.table ∨ d.1.subId = w.nextId := by
  cases op with
  | subscribe topic qos tx iter =>
      right
      rw [(replays_row (mem_sends_subscribe hd)).1]
  | simulateReceive m => exact .inl (fanOuts_row (mem_sends_receive hd)).1
  | _ => exact absurd hd List.not_mem_nil

/-- A call sends a row whose id was drawn before the received message, if the
row is still there and the message matches, and nothing else. -/
theorem sends_for_drawn (hn : w.Numbered) (hlive : w.AllLive) (op : Op) (out : Outcome Reply)
    {s : Subscription} (hdrawn : s.subId < w.nextId) :
    ((op.sends p w).filter fun d => d.1 = s).map (fun d => d.2.tagged s.subId) =
      if s ∈ w.table then (Event.delivers s.topic ⟨op, out⟩).map fun m => m.tagged s.subId
      else [] := by
  cases op with
  | simulateReceive m =>
      show ((Op.sends p w (.simulateReceive m)).filter fun d => d.1 = s).map _ =
        if s ∈ w.table then ([m].filter fun m => topicMatches s.topic m.topic).map _ else []
      rw [sends_receive hn.healthy, fanOuts_for hn]
      simp only [mem_reached_of_allLive hlive]
      by_cases hs : s ∈ w.table
      · by_cases hmatch : topicMatches s.topic m.topic = true
        · simp [hs, hmatch]
        · simp [hs, hmatch]
      · simp [hs]
  | subscribe topic qos tx iter =>
      -- a replay is for the row with the next id, which `s` does not have
      have hnone :
          (Op.sends p w (.subscribe topic qos tx iter)).filter (fun d => d.1 = s) = [] := by
        rw [List.filter_eq_nil_iff]
        intro d hd heq
        obtain rfl : d.1 = s := of_decide_eq_true heq
        rw [(replays_row (mem_sends_subscribe hd)).1] at hdrawn
        exact UInt32.lt_irrefl _ hdrawn
      rw [hnone]
      exact (ite_self _).symm
  | _ => exact (ite_self _).symm

/-- What one call adds to the log of a row whose id was drawn before. -/
theorem Effect.log_of_drawn {op : Op} {out : Outcome Reply} (hw : w.Sound) (hn : w.Numbered)
    (hlive : w.AllLive) (h : Effect p w op out w') {s : Subscription}
    (hdrawn : s.subId < w.nextId) (huniq : ∀ s' ∈ w.table, s'.subId = s.subId → s' = s) :
    w'.log s = w.log s ++
      if s ∈ w.table then (Event.delivers s.topic ⟨op, out⟩).map fun m => m.tagged s.subId
      else [] := by
  have hid : ∀ d ∈ op.sends p w, d.1.subId = s.subId → d.1 = s := by
    intro d hd heq
    rcases sends_drawn hd with hmem | hnext
    · exact huniq d.1 hmem heq
    · rw [← heq, hnext] at hdrawn
      exact absurd hdrawn (UInt32.lt_irrefl _)
  rw [h.log hw hid, sends_for_drawn hn hlive op out hdrawn]

/-! ## Whole runs -/

/-- Whether a call is an unsubscribe of the filter. -/
def Event.unsubscribes (topic : String) : Event → Bool
  | ⟨.unsubscribe t, _⟩ => topic = t
  | _ => false

theorem Event.delivers_of_unsubscribes {topic : String} {e : Event}
    (h : e.unsubscribes topic = true) (topic' : String) : e.delivers topic' = [] := by
  obtain ⟨op, out⟩ := e
  cases op with
  | unsubscribe => rfl
  | _ => simp [Event.unsubscribes] at h

/-- What a subscription to `topic` is sent in a history that starts right
after its subscribe. -/
def deliveries (topic : String) (tr : List Event) : List MqttMessage :=
  (tr.takeWhile fun e => !e.unsubscribes topic).flatMap (Event.delivers topic)

@[simp] theorem deliveries_nil (topic : String) : deliveries topic [] = [] := rfl

theorem deliveries_cons (topic : String) (e : Event) (tr : List Event) :
    deliveries topic (e :: tr) =
      if e.unsubscribes topic then [] else e.delivers topic ++ deliveries topic tr := by
  unfold deliveries
  rw [List.takeWhile_cons]
  cases e.unsubscribes topic <;> rfl

/-- The rows after a call: the new one, if the call is a subscribe, and those
it did not unsubscribe. -/
theorem Effect.mem_table {op : Op} {out : Outcome Reply} (hn : w.Numbered)
    (h : Effect p w op out w') {s : Subscription} :
    s ∈ w'.table →
      s.subId = w.nextId ∨ s ∈ w.table ∧ Event.unsubscribes s.topic ⟨op, out⟩ = false := by
  intro hs
  cases h with
  | subscribed =>
      rcases List.mem_append.mp hs with hs | hs
      · exact .inr ⟨hs, rfl⟩
      · obtain rfl : s = ⟨_, w.nextId, _⟩ := by simpa using hs
        exact .inl rfl
  | unsubscribePanicked hp => exact absurd hp (by simp [hn.healthy])
  | unsubscribed =>
      obtain ⟨hmem, hne⟩ := List.mem_filter.mp hs
      exact .inr ⟨hmem, by simpa [Event.unsubscribes] using hne⟩
  | receivePanicked => exact .inr ⟨by simpa using hs, rfl⟩
  | received => exact .inr ⟨by simpa using hs, rfl⟩
  | quiet hop =>
      cases op with
      | unsubscribe => simp [Op.quiet] at hop
      | _ => exact .inr ⟨hs, rfl⟩
  | _ => exact .inr ⟨hs, rfl⟩

/-- A call keeps the rows it does not unsubscribe. -/
theorem Effect.mem_table_of {op : Op} {out : Outcome Reply} (h : Effect p w op out w')
    {s : Subscription} (hs : s ∈ w.table)
    (hkeep : Event.unsubscribes s.topic ⟨op, out⟩ = false) : s ∈ w'.table := by
  cases h with
  | subscribed => exact List.mem_append_left _ hs
  | unsubscribed =>
      exact List.mem_filter.mpr ⟨hs, by simpa [Event.unsubscribes] using hkeep⟩
  | receivePanicked => simpa using hs
  | received => simpa using hs
  | _ => exact hs

/-- Ids are handed out in increasing order. -/
theorem nextId_mono {clientId : String} {pre tr : List Event}
    (hpre : (mock B p clientId).Trace pre w) (hrun : (mock B p clientId).Run w tr w')
    (hcount : subscribeCount (pre ++ tr) < 2 ^ 32 - 1) : w.nextId ≤ w'.nextId := by
  have hsum : subscribeCount (pre ++ tr) = subscribeCount pre + subscribeCount tr :=
    List.countP_append
  obtain ⟨-, hw⟩ := mock_numbered hpre (by omega)
  obtain ⟨-, hw'⟩ := mock_numbered (hpre.append hrun) hcount
  rw [UInt32.le_iff_toNat_le, hw, hw']
  omega

/-- The log of a row over a run that starts after its subscribe. -/
theorem run_log {clientId : String} {pre tr : List Event}
    (hpre : ((mock B p clientId).within AllLive).Trace pre w)
    (hrun : ((mock B p clientId).within AllLive).Run w tr w')
    (hcount : subscribeCount (pre ++ tr) < 2 ^ 32 - 1) {s : Subscription}
    (hdrawn : s.subId < w.nextId) (huniq : ∀ s' ∈ w.table, s'.subId = s.subId → s' = s) :
    w'.log s = w.log s ++
      if s ∈ w.table then (deliveries s.topic tr).map fun m => m.tagged s.subId else [] := by
  induction tr generalizing pre w with
  | nil =>
      obtain rfl := hrun.nil_inv
      simp
  | cons e tr ih =>
      obtain ⟨mid, hstep, hrest⟩ := hrun.cons_inv
      have hmid := hpre.snoc hstep
      rw [List.append_cons] at hcount
      have hcount' : subscribeCount (pre ++ [e]) ≤ subscribeCount (pre ++ [e] ++ tr) := by
        exact (List.sublist_append_left (pre ++ [e]) tr).countP_le
      have hle : w.nextId ≤ mid.nextId :=
        nextId_mono (TSys.within_trace hpre) (.single hstep.1) (by omega)
      have hcountPre : subscribeCount pre ≤ subscribeCount (pre ++ [e]) := by
        unfold subscribeCount
        rw [List.countP_append]
        exact Nat.le_add_right _ _
      obtain ⟨hn, -⟩ := mock_numbered (TSys.within_trace hpre) (by omega)
      have hw := mock_sound ⟨pre, TSys.within_trace hpre⟩
      have heffect := (mock_step hw hstep.1).2
      -- the row pushed by a subscribe has a later id
      have huniq' : ∀ s' ∈ mid.table, s'.subId = s.subId → s' = s := by
        intro s' hs' hid
        rcases heffect.mem_table hn hs' with hnext | ⟨hmem, -⟩
        · rw [← hid, hnext] at hdrawn
          exact absurd hdrawn (UInt32.lt_irrefl _)
        · exact huniq s' hmem hid
      -- once removed, the row does not come back
      have hstays : s ∈ mid.table ↔ s ∈ w.table ∧ e.unsubscribes s.topic = false := by
        refine ⟨fun hmem => (heffect.mem_table hn hmem).resolve_left ?_,
          fun ⟨hmem, hkeep⟩ => heffect.mem_table_of hmem hkeep⟩
        intro hnext
        rw [hnext] at hdrawn
        exact UInt32.lt_irrefl _ hdrawn
      rw [ih hmid hrest hcount (UInt32.lt_of_lt_of_le hdrawn hle) huniq',
        heffect.log_of_drawn hw hn (TSys.within_trace_last hpre) hdrawn huniq, List.append_assoc,
        deliveries_cons]
      by_cases hs : s ∈ w.table
      · cases hunsub : e.unsubscribes s.topic with
        | true => simp [hs, hstays, hunsub, Event.delivers_of_unsubscribes hunsub]
        | false => simp [hs, hstays, hunsub]
      · simp [hs, hstays]

/-- The replayed messages are of different topics. -/
theorem replayed_topics_nodup (hw : w.Sound) (topic : String)
    (iter : IterOrder String MqttMessage) :
    ((replayed topic iter w.retained).map MqttMessage.topic).Nodup := by
  have hkeys : (replayed topic iter w.retained).map MqttMessage.topic =
      ((iter.order w.retained.entries).filter fun e => topicMatches topic e.1).map Sigma.fst := by
    unfold replayed
    rw [List.map_map]
    apply List.map_congr_left
    intro e he
    have hmem : e ∈ w.retained.entries := (iter.perm _).mem_iff.mp (List.mem_of_mem_filter he)
    exact hw.keys e.1 e.2 (AList.mem_lookup_iff.mpr hmem)
  have hnodup : ((iter.order w.retained.entries).map Sigma.fst).Nodup :=
    ((iter.perm _).map _).nodup_iff.mpr w.retained.nodupKeys
  rw [hkeys]
  exact hnodup.sublist (List.filter_sublist.map _)

/-- A subscribe that returns an id: the id is the next one, the row is there,
and nobody's channel changed its receivers. -/
theorem subscribed_row {topic : String} {qos : QoS} {tx : ChannelId}
    {iter : IterOrder String MqttMessage} {id : UInt32}
    (h : Effect p w (.subscribe topic qos tx iter) (.returned (.subscribed (.ok id))) w') :
    id = w.nextId ∧ (⟨topic, id, tx⟩ : Subscription) ∈ w'.table ∧
      Op.sends p w (.subscribe topic qos tx iter) = replays w ⟨topic, w.nextId, tx⟩ iter ∧
      ∀ c, w'.channels.Live c ↔ w.channels.Live c := by
  cases h with
  | subscribed hp hadd htook =>
      exact ⟨rfl, List.mem_append_right _ (List.mem_singleton_self _), sends_subscribe hp hadd,
        htook.live⟩
  | quiet hop => simp [Op.quiet] at hop

/-- The log of a new row on a live channel is what its subscribe replayed. -/
theorem subscribed_log (hw : w.Sound) (hn : w.Numbered) {topic : String} {qos : QoS}
    {tx : ChannelId} {iter : IterOrder String MqttMessage} {id : UInt32}
    (h : Effect p w (.subscribe topic qos tx iter) (.returned (.subscribed (.ok id))) w')
    (hlive : w.channels.Live tx) :
    w'.log ⟨topic, id, tx⟩ = (replayed topic iter w.retained).map fun m => m.tagged id := by
  obtain ⟨rfl, -, hsends, -⟩ := subscribed_row h
  have hrow : ∀ d ∈ replays w ⟨topic, w.nextId, tx⟩ iter, d.1 = ⟨topic, w.nextId, tx⟩ :=
    fun d hd => (replays_row hd).1
  -- nothing carries the new id yet
  have hold : w.log ⟨topic, w.nextId, tx⟩ = [] := by
    unfold MockWorld.log
    rw [List.filter_eq_nil_iff]
    intro m hm htag
    obtain ⟨id, hid, hlt⟩ := hn.tags tx m hm
    rw [hid] at htag
    obtain rfl : id = w.nextId := by simpa using htag
    exact UInt32.lt_irrefl _ hlt
  have hall : (replays w ⟨topic, w.nextId, tx⟩ iter).filter (fun d => d.1 = ⟨topic, w.nextId, tx⟩) =
      replays w ⟨topic, w.nextId, tx⟩ iter :=
    List.filter_eq_self.mpr fun d hd => decide_eq_true (hrow d hd)
  rw [h.log hw (by rw [hsends]; exact fun d hd _ => hrow d hd), hold, hsends, hall]
  unfold replays
  rw [if_pos hlive, List.nil_append, List.map_map]
  rfl

/-- From its subscribe on, a subscription is sent the last retained message of
each topic its filter matches, then every received message that matches, in
call order and once, until its filter is unsubscribed, and nothing else. -/
theorem delivery_exact {clientId : String} {pre post : List Event} {w w₁ w₂ : MockWorld B}
    {topic : String} {qos : QoS} {tx : ChannelId} {iter : IterOrder String MqttMessage}
    {id : UInt32}
    (hpre : ((mock B p clientId).within AllLive).Trace pre w)
    (hsub : ((mock B p clientId).within AllLive).step w
      ⟨.subscribe topic qos tx iter, .returned (.subscribed (.ok id))⟩ w₁)
    (hpost : ((mock B p clientId).within AllLive).Run w₁ post w₂)
    (hcount : subscribeCount pre + 1 + subscribeCount post < 2 ^ 32 - 1) :
    ∃ replayed : List MqttMessage,
      (replayed.map MqttMessage.topic).Nodup ∧
      (∀ m, m ∈ replayed ↔ LastRetained pre m.topic m ∧ topicMatches topic m.topic = true) ∧
      w₁.log ⟨topic, id, tx⟩ = replayed.map (fun m => m.tagged id) ∧
      w₂.log ⟨topic, id, tx⟩ = (replayed ++ deliveries topic post).map fun m => m.tagged id := by
  have hw := mock_sound ⟨pre, TSys.within_trace hpre⟩
  obtain ⟨hn, -⟩ := mock_numbered (TSys.within_trace hpre) (by omega)
  have heffect := (mock_step hw hsub.1).2
  obtain ⟨hid, hrow, -, hliveIff⟩ := subscribed_row heffect
  -- the channel is live after the subscribe, which changes no receivers
  have hlive : w.channels.Live tx := (hliveIff tx).mp (hsub.2 _ hrow)
  have hlog := subscribed_log hw hn heffect hlive
  have hpre₁ := hpre.snoc hsub
  have hcount₁ : subscribeCount (pre ++ [⟨.subscribe topic qos tx iter,
      .returned (.subscribed (.ok id))⟩]) = subscribeCount pre + 1 := List.countP_append
  have hcount₂ : subscribeCount ((pre ++ [⟨.subscribe topic qos tx iter,
      .returned (.subscribed (.ok id))⟩]) ++ post) =
        subscribeCount pre + 1 + subscribeCount post := by
    rw [← hcount₁]
    exact List.countP_append
  obtain ⟨hn₁, -⟩ := mock_numbered (TSys.within_trace hpre₁) (by omega)
  refine ⟨replayed topic iter w.retained, replayed_topics_nodup hw topic iter,
    fun m => ?_, hlog, ?_⟩
  · rw [mem_replayed]
    constructor
    · rintro ⟨key, hlookup, hmatch⟩
      obtain rfl := hw.keys key m hlookup
      exact ⟨(retained_iff (TSys.within_trace hpre) _ _).mp hlookup, hmatch⟩
    · rintro ⟨hlast, hmatch⟩
      exact ⟨m.topic, (retained_iff (TSys.within_trace hpre) _ _).mpr hlast, hmatch⟩
  · rw [run_log hpre₁ hpost (by omega) (hn₁.drawn _ hrow).2
      (fun s' hs' hsame => hn₁.row_unique hs' hrow hsame), hlog, if_pos hrow, List.map_append]

/-- A retained message is replayed, the next one delivered, and none after the
unsubscribe. -/
theorem delivery_exact_run :
    let before := execAll .debug (.new (.log MqttMessage) "mock-client")
      [.channel 4, .simulateReceive (.simple "a/b" .atMostOnce true [1])]
    let sub := Op.exec .debug (.subscribe "a/#" .atMostOnce 0 (.stored _ _)) before.2
    let after := execAll .debug sub.2
      [.simulateReceive (.simple "a/c" .atMostOnce false [2]), .unsubscribe "a/#",
        .simulateReceive (.simple "a/b" .atMostOnce true [3])]
    ∃ replayed : List MqttMessage,
      (replayed.map MqttMessage.topic).Nodup ∧
      (∀ m, m ∈ replayed ↔ LastRetained before.1 m.topic m ∧ topicMatches "a/#" m.topic = true) ∧
      sub.2.log ⟨"a/#", 1, 0⟩ = replayed.map (fun m => m.tagged 1) ∧
      after.2.log ⟨"a/#", 1, 0⟩ =
        (replayed ++ deliveries "a/#" after.1).map fun m => m.tagged 1 := by
  intro before sub after
  let client := (mock (.log MqttMessage) .debug "mock-client").within AllLive
  have hpre : client.Trace before.1 before.2 := execAll_trace .debug (by decide) (by decide)
  have hsub : client.step before.2
      ⟨.subscribe "a/#" .atMostOnce 0 (.stored _ _), .returned (.subscribed (.ok 1))⟩ sub.2 :=
    ⟨⟨by decide, rfl⟩, by decide⟩
  have hpost : client.Run sub.2 after.1 after.2 :=
    execAll_run .debug "mock-client" (by decide)
  exact delivery_exact hpre hsub hpost (by decide)

end StingerMqtt

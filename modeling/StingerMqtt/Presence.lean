import StingerMqtt.Availability
import StingerMqtt.Mock.FreshChannel
import StingerMqtt.Mock.MatchRelation

/-!
# Presence for late joiners

The reports of availability helpers, received by a mock client in any order,
end up in its retained store, one per client id. A subscriber that joins later
with `system/#` gets the last report of each id.
-/

namespace StingerMqtt

open Kit Mock MockWorld GenericAvailability

variable {B : Broadcast MqttMessage} {J : JsonLibrary} {p : Profile} {w : MockWorld B}

/-- In the history a report of the client was received. -/
def Reported (tr : List Event) (clientId : String) : Prop :=
  ∃ e ∈ tr, ∃ online, e.op = .simulateReceive (report clientId online)

/-- The last report of the client in the history. -/
def LastReport (tr : List Event) (clientId : String) (online : Bool) : Prop :=
  ∃ before e after, tr = before ++ e :: after ∧
    e.op = .simulateReceive (report clientId online) ∧
    ∀ e' ∈ after, ∀ online', e'.op ≠ .simulateReceive (report clientId online')

/-- The topics `system/#` matches. -/
def SystemTopic (topic : String) : Prop :=
  topic = "system" ∨ ∃ rest : String, topic = "system/" ++ rest

/-- Nothing but reports is retained on the topics of `system/#`, and the
retained store was not cleared. -/
structure ReportsOnly (tr : List Event) : Prop where
  kept : ∀ e ∈ tr, e.clears = false
  reports : ∀ e ∈ tr, ∀ topic m, e.writes = some (topic, m) → SystemTopic topic →
    ∃ clientId online, m = report clientId online

/-! ## Topics and reports -/

theorem topicMatches_system_iff (topic : String) :
    topicMatches "system/#" topic = true ↔ SystemTopic topic :=
  topicMatches_below_iff (show ∀ level ∈ levels "system", level ≠ "#" ∧ level ≠ "+" by decide) topic

theorem payload_injective {online online' : Bool} (h : payload online = payload online') :
    online = online' := by
  cases online <;> cases online' <;> first | rfl | exact absurd h (by decide)

/-- The topic of a report names the client, whatever its id. -/
theorem report_injective {a b : String} {online online' : Bool}
    (h : report a online = report b online') : a = b ∧ online = online' := by
  have htopic := congrArg MqttMessage.topic h
  have hpayload := congrArg MqttMessage.payload h
  rw [report_topic, report_topic, String.append_right_inj] at htopic
  rw [report_payload, report_payload] at hpayload
  exact ⟨htopic, payload_injective hpayload⟩

/-- The client a report is about. -/
def reportedId (m : MqttMessage) : String := String.ofList (m.topic.toList.drop "system/".length)

@[simp] theorem reportedId_report (clientId : String) (online : Bool) :
    reportedId (report clientId online) = clientId := by
  unfold reportedId
  rw [report_topic, String.toList_append, List.drop_left' (by decide)]
  exact String.ofList_toList

/-! ## The retained store -/

/-- A message retained on a topic of `system/#` is a report. -/
theorem ReportsOnly.write {tr : List Event} (h : ReportsOnly tr) {e : Event} (he : e ∈ tr)
    {clientId : String} {m : MqttMessage} (hw : e.writes = some ("system/" ++ clientId, m)) :
    ∃ online, m = report clientId online := by
  obtain ⟨clientId', online, rfl⟩ := h.reports e he _ m hw (.inr ⟨clientId, rfl⟩)
  obtain ⟨-, -, htopic⟩ := Event.writes_iff.mp hw
  rw [report_topic, String.append_right_inj] at htopic
  exact ⟨online, by rw [htopic]⟩

theorem writes_report {e : Event} {clientId : String} {online : Bool}
    (h : e.op = .simulateReceive (report clientId online)) :
    e.writes = some ("system/" ++ clientId, report clientId online) :=
  Event.writes_iff.mpr ⟨h, report_retain clientId online, (report_topic clientId online).symm⟩

/-- The last message retained for a client is its last report. -/
theorem lastRetained_iff {tr : List Event} (h : ReportsOnly tr) {clientId : String}
    {m : MqttMessage} :
    LastRetained tr ("system/" ++ clientId) m ↔
      ∃ online, m = report clientId online ∧ LastReport tr clientId online := by
  constructor
  · rintro ⟨before, e, after, rfl, hw, hafter⟩
    obtain ⟨online, rfl⟩ := h.write (by simp) hw
    refine ⟨online, rfl, before, e, after, rfl, (Event.writes_iff.mp hw).1, ?_⟩
    intro e' he' online' hop
    exact (hafter e' he').2 _ (writes_report hop)
  · rintro ⟨online, rfl, before, e, after, rfl, hop, hafter⟩
    refine ⟨before, e, after, rfl, writes_report hop, fun e' he' => ⟨h.kept e' (by simp [he']), ?_⟩⟩
    intro m hw
    obtain ⟨online', rfl⟩ := h.write (by simp [he']) hw
    exact hafter e' he' online' (Event.writes_iff.mp hw).1

/-- A client that was reported has a last report. -/
theorem exists_lastReport {tr : List Event} (h : ReportsOnly tr) {clientId : String}
    (hreported : Reported tr clientId) : ∃ online, LastReport tr clientId online := by
  obtain ⟨e, he, online, hop⟩ := hreported
  obtain ⟨before, after, rfl⟩ := List.append_of_mem he
  have hlast : ∃ m, LastRetained (before ++ e :: after) ("system/" ++ clientId) m :=
    exists_lastWrite (writes_report hop) fun e' he' => h.kept e' (by simp [he'])
  obtain ⟨m, hm⟩ := hlast
  obtain ⟨online', -, hreport⟩ := (lastRetained_iff h).mp hm
  exact ⟨online', hreport⟩

theorem LastReport.reported {tr : List Event} {clientId : String} {online : Bool}
    (h : LastReport tr clientId online) : Reported tr clientId := by
  obtain ⟨before, e, after, rfl, hop, -⟩ := h
  exact ⟨e, by simp, online, hop⟩

/-- What a subscribe to `system/#` replays: the last reports. -/
theorem mem_replayed_system {clientId : String} {tr : List Event}
    (htrace : (mock B p clientId).Trace tr w) (h : ReportsOnly tr)
    {iter : IterOrder String MqttMessage} {m : MqttMessage} :
    m ∈ replayed "system/#" iter w.retained ↔
      ∃ id online, m = report id online ∧ LastReport tr id online := by
  rw [mem_replayed]
  constructor
  · rintro ⟨topic, hlookup, hmatch⟩
    have hlast := (retained_iff htrace topic m).mp hlookup
    obtain ⟨e, he, hw⟩ := hlast.exists_mem
    obtain ⟨id, online, rfl⟩ := h.reports e he topic m hw
      ((topicMatches_system_iff topic).mp hmatch)
    obtain ⟨-, -, rfl⟩ := Event.writes_iff.mp hw
    rw [report_topic] at hlast
    obtain ⟨online', heq, hreport⟩ := (lastRetained_iff h).mp hlast
    exact ⟨id, online', heq, hreport⟩
  · rintro ⟨id, online, rfl, hreport⟩
    refine ⟨"system/" ++ id, ?_, (topicMatches_system_iff _).mpr (.inr ⟨id, rfl⟩)⟩
    exact (retained_iff htrace _ _).mpr ((lastRetained_iff h).mpr ⟨online, rfl, hreport⟩)

/-- A client has one last report. -/
theorem LastReport.unique {clientId : String} {tr : List Event}
    (htrace : (mock B p clientId).Trace tr w) (h : ReportsOnly tr) {id : String}
    {online online' : Bool} (hl : LastReport tr id online) (hl' : LastReport tr id online') :
    online = online' := by
  have hlookup := (retained_iff htrace _ _).mpr ((lastRetained_iff h).mpr ⟨online, rfl, hl⟩)
  have hlookup' := (retained_iff htrace _ _).mpr ((lastRetained_iff h).mpr ⟨online', rfl, hl'⟩)
  exact (report_injective (Option.some_inj.mp (hlookup.symm.trans hlookup'))).2

/-! ## The late joiner -/

/-- What the late joiner learns about one client. -/
structure Tells (J : JsonLibrary) (tr : List Event) (id : String) (msg : MqttMessage) : Prop where
  topic : msg.topic = "system/" ++ id
  online : ∀ availability : GenericAvailability, ∃ online,
    (availability.helper J).clientIsOnline msg = .returned online ∧
      (online = true ↔ LastReport tr id true)

/-- A subscriber that joins with `system/#` on an unused channel of sufficient
capacity gets one message for each client reported so far, from which
`client_is_online` reads whether its last report was the online one. -/
theorem late_joiner_presence (hJ : J.SelectsOnline) {clientId : String} {tr : List Event}
    (htrace : (mock B p clientId).Trace tr w) (hcount : subscribeCount tr < 2 ^ 32 - 2)
    (hreports : ReportsOnly tr) {c : ChannelId} (hc : c < w.channels.next)
    (hunused : w.channels.sent c = []) (hlive : w.channels.Live c) {rx : B.Receiver}
    (hrx : B.position rx = 0)
    (hcap : ∀ ids : List String, ids.Nodup → (∀ id ∈ ids, Reported tr id) →
      ids.length ≤ B.capacity (w.channels.get c))
    (qos : QoS) (iter : IterOrder String MqttMessage) :
    ∃ w' subId ids,
      (mock B p clientId).step w
        ⟨.subscribe "system/#" qos c iter, .returned (.subscribed (.ok subId))⟩ w' ∧
      ids.Nodup ∧ (∀ id, id ∈ ids ↔ Reported tr id) ∧
      ∀ n, ids.length ≤ n →
        List.Forall₂ (Tells J tr) ids (B.drain n (w'.channels.get c) rx) := by
  have hw := mock_sound ⟨tr, htrace⟩
  obtain ⟨hn, hnext⟩ := mock_numbered htrace (by omega)
  obtain ⟨w', hsub, -, -, hsent, hcapacity⟩ := subscribe_unused hw hn (by omega) hc hunused hlive
    "system/#" qos iter
  -- the clients, in the order in which the subscribe replays their reports
  let ids := (replayed "system/#" iter w.retained).map reportedId
  have hmem : ∀ id, id ∈ ids ↔ Reported tr id := by
    intro id
    rw [List.mem_map]
    constructor
    · rintro ⟨m, hm, rfl⟩
      obtain ⟨id, online, rfl, hreport⟩ := (mem_replayed_system htrace hreports).mp hm
      rw [reportedId_report]
      exact hreport.reported
    · intro hreported
      obtain ⟨online, hreport⟩ := exists_lastReport hreports hreported
      exact ⟨report id online, (mem_replayed_system htrace hreports).mpr ⟨id, online, rfl, hreport⟩,
        reportedId_report id online⟩
  have hnodup : ids.Nodup := by
    -- different topics, so different ids
    have htopics : ids.map ("system/" ++ ·) =
        (replayed "system/#" iter w.retained).map MqttMessage.topic := by
      rw [List.map_map]
      apply List.map_congr_left
      intro m hm
      obtain ⟨id, online, rfl, -⟩ := (mem_replayed_system htrace hreports).mp hm
      simp
    have hnodup := replayed_topics_nodup hw "system/#" iter
    rw [← htopics] at hnodup
    exact hnodup.of_map _
  refine ⟨w', w.nextId, ids, ⟨hc, ?_⟩, hnodup, hmem, fun n hlen => ?_⟩
  · show ((Mock.subscribe p "system/#" qos c iter w).1.map Reply.subscribed,
      (Mock.subscribe p "system/#" qos c iter w).2) = _
    rw [hsub]
    rfl
  · have hlength : (B.sent (w'.channels.get c)).length = ids.length := by
      rw [show B.sent (w'.channels.get c) = w'.channels.sent c from rfl, hsent, List.length_map,
        List.length_map]
    have hroom := hcap ids hnodup fun id hid => (hmem id).mp hid
    rw [B.drain_eq n _ rx (by omega) (by omega) (by omega), hrx, List.drop_zero,
      show B.sent (w'.channels.get c) = w'.channels.sent c from rfl, hsent,
      List.forall₂_map_left_iff, List.forall₂_map_right_iff, List.forall₂_same]
    intro m hm
    obtain ⟨id, online, rfl, hreport⟩ := (mem_replayed_system htrace hreports).mp hm
    rw [reportedId_report]
    refine ⟨report_topic id online, fun availability => ⟨online, ?_, ?_⟩⟩
    · exact clientIsOnline_payload J hJ availability (report_payload id online)
    · constructor
      · rintro rfl
        exact hreport
      · intro hlast
        exact hreport.unique htrace hreports hlast

/-! ## A run with three reports -/

/-- The JSON values that matter here: booleans, and objects with one boolean
member. -/
inductive OnlineJson where
  | bool (value : Bool)
  | object (key : String) (value : Bool)

/-- JSON libraries that know the two payloads and paths to a member. -/
def onlineJson : JsonLibrary where
  Value := OnlineJson
  JsonPath := String
  fromSlice bytes :=
    if bytes = payload true then some (.object "online" true)
    else if bytes = payload false then some (.object "online" false)
    else none
  asBool
    | .bool value => some value
    | .object _ _ => none
  fromStr path := if path = "$.online" then some "online" else none
  findSlice path
    | .object key value => if key = path then [.slice (.bool value) "$.['online']"] else [.noValue]
    | .bool _ => [.noValue]

theorem onlineJson_selectsOnline : onlineJson.SelectsOnline := by
  have hparse : ∀ online, onlineJson.fromSlice (payload online) =
      some (OnlineJson.object "online" online) := by
    intro online
    cases online <;> rfl
  exact ⟨"online", rfl, fun online =>
    ⟨.object "online" online, .bool online, "$.['online']", hparse online, rfl, rfl⟩⟩

/-- Client `a` goes online and offline, client `b/#` online. -/
def threeReports : List Op :=
  [.channel 4, .simulateReceive (report "a" true), .simulateReceive (report "b/#" true),
    .simulateReceive (report "a" false)]

theorem threeReports_presence :
    let run := execAll .debug (.new (.log MqttMessage) "mock-client") threeReports
    ∃ w' subId ids,
      (mock (.log MqttMessage) .debug "mock-client").step run.2
        ⟨.subscribe "system/#" .atMostOnce 0 (.stored _ _),
          .returned (.subscribed (.ok subId))⟩ w' ∧
      ids.Nodup ∧ (∀ id, id ∈ ids ↔ Reported run.1 id) ∧
      ∀ n, ids.length ≤ n → List.Forall₂ (Tells onlineJson run.1) ids
        ((Broadcast.log MqttMessage).drain n (w'.channels.get 0) (0 : Nat)) := by
  intro run
  have htrace : (mock (.log MqttMessage) .debug "mock-client").Trace run.1 run.2 :=
    execAll_mock .debug (by decide)
  have hop : ∀ e ∈ run.1, e.op ∈ threeReports := by
    intro e he
    rw [← execAll_ops .debug (.new (.log MqttMessage) "mock-client") threeReports]
    exact List.mem_map_of_mem he
  have hreports : ReportsOnly run.1 := by
    refine ⟨by decide, ?_⟩
    intro e he topic m hw _
    have hmem := hop e he
    rw [(Event.writes_iff.mp hw).1] at hmem
    simp only [threeReports, List.mem_cons, Op.simulateReceive.injEq, reduceCtorEq, false_or,
      List.not_mem_nil, or_false] at hmem
    rcases hmem with rfl | rfl | rfl <;> exact ⟨_, _, rfl⟩
  have hcap : ∀ ids : List String, ids.Nodup → (∀ id ∈ ids, Reported run.1 id) →
      ids.length ≤ 4 := by
    intro ids hnodup hids
    have hsub : ids ⊆ ["a", "b/#"] := by
      intro id hid
      obtain ⟨e, he, online, heq⟩ := hids id hid
      have hmem := hop e he
      rw [heq] at hmem
      simp only [threeReports, List.mem_cons, Op.simulateReceive.injEq, reduceCtorEq, false_or,
        List.not_mem_nil, or_false] at hmem
      rcases hmem with h | h | h <;> simp [(report_injective h).1]
    have hlen : ids.length ≤ ["a", "b/#"].length := (List.subperm_of_subset hnodup hsub).length_le
    exact Nat.le_trans hlen (by decide)
  have hunused : run.2.channels.sent 0 = [] := by decide
  have hlive : run.2.channels.Live 0 := by decide
  exact late_joiner_presence onlineJson_selectsOnline htrace (by decide) hreports (by decide)
    hunused hlive rfl hcap _ _

end StingerMqtt

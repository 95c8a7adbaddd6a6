import StingerMqtt.Mock.Replica
import StingerMqtt.Presence

/-!
# Presence for subscribers that stay

A subscriber of `system/#` that keeps the last message of each topic knows at
every later moment which clients were reported, and of each one whether its last
report was the online one.
-/

namespace StingerMqtt

open Kit Mock MockWorld GenericAvailability

variable {B : Broadcast MqttMessage} {J : JsonLibrary} {p : Profile} {w w₁ w₂ : MockWorld B}

/-- What the retained store has for a client, after a history with nothing but
reports on the topics of `system/#`. -/
theorem lookup_report {clientId : String} {tr : List Event}
    (htrace : (mock B p clientId).Trace tr w) (hreports : ReportsOnly tr) {id : String}
    {m : MqttMessage} :
    w.retained.lookup ("system/" ++ id) = some m ↔
      ∃ online, m = report id online ∧ LastReport tr id online :=
  (retained_iff htrace _ _).trans (lastRetained_iff hreports)

theorem reported_iff {clientId : String} {tr : List Event}
    (htrace : (mock B p clientId).Trace tr w) (hreports : ReportsOnly tr) (id : String) :
    Reported tr id ↔ ∃ m, w.retained.lookup ("system/" ++ id) = some m := by
  constructor
  · intro hreported
    obtain ⟨online, hlast⟩ := exists_lastReport hreports hreported
    exact ⟨report id online, (lookup_report htrace hreports).mpr ⟨online, rfl, hlast⟩⟩
  · intro ⟨m, hlookup⟩
    obtain ⟨online, -, hlast⟩ := (lookup_report htrace hreports).mp hlookup
    exact hlast.reported

/-- A subscriber of `system/#`, whenever it joined, that keeps the last message
of each topic: at every later moment it has a message for each client reported
so far, from which `client_is_online` reads whether its last report was the
online one. -/
theorem presence_tracked (hJ : J.SelectsOnline) {clientId : String} {pre post tr : List Event}
    {qos : QoS} {tx : ChannelId} {iter : IterOrder String MqttMessage} {subId : UInt32}
    (hpre : ((mock B p clientId).within AllLive).Trace pre w)
    (hsub : ((mock B p clientId).within AllLive).step w
      ⟨.subscribe "system/#" qos tx iter, .returned (.subscribed (.ok subId))⟩ w₁)
    (hpost : ((mock B p clientId).within AllLive).Run w₁ post w₂)
    (htr : tr = pre ++ ⟨.subscribe "system/#" qos tx iter,
      .returned (.subscribed (.ok subId))⟩ :: post)
    (hcount : subscribeCount pre + 1 + subscribeCount post < 2 ^ 32 - 1)
    (hreports : ReportsOnly tr) (hkeep : ∀ e ∈ post, e.unsubscribes "system/#" = false)
    (hretained : ∀ e ∈ post, ∀ m, e.received = some m → SystemTopic m.topic → m.retain = true)
    (id : String) :
    (Reported tr id ↔ ∃ m, (replica (w₂.log ⟨"system/#", subId, tx⟩)).lookup
      ("system/" ++ id) = some m) ∧
    ∀ m, (replica (w₂.log ⟨"system/#", subId, tx⟩)).lookup ("system/" ++ id) = some m →
      ∀ availability : GenericAvailability, ∃ online,
        (availability.helper J).clientIsOnline m = .returned online ∧
          (online = true ↔ LastReport tr id true) := by
  have htrace : (mock B p clientId).Trace tr w₂ := by
    have hwhole := (hpre.snoc hsub).append hpost
    rw [List.append_assoc, List.singleton_append, ← htr] at hwhole
    exact TSys.within_trace hwhole
  have hmatch : topicMatches "system/#" ("system/" ++ id) = true :=
    (topicMatches_system_iff _).mpr (.inr ⟨id, rfl⟩)
  have hmirrored : Mirrored "system/#" ("system/" ++ id) post := by
    refine ⟨hkeep, ?_, ?_⟩
    · intro e he
      exact hreports.kept e (by simp [htr, he])
    · intro e he m hm htopic
      exact hretained e he m hm (.inr ⟨id, htopic⟩)
  have hseen := replica_newest hpre hsub hpost hcount hmatch hmirrored
  rw [← lookup_replica] at hseen
  rw [hseen]
  refine ⟨?_, ?_⟩
  · rw [reported_iff htrace hreports]
    simp
  · intro m hm availability
    obtain ⟨m, hlookup, rfl⟩ := Option.map_eq_some_iff.mp hm
    obtain ⟨online, rfl, hlast⟩ := (lookup_report htrace hreports).mp hlookup
    refine ⟨online, ?_, ?_⟩
    · exact clientIsOnline_payload J hJ availability (report_payload id online)
    · constructor
      · rintro rfl
        exact hlast
      · intro htrue
        exact hlast.unique htrace hreports htrue

/-- The reports of a run that has received nothing else. -/
theorem reportsOnly_of_ops {tr : List Event} (hkept : ∀ e ∈ tr, e.clears = false)
    (hops : ∀ e ∈ tr, ∀ m, e.op = .simulateReceive m → ∃ id online, m = report id online) :
    ReportsOnly tr := by
  refine ⟨hkept, ?_⟩
  intro e he topic m hw _
  exact hops e he m (Event.writes_iff.mp hw).1

/-- Client `a` is online when the subscriber joins and goes offline afterwards,
when `b` comes online. -/
theorem presence_tracked_run :
    let before := execAll .debug (.new (.log MqttMessage) "mock-client")
      [.channel 4, .simulateReceive (report "a" true)]
    let sub := Op.exec .debug (.subscribe "system/#" .atMostOnce 0 (.stored _ _)) before.2
    let after := execAll .debug sub.2
      [.simulateReceive (report "b" true), .simulateReceive (report "a" false)]
    let tr := before.1 ++ ⟨.subscribe "system/#" .atMostOnce 0 (.stored _ _),
      .returned (.subscribed (.ok 1))⟩ :: after.1
    ∀ m, (replica (after.2.log ⟨"system/#", 1, 0⟩)).lookup ("system/" ++ "a") = some m →
      ∀ availability : GenericAvailability, ∃ online,
        (availability.helper onlineJson).clientIsOnline m = .returned online ∧
          (online = true ↔ LastReport tr "a" true) := by
  intro before sub after tr
  let client := (mock (.log MqttMessage) .debug "mock-client").within AllLive
  have hpre : client.Trace before.1 before.2 := execAll_trace .debug (by decide) (by decide)
  have hsub : client.step before.2
      ⟨.subscribe "system/#" .atMostOnce 0 (.stored _ _), .returned (.subscribed (.ok 1))⟩
      sub.2 :=
    ⟨⟨by decide, rfl⟩, by decide⟩
  have hpost : client.Run sub.2 after.1 after.2 :=
    execAll_run .debug "mock-client" (by decide)
  have hops : tr.map Event.op = [.channel 4, .simulateReceive (report "a" true),
      .subscribe "system/#" .atMostOnce 0 (.stored _ _), .simulateReceive (report "b" true),
      .simulateReceive (report "a" false)] := rfl
  have hreceived : ∀ e ∈ tr, ∀ m, e.op = .simulateReceive m →
      ∃ id online, m = report id online := by
    intro e he m hm
    have hmem : e.op ∈ tr.map Event.op := List.mem_map_of_mem he
    rw [hops, hm] at hmem
    simp only [List.mem_cons, Op.simulateReceive.injEq, reduceCtorEq, false_or,
      List.not_mem_nil, or_false] at hmem
    rcases hmem with rfl | rfl | rfl <;> exact ⟨_, _, rfl⟩
  have hreports : ReportsOnly tr := reportsOnly_of_ops (by decide) hreceived
  have hretained : ∀ e ∈ after.1, e.received.all fun m => m.retain := by decide
  refine (presence_tracked onlineJson_selectsOnline hpre hsub hpost rfl (by decide) hreports
    (by decide) ?_ "a").2
  intro e he m hm _
  have hall := hretained e he
  rw [hm, Option.all_some] at hall
  exact hall

end StingerMqtt

import StingerMqtt.Concurrent.Linear

/-!
# Clones that receive nothing retained

Only a receive of a retained message has two points. Without one, every call is
one point, so the clones are linearizable in the usual sense: they behave as the
sequential client that runs one call at a time.
-/

namespace StingerMqtt

open Kit Mock

variable {B : Broadcast MqttMessage} {p : Profile} {clientId : String}

/-- The step does not begin the receive of a retained message. -/
def Move.unretained : Move → Bool
  | .invoke _ (.simulateReceive message) => !message.retain
  | _ => true

/-- No message that is received is retained. -/
def NoneRetained (ls : List Label) : Prop := ∀ move ∈ moves ls, move.unretained = true

instance (ls : List Label) : Decidable (NoneRetained ls) := List.decidableBAll _ _

theorem NoneRetained.retain {ls : List Label} (h : NoneRetained ls) {call : CallId} {op : Op}
    (hop : .invoke call op ∈ moves ls) (message : MqttMessage)
    (hreceive : op = .simulateReceive message) : message.retain = false := by
  subst hreceive
  simpa [Move.unretained] using h _ hop

/-- The call an operation is for, if it is all of the call. -/
def AtomicOp.op : AtomicOp → Op
  | .store message => .simulateReceive message
  | .fanOut message => .simulateReceive message
  | .whole op => op

/-- A point as a call of its own. -/
def Point.event (e : Point) : Event := ⟨e.op.op, e.outcome⟩

/-- The point is all of a call. -/
def Point.Whole (e : Point) : Prop :=
  match e.op with
  | .store _ => False
  | .fanOut message => message.retain = false
  | .whole _ => True

theorem Point.Whole.step {w w' : MockWorld B} {e : Point} (he : e.Whole)
    (h : (atomicClient B p clientId).step w e w') : (mock B p clientId).step w e.event w' := by
  obtain ⟨call, op, outcome⟩ := e
  obtain ⟨hvalid, hexec⟩ := h
  cases op with
  | store => cases he
  | fanOut m =>
      refine ⟨trivial, ?_⟩
      show ((simulateReceive m).map Reply.received) w = (outcome, w')
      have hreceive : (simulateReceive m : Act (MockWorld B) _) = Mock.fanOut m := by
        have hretain : ¬ m.retain = true := by
          have hretain : m.retain = false := he
          simp [hretain]
        unfold simulateReceive
        rw [if_neg hretain]
      rw [hreceive]
      exact hexec
  | whole op => exact ⟨hvalid, hexec⟩

theorem atomicClient_mock {w : MockWorld B} {es : List Point} (hwhole : ∀ e ∈ es, e.Whole)
    (h : (atomicClient B p clientId).Trace es w) :
    (mock B p clientId).Trace (es.map Point.event) w := by
  obtain ⟨w₀, hinit, hrun⟩ := h
  refine ⟨w₀, hinit, ?_⟩
  induction hrun with
  | nil => exact .nil
  | @snoc es _ _ e _ hstep ih =>
      rw [List.map_append]
      refine .snoc (ih fun e he => hwhole e (List.mem_append_left _ he)) ?_
      exact (hwhole e (by simp)).step hstep

/-- One point a call. -/
theorem points_whole (call : CallId) {op : Op} (out : Outcome Reply)
    (h : ∀ message, op = .simulateReceive message → message.retain = false) :
    ∃ e : Point, op.points call out = [e] ∧ e.call = call ∧ e.event = ⟨op, out⟩ ∧ e.Whole := by
  cases op with
  | simulateReceive m =>
      have hretain := h m rfl
      have hnone : storePoint call m = [] := if_neg (by simp [hretain])
      refine ⟨⟨call, .fanOut m, out⟩, ?_, rfl, rfl, hretain⟩
      show storePoint call m ++ _ = _
      rw [hnone]
      rfl
  | _ => exact ⟨_, rfl, rfl, rfl, trivial⟩

section

variable {ls : List Label} {es : List Point}

/-- Every point is the only one of its call. -/
theorem Linearizes.event (h : Linearizes ls es) (hnone : NoneRetained ls) {e : Point}
    (he : e ∈ es) : e.Whole ∧ .invoke e.call e.event.op ∈ moves ls := by
  obtain ⟨op, hop⟩ := h.invoked e he
  obtain ⟨out, hprefix⟩ := h.pending e.call op hop
  obtain ⟨e', hpoints, -, hevent, hwhole⟩ :=
    points_whole e.call out (hnone.retain hop)
  have hmem : e ∈ ofCall es e.call := List.mem_filter.mpr ⟨he, by simp⟩
  have hmem := hprefix.subset hmem
  rw [hpoints, List.mem_singleton] at hmem
  subst hmem
  refine ⟨hwhole, ?_⟩
  rw [hevent]
  exact hop

end

/-- Calls with their numbers, in an order in which a client could have run them
that runs one at a time. -/
structure Serializes (ls : List Label) (calls : List (CallId × Event)) : Prop where
  completed : ∀ call op out, .invoke call op ∈ moves ls → .ret call out ∈ moves ls →
    calls.filter (fun c => c.1 = call) = [(call, ⟨op, out⟩)]
  pending : ∀ call op, .invoke call op ∈ moves ls →
    ∃ out, calls.filter (fun c => c.1 = call) <+: [(call, ⟨op, out⟩)]
  invoked : ∀ c ∈ calls, .invoke c.1 c.2.op ∈ moves ls
  realTime : calls.Pairwise fun c c' => ¬ callBrackets.Before ls c'.1 c.1

/-- A point as a call with its number. -/
def Point.numbered (e : Point) : CallId × Event := (e.call, e.event)

theorem numbered_ofCall (es : List Point) (call : CallId) :
    (es.map Point.numbered).filter (fun c => c.1 = call) =
      (ofCall es call).map Point.numbered := List.filter_map

theorem Linearizes.serializes {ls : List Label} {es : List Point} (h : Linearizes ls es)
    (hnone : NoneRetained ls) : Serializes ls (es.map Point.numbered) where
  completed call op out hop hout := by
    obtain ⟨e, hpoints, hcall, hevent, -⟩ := points_whole call out (hnone.retain hop)
    rw [numbered_ofCall, h.completed call op out hop hout, hpoints, ← hcall, ← hevent]
    rfl
  pending call op hop := by
    obtain ⟨out, hprefix⟩ := h.pending call op hop
    obtain ⟨e, hpoints, hcall, hevent, -⟩ := points_whole call out (hnone.retain hop)
    refine ⟨out, ?_⟩
    rw [hpoints] at hprefix
    rw [numbered_ofCall]
    have hmap := hprefix.map Point.numbered
    rw [List.map_singleton] at hmap
    unfold Point.numbered at hmap ⊢
    rwa [hcall, hevent] at hmap
  invoked c hc := by
    obtain ⟨e, he, rfl⟩ := List.mem_map.mp hc
    exact (h.event hnone he).2
  realTime := List.pairwise_map.mpr h.realTime

/-- As long as no retained message is received, the clones behave as the
sequential client: every call happens at once, between its beginning and its end,
and all that were made so far leave the client as they do one after the other. -/
theorem clones_serializable {ls : List Label} {cfg : Config B}
    (h : (clones B p clientId).Trace ls cfg) (hnone : NoneRetained ls) :
    ∃ (calls : List (CallId × Event)) (w : MockWorld B),
      (mock B p clientId).Trace (calls.map Prod.snd) w ∧ Serializes ls calls ∧
        (cfg.holder = none → w = cfg.world) := by
  obtain ⟨es, w, htrace, hexplains⟩ := (clones_simulation B p clientId).trace h
  have hlinear := hexplains.linearizes (clones_calls h)
  refine ⟨es.map Point.numbered, w, ?_, hlinear.serializes hnone, fun hfree => ?_⟩
  · rw [List.map_map]
    exact atomicClient_mock (fun e he => (hlinear.event hnone he).1) htrace
  · exact (hexplains.behind.free_world (clones_good ⟨ls, h⟩) hfree).symm

/-- A receive and a publish come while a subscribe is under way. -/
def publishDuring : List Turn :=
  [.call 0 (.channel 4), .go 0, .go 0,
    .call 1 (.subscribe "a" .atMostOnce 0 (.stored _ _)), .go 1, .go 1,
    .call 0 (.publish (.simple "a" .atLeastOnce false [1])),
    .call 2 (.simulateReceive (.simple "a" .atMostOnce false [2])),
    .go 0, .go 1, .go 2, .go 2, .go 0, .go 1]

/-- The run of this schedule. -/
def duringRun : List Label × Config (.log MqttMessage) :=
  ((Config.new (.log MqttMessage) "mock-client").play .debug (fun _ => True)
    publishDuring).get (by decide)

theorem duringRun_trace :
    (clones (.log MqttMessage) .debug "mock-client").Trace duringRun.1 duringRun.2 :=
  TSys.within_trace (Config.play_trace trivial (Option.some_get _).symm)

theorem clones_serializable_during :
    NoneRetained duringRun.1 ∧ ∃ (calls : List (CallId × Event)),
      (mock (.log MqttMessage) .debug "mock-client").Trace (calls.map Prod.snd)
        duringRun.2.world ∧ Serializes duringRun.1 calls := by
  have hnone : NoneRetained duringRun.1 := by decide
  obtain ⟨calls, w, htrace, hserial, hworld⟩ := clones_serializable duringRun_trace hnone
  have hfree : duringRun.2.holder = none := rfl
  rw [hworld hfree] at htrace
  exact ⟨hnone, calls, htrace, hserial⟩

end StingerMqtt

import StingerMqtt.Kit.Builder
import StingerMqtt.Kit.Polling
import StingerMqtt.Validation.VerifyPublish

/-!
# The waits of the witness client

`wait_for_message_count`, `wait_for_messages` and `wait_for_payload` poll the
list that the capture loop of `WitnessClient::new` fills and `clear` empties.
The loop ends at the first error of the event loop. Any number of waits share
one witness. A step is one section under the witness's mutex, one look at the
clock, one turn of the capture loop, or some time passing, in nanoseconds.
-/

namespace StingerMqtt

open Kit

/-! ## The witness and its capture loop -/

/-- What happens to a witness besides the looks of its waits: what the event
loop answers to the capture loop, and the calls of `clear`. -/
inductive WitnessEvent where
  | incoming (publish : Publish)
  | other
  | error
  | clear
  deriving DecidableEq

/-- The witness, and whether its capture loop still runs. -/
structure Capturing where
  witness : WitnessClient
  listening : Bool

namespace Capturing

/-- `WitnessClient::new`. -/
def new : Capturing where
  witness := ⟨[]⟩
  listening := true

/-- One turn of the capture loop, or a call of `clear`. -/
def apply (c : Capturing) : WitnessEvent → Option Capturing
  | .incoming publish =>
    if c.listening then some { c with witness := c.witness.capture publish } else none
  | .other => if c.listening then some c else none
  | .error => if c.listening then some { c with listening := false } else none
  | .clear => some { c with witness := c.witness.clear }

end Capturing

/-! ## The calls -/

namespace WitnessClient

/-- `get_messages`. -/
def getMessages (witness : WitnessClient) : List CapturedMessage :=
  witness.receivedMessages

/-- `verify_message_received`. -/
def verifyMessageReceived (witness : WitnessClient) (topic : String) (expectedPayload : Bytes) :
    Except String Unit :=
  let messages := witness.getMessagesForTopic topic
  if messages.isEmpty then .error ("No messages received on topic '" ++ topic ++ "'")
  else if messages.any fun msg => msg.payload = expectedPayload then .ok ()
  else .error ("Expected payload not found on '" ++ topic ++ "'. Received " ++
    toString messages.length ++ " messages")

end WitnessClient

/-- `Duration::from_millis(50)`. -/
def waitPause : Nat := 50000000

/-- `wait_for_message_count`. -/
def waitForMessageCount (count timeoutDuration : Nat) :
    Poll Capturing (List CapturedMessage) String (List CapturedMessage) where
  look c := c.witness.getMessages
  answer messages := if messages.length ≥ count then some messages else none
  giveUp messages := "Timeout waiting for " ++ toString count ++ " messages. Got " ++
    toString messages.length ++ " messages"
  timeout := timeoutDuration
  pause := waitPause

/-- `wait_for_messages`. -/
def waitForMessages (topic : String) (count timeoutDuration : Nat) :
    Poll Capturing (List CapturedMessage) String (List CapturedMessage) where
  look c := c.witness.getMessagesForTopic topic
  answer messages := if messages.length ≥ count then some messages else none
  giveUp messages := "Timeout waiting for " ++ toString count ++ " messages on '" ++ topic ++
    "'. Got " ++ toString messages.length ++ " messages"
  timeout := timeoutDuration
  pause := waitPause

/-- `wait_for_payload`. -/
def waitForPayload (topic : String) (expectedPayload : Bytes) (timeoutDuration : Nat) :
    Poll Capturing (List CapturedMessage) String CapturedMessage where
  look c := c.witness.getMessagesForTopic topic
  answer messages := messages.find? fun m => m.payload = expectedPayload
  giveUp messages := "Timeout waiting for payload on '" ++ topic ++ "'. Received " ++
    toString messages.length ++ " messages"
  timeout := timeoutDuration
  pause := waitPause

/-- A call of one of the waits. -/
inductive WaitCall where
  | messageCount (count timeoutDuration : Nat)
  | messages (topic : String) (count timeoutDuration : Nat)
  | payload (topic : String) (expectedPayload : Bytes) (timeoutDuration : Nat)

namespace WaitCall

/-- What the call returns with `Ok`. -/
def Found : WaitCall → Type
  | .messageCount .. => List CapturedMessage
  | .messages .. => List CapturedMessage
  | .payload .. => CapturedMessage

/-- How the call polls. -/
def poll : (c : WaitCall) → Poll Capturing (List CapturedMessage) String c.Found
  | .messageCount count timeoutDuration => waitForMessageCount count timeoutDuration
  | .messages topic count timeoutDuration => waitForMessages topic count timeoutDuration
  | .payload topic expectedPayload timeoutDuration =>
    waitForPayload topic expectedPayload timeoutDuration

/-- The log has what the call waits for. -/
def Met : WaitCall → List CapturedMessage → Prop
  | .messageCount count _, log => count ≤ log.length
  | .messages topic count _, log => count ≤ (log.filter fun m => m.topic = topic).length
  | .payload topic expectedPayload _, log =>
    ∃ m ∈ log, m.topic = topic ∧ m.payload = expectedPayload

/-- What the call returns if it sees the log: all messages, those on its topic,
or the first one with its payload. -/
def Returns : (c : WaitCall) → List CapturedMessage → c.Found → Prop
  | .messageCount count _, log, found => found = log ∧ count ≤ log.length
  | .messages topic count _, log, found =>
    found = (log.filter fun m => m.topic = topic) ∧
      count ≤ (log.filter fun m => m.topic = topic).length
  | .payload topic expectedPayload _, log, found =>
    (log.find? fun m => m.topic = topic ∧ m.payload = expectedPayload) = some found

/-- The error of the call if the log is all it saw at the end. -/
def timeoutText (c : WaitCall) (log : List CapturedMessage) : String :=
  c.poll.giveUp (c.poll.look ⟨⟨log⟩, true⟩)

theorem Met.append {c : WaitCall} {log : List CapturedMessage} (h : c.Met log)
    (more : List CapturedMessage) : c.Met (log ++ more) := by
  cases c with
  | messageCount count _ =>
      have hlen : count ≤ log.length := h
      show count ≤ (log ++ more).length
      rw [List.length_append]
      omega
  | messages topic count _ =>
      have hlen : count ≤ (log.filter fun m => m.topic = topic).length := h
      show count ≤ ((log ++ more).filter fun m => m.topic = topic).length
      rw [List.filter_append, List.length_append]
      omega
  | payload topic expectedPayload _ =>
      obtain ⟨m, hm, hsame⟩ := h
      exact ⟨m, List.mem_append_left _ hm, hsame⟩

private theorem enough_iff {messages found : List CapturedMessage} {count : Nat} :
    (if messages.length ≥ count then some messages else none) = some found ↔
      found = messages ∧ count ≤ messages.length := by
  rw [Option.ite_none_right_eq_some, Option.some.injEq, and_comm, eq_comm]

theorem answer_iff {c : WaitCall} {s : Capturing} {found : c.Found} :
    c.poll.answer (c.poll.look s) = some found ↔ c.Returns s.witness.receivedMessages found := by
  cases c with
  | messageCount count _ => exact enough_iff
  | messages topic count _ => exact enough_iff
  | payload topic expectedPayload _ =>
      have hfind : ((s.witness.receivedMessages.filter fun m => m.topic = topic).find? fun m =>
          m.payload = expectedPayload) =
          s.witness.receivedMessages.find? fun m =>
            m.topic = topic ∧ m.payload = expectedPayload := by
        rw [List.find?_filter]
        simp
      exact Eq.congr_left hfind

theorem returns_met (c : WaitCall) (log : List CapturedMessage) :
    (∃ found, c.Returns log found) ↔ c.Met log := by
  cases c with
  | messageCount count _ => exact exists_eq_left
  | messages topic count _ => exact exists_eq_left
  | payload topic expectedPayload _ =>
      show (∃ found, List.find? _ log = some found) ↔ ∃ m ∈ log, _
      rw [← Option.isSome_iff_exists, List.find?_isSome]
      simp

theorem answer_of_met {c : WaitCall} {s : Capturing} (h : c.Met s.witness.receivedMessages) :
    ∃ found, c.poll.answer (c.poll.look s) = some found := by
  obtain ⟨found, hfound⟩ := (returns_met c _).mpr h
  exact ⟨found, answer_iff.mpr hfound⟩

theorem answer_none_iff {c : WaitCall} {s : Capturing} :
    c.poll.answer (c.poll.look s) = none ↔ ¬ c.Met s.witness.receivedMessages := by
  rw [← returns_met, Option.eq_none_iff_forall_ne_some, not_exists]
  exact forall_congr' fun found => not_congr answer_iff

end WaitCall

/-! ## Runs -/

/-- The number of a wait. -/
abbrev WaitId : Type := Nat

/-- A step of the waits and what they wait for. -/
abbrev WaitLabel : Type := PollLabel WitnessEvent WaitId

/-- Waits on one new witness, as far as the scheduler `allows`. -/
def waiting (calls : WaitId → WaitCall)
    (allows : Polling Capturing (List CapturedMessage) String (fun n => (calls n).Found) →
      WaitLabel → Prop) :
    TSys (Polling Capturing (List CapturedMessage) String fun n => (calls n).Found) WaitLabel :=
  polling Capturing.apply (fun n => (calls n).poll) .new allows

/-- The step is a `clear`. -/
def cleared : WaitLabel → Option Unit
  | .event .clear => some ()
  | _ => none

/-- The message a step delivers to the capture loop. -/
def delivered : WaitLabel → Option CapturedMessage
  | .event (.incoming publish) =>
    some ⟨publish.topic, publish.payload, publish.qos.toQoS, publish.retain⟩
  | _ => none

/-- The messages delivered since the last `clear`. -/
def capturedLog (tr : List WaitLabel) : List CapturedMessage :=
  (since cleared tr).filterMap delivered

/-- The time that has passed. -/
def elapsed : List WaitLabel → Nat
  | [] => 0
  | .tick d :: ls => d + elapsed ls
  | _ :: ls => elapsed ls

/-- A run of `waiting` from its list of steps. -/
theorem waiting_runAll (calls : WaitId → WaitCall) (ls : List WaitLabel)
    {cfg cfg' : Polling Capturing (List CapturedMessage) String fun n => (calls n).Found}
    (h : TSys.runAll (Polling.advance Capturing.apply fun n => (calls n).poll) cfg ls =
      some cfg') : (waiting calls fun _ _ => True).Run cfg ls cfg' := by
  refine TSys.runAll_run ?_ h
  intro s l s' hstep
  exact ⟨hstep, trivial⟩

theorem waiting_runAll_trace (calls : WaitId → WaitCall) (tr : List WaitLabel)
    {cfg : Polling Capturing (List CapturedMessage) String fun n => (calls n).Found}
    (h : TSys.runAll (Polling.advance Capturing.apply fun n => (calls n).poll) (.new .new) tr =
      some cfg) : (waiting calls fun _ _ => True).Trace tr cfg :=
  ⟨.new .new, rfl, waiting_runAll calls tr h⟩

section Runs

variable {calls : WaitId → WaitCall}
variable {allows : Polling Capturing (List CapturedMessage) String (fun n => (calls n).Found) →
  WaitLabel → Prop}
variable {cfg cfg' mid : Polling Capturing (List CapturedMessage) String
  fun n => (calls n).Found}
variable {tr before after : List WaitLabel} {l : WaitLabel}

theorem capturedLog_snoc_clear (tr : List WaitLabel) :
    capturedLog (tr ++ [.event .clear]) = [] := by
  unfold capturedLog
  rw [since_snoc_some rfl]
  rfl

/-- Without a `clear` the log grows by what is delivered. -/
theorem capturedLog_append (h : .event .clear ∉ after) (before : List WaitLabel) :
    capturedLog (before ++ after) = capturedLog before ++ after.filterMap delivered := by
  have hnone : ∀ l ∈ after, cleared l = none := by
    intro l hl
    unfold cleared
    split
    · exact absurd hl h
    · rfl
  unfold capturedLog
  rw [since_append_none hnone, List.filterMap_append]

theorem elapsed_append (before after : List WaitLabel) :
    elapsed (before ++ after) = elapsed before + elapsed after := by
  induction before with
  | nil => simp [elapsed]
  | cons l before ih =>
      cases l with
      | tick d =>
          show d + elapsed (before ++ after) = d + elapsed before + elapsed after
          omega
      | _ => exact ih

/-- A step appends what it delivers, unless it clears. -/
theorem waiting_log_step (h : (waiting calls allows).step cfg l cfg')
    (hlog : cfg.shared.witness.receivedMessages = capturedLog tr) :
    cfg'.shared.witness.receivedMessages = capturedLog (tr ++ [l]) := by
  have hquiet (hl : l ≠ .event .clear) (hsilent : delivered l = none)
      (hsame : cfg'.shared.witness = cfg.shared.witness) :
      cfg'.shared.witness.receivedMessages = capturedLog (tr ++ [l]) := by
    rw [capturedLog_append (by simpa using hl.symm), hsame, hlog]
    simp [hsilent]
  obtain ⟨-, ⟨hl, hsame⟩ | ⟨e, rfl, happly⟩⟩ := Polling.step_frame h
  · refine hquiet (hl _) ?_ (congrArg _ hsame)
    cases l with
    | event e => exact absurd rfl (hl e)
    | _ => rfl
  · unfold Capturing.apply at happly
    cases e with
    | incoming publish =>
        obtain ⟨-, hcapture⟩ := Option.ite_none_right_eq_some.mp happly
        rw [capturedLog_append (by simp), ← hlog, ← Option.some.inj hcapture]
        rfl
    | other =>
        obtain ⟨-, hsame⟩ := Option.ite_none_right_eq_some.mp happly
        exact hquiet nofun rfl (congrArg _ (Option.some.inj hsame).symm)
    | error =>
        obtain ⟨-, hstop⟩ := Option.ite_none_right_eq_some.mp happly
        refine hquiet nofun rfl ?_
        rw [← Option.some.inj hstop]
    | clear =>
        rw [capturedLog_snoc_clear, ← Option.some.inj happly]
        rfl

/-- The witness holds what was delivered since the last `clear`. -/
theorem waiting_log (h : (waiting calls allows).Trace tr cfg) :
    cfg.shared.witness.receivedMessages = capturedLog tr := by
  refine TSys.Trace.induct
    (I := fun tr cfg => cfg.shared.witness.receivedMessages = capturedLog tr) ?_ ?_ h
  · intro cfg hinit
    obtain rfl : cfg = .new .new := hinit
    rfl
  · intro tr cfg l cfg' _ hlog hstep
    exact waiting_log_step hstep hlog

theorem waiting_now (h : (waiting calls allows).Trace tr cfg) : cfg.now = elapsed tr := by
  refine TSys.Trace.induct (I := fun tr cfg => cfg.now = elapsed tr) ?_ ?_ h
  · intro cfg hinit
    obtain rfl : cfg = .new .new := hinit
    rfl
  · intro tr cfg l cfg' _ hnow hstep
    rw [elapsed_append]
    obtain ⟨⟨hl, hsame⟩ | ⟨d, rfl, hlater⟩, -⟩ := Polling.step_frame hstep
    · have hzero : elapsed [l] = 0 := by
        cases l with
        | tick d => exact absurd rfl (hl d)
        | _ => rfl
      omega
    · have hone : elapsed [(.tick d : WaitLabel)] = d := by simp [elapsed]
      omega

/-- Once the event loop has failed the capture loop does not run. -/
theorem waiting_stopped (h : (waiting calls allows).Trace tr cfg) :
    .event .error ∈ tr → cfg.shared.listening = false := by
  refine TSys.Trace.induct
    (I := fun tr cfg => .event .error ∈ tr → cfg.shared.listening = false) ?_ ?_ h
  · intro cfg _ hmem
    exact absurd hmem List.not_mem_nil
  · intro tr cfg l cfg' _ ih hstep hmem
    obtain ⟨-, ⟨hl, hsame⟩ | ⟨e, rfl, happly⟩⟩ := Polling.step_frame hstep
    · rw [hsame]
      apply ih
      simpa [(hl _).symm] using hmem
    · unfold Capturing.apply at happly
      cases e with
      | error =>
          obtain ⟨-, hstop⟩ := Option.ite_none_right_eq_some.mp happly
          rw [← Option.some.inj hstop]
      | clear =>
          rw [← Option.some.inj happly]
          exact ih (by simpa using hmem)
      | incoming publish =>
          obtain ⟨hrunning, -⟩ := Option.ite_none_right_eq_some.mp happly
          rw [ih (by simpa using hmem)] at hrunning
          cases hrunning
      | other =>
          obtain ⟨hrunning, -⟩ := Option.ite_none_right_eq_some.mp happly
          rw [ih (by simpa using hmem)] at hrunning
          cases hrunning

/-! ## What a wait returns -/

/-- A wait returns what it saw at its last look: with `Ok`, if what it waits for
had been delivered since the last `clear`, and else the error that says how much
had, and then more time had passed than it was given. -/
theorem wait_returned (h : (waiting calls allows).Trace tr cfg) {n : WaitId} {start : Nat}
    {result : Except String (calls n).Found} (hpc : cfg.pcs n = .returned start result) :
    ∃ before after, tr = before ++ .look n :: after ∧ .look n ∉ after ∧
      ((∃ found, (calls n).Returns (capturedLog before) found ∧ result = .ok found) ∨
        ¬ (calls n).Met (capturedLog before) ∧
          result = .error ((calls n).timeoutText (capturedLog before)) ∧
          (calls n).poll.timeout < elapsed tr - start) := by
  obtain ⟨mid, ⟨before, after, htr, hlast, hbefore, -⟩, hresult⟩ := Polling.returned h hpc
  have hlog : mid.shared.witness.receivedMessages = capturedLog before := waiting_log hbefore
  have htext : (calls n).poll.giveUp ((calls n).poll.look mid.shared) =
      (calls n).timeoutText (capturedLog before) := by
    rw [← hlog]
    cases calls n <;> rfl
  refine ⟨before, after, htr, hlast, ?_⟩
  rcases hresult with ⟨found, hfound, hok⟩ | ⟨hnone, herror, hlate⟩
  · have hreturns := WaitCall.answer_iff.mp hfound
    rw [hlog] at hreturns
    exact .inl ⟨found, hreturns, hok⟩
  · have hunmet := WaitCall.answer_none_iff.mp hnone
    rw [hlog] at hunmet
    rw [htext] at herror
    rw [waiting_now h] at hlate
    exact .inr ⟨hunmet, herror, hlate⟩

/-- Waits for one message on a topic and for two on any, for 5 s, and one for a
payload that gives up when it can. -/
def threeWaits : WaitId → WaitCall
  | 0 => .messages "sensor/a" 1 5000000000
  | 1 => .messageCount 2 5000000000
  | _ => .payload "sensor/b" [2] 0

/-- The first wait finds a message after one sleep, the third gives up. -/
def waitRun : List WaitLabel :=
  [.call 0, .call 2, .look 0, .look 2, .check 0, .check 2,
    .event (.incoming ⟨"sensor/a", [1], .atLeastOnce, false⟩), .tick 50000000,
    .look 0, .look 2, .check 2]

theorem wait_returned_run :
    (∃ before after, waitRun = before ++ .look 0 :: after ∧ .look 0 ∉ after ∧
      ((threeWaits 0).Met (capturedLog before))) ∧
    ∃ before after, waitRun = before ++ .look 2 :: after ∧ .look 2 ∉ after ∧
      ¬ (threeWaits 2).Met (capturedLog before) := by
  have htrace := waiting_runAll_trace threeWaits waitRun rfl
  refine ⟨?_, ?_⟩
  · obtain ⟨before, after, hrun, hlast, ⟨found, hfound, -⟩ | ⟨-, herror, -⟩⟩ :=
      wait_returned htrace (n := 0) rfl
    · exact ⟨before, after, hrun, hlast, (WaitCall.returns_met _ _).mp ⟨found, hfound⟩⟩
    · cases herror
  · obtain ⟨before, after, hrun, hlast, ⟨found, -, hok⟩ | ⟨hunmet, -⟩⟩ :=
      wait_returned htrace (n := 2) rfl
    · cases hok
    · exact ⟨before, after, hrun, hlast, hunmet⟩

/-! ## What a wait cannot miss, and what it cannot find -/

/-- What is there for a wait stays there until a `clear`. -/
theorem apply_met {c : WaitCall} {e : WitnessEvent} {s s' : Capturing}
    (h : s.apply e = some s') (he : e ≠ .clear) (hmet : c.Met s.witness.receivedMessages) :
    c.Met s'.witness.receivedMessages := by
  unfold Capturing.apply at h
  cases e with
  | clear => exact absurd rfl he
  | incoming publish =>
      obtain ⟨-, hcapture⟩ := Option.ite_none_right_eq_some.mp h
      rw [← Option.some.inj hcapture]
      exact hmet.append _
  | other =>
      obtain ⟨-, hsame⟩ := Option.ite_none_right_eq_some.mp h
      rw [← Option.some.inj hsame]
      exact hmet
  | error =>
      obtain ⟨-, hstop⟩ := Option.ite_none_right_eq_some.mp h
      rw [← Option.some.inj hstop]
      exact hmet

/-- Without the capture loop nothing new is there. -/
theorem apply_unmet {c : WaitCall} {e : WitnessEvent} {s s' : Capturing}
    (h : s.apply e = some s')
    (hs : s.listening = false ∧ ¬ c.Met s.witness.receivedMessages) :
    s'.listening = false ∧ ¬ c.Met s'.witness.receivedMessages := by
  obtain ⟨hstopped, hunmet⟩ := hs
  unfold Capturing.apply at h
  cases e with
  | clear =>
      rw [← Option.some.inj h]
      refine ⟨hstopped, fun hmet => hunmet ?_⟩
      exact hmet.append s.witness.receivedMessages
  | _ =>
      obtain ⟨hrunning, -⟩ := Option.ite_none_right_eq_some.mp h
      rw [hstopped] at hrunning
      cases hrunning

/-- If what a wait is for has been delivered, the wait finds it at its next
look, unless somebody clears before. -/
theorem wait_answers (hbefore : (waiting calls allows).Trace before mid)
    (hrun : (waiting calls allows).Run mid after cfg) {n : WaitId} {start due : Nat}
    (hpc : mid.pcs n = .waiting start due) (hmet : (calls n).Met (capturedLog before))
    (hclear : .event .clear ∉ after) (hlook : .look n ∈ after) :
    ∃ found, cfg.pcs n = .returned start (.ok found) := by
  rw [← waiting_log hbefore] at hmet
  refine Polling.look_answers (P := fun s => (calls n).Met s.witness.receivedMessages)
    (fun _ => WaitCall.answer_of_met) hrun ?_ hmet hpc hlook
  intro e s s' he happly
  refine apply_met happly ?_
  intro hsame
  rw [hsame] at he
  exact hclear he

theorem wait_answers_run :
    ∃ before after mid cfg, (waiting threeWaits fun _ _ => True).Trace before mid ∧
      (waiting threeWaits fun _ _ => True).Run mid after cfg ∧
      ∃ found, cfg.pcs 0 = .returned 0 (.ok found) := by
  have hbefore := waiting_runAll_trace threeWaits (waitRun.take 8) rfl
  refine ⟨_, _, _, _, hbefore, waiting_runAll threeWaits (waitRun.drop 8) rfl, ?_⟩
  refine wait_answers hbefore (waiting_runAll threeWaits (waitRun.drop 8) rfl) rfl ?_
    (by decide) (by decide)
  show 1 ≤ _
  decide

/-- After an error of the event loop a wait that still lacks something never
gets it. -/
theorem wait_disconnected (hbefore : (waiting calls allows).Trace before mid)
    (hrun : (waiting calls allows).Run mid after cfg) {n : WaitId}
    (herror : .event .error ∈ before) (hunmet : ¬ (calls n).Met (capturedLog before))
    (hpc : ∀ start found, mid.pcs n ≠ .returned start (.ok found)) (start : Nat)
    (found : (calls n).Found) : cfg.pcs n ≠ .returned start (.ok found) := by
  rw [← waiting_log hbefore] at hunmet
  refine Polling.look_fails (P := fun s => s.listening = false ∧
    ¬ (calls n).Met s.witness.receivedMessages) ?_ hrun ?_ ⟨?_, hunmet⟩ hpc start found
  · intro s hs
    exact WaitCall.answer_none_iff.mpr hs.2
  · intro e s s' _ happly
    exact apply_unmet happly
  · exact waiting_stopped hbefore herror

/-- The second wait is for two messages, and the event loop fails behind the
first. -/
theorem wait_disconnected_second :
    ∃ before mid, (waiting threeWaits fun _ _ => True).Trace before mid ∧
      ∀ after cfg, (waiting threeWaits fun _ _ => True).Run mid after cfg →
        ∀ start found, cfg.pcs 1 ≠ .returned start (.ok found) := by
  have hbefore := waiting_runAll_trace threeWaits
    (waitRun ++ [.event .error, .call 1, .look 1, .check 1]) rfl
  refine ⟨_, _, hbefore, fun after cfg hrun => ?_⟩
  refine wait_disconnected hbefore hrun (by decide) ?_ ?_
  · show ¬ 2 ≤ _
    decide
  · intro start found hpc
    cases hpc

/-! ## How long a wait takes -/

/-- A wait looks at the list at most once for each 50 ms of its timeout, and
twice more, and if nothing but the scheduler keeps it from returning, it can. -/
theorem wait_ends (h : (waiting calls fun _ _ => True).Trace tr cfg) (n : WaitId) :
    tr.count (.look n) ≤ (calls n).poll.timeout / 50000000 + 2 ∧
      (cfg.pcs n ≠ .uncalled → ∃ ls cfg' start result,
        (waiting calls fun _ _ => True).Run cfg ls cfg' ∧
          cfg'.pcs n = .returned start result) := by
  have hpause : (calls n).poll.pause = 50000000 := by
    cases calls n <;> rfl
  refine ⟨?_, ?_⟩
  · have hlooks := Polling.looks_le h (i := n) (by rw [hpause]; decide)
    rw [hpause] at hlooks
    exact hlooks
  · exact Polling.can_return fun _ _ => trivial

theorem wait_ends_run : waitRun.count (.look 0) ≤ 5000000000 / 50000000 + 2 :=
  (wait_ends (waiting_runAll_trace threeWaits waitRun rfl) 0).1

/-- Let every wait be woken at most `δ` late, and no time pass between a look
and the comparison with the clock. Then a wait that has not returned is not
older than its timeout, one sleep and `δ`; and one that gave up has missed
nothing that was there in time and not cleared. -/
theorem wait_in_time {δ : Nat} (h : (waiting calls (Polling.Prompt δ)).Trace tr cfg) {n : WaitId}
    {start : Nat} :
    ((∃ due, cfg.pcs n = .waiting start due) ∨ (∃ seen, cfg.pcs n = .checking start seen) →
      elapsed tr ≤ start + (calls n).poll.timeout + 50000000 + δ) ∧
    ∀ text, cfg.pcs n = .returned start (.error text) →
      ∀ before after, tr = before ++ after → .event .clear ∉ after →
        elapsed before ≤ start + (calls n).poll.timeout →
        ¬ (calls n).Met (capturedLog before) := by
  have hpause : (calls n).poll.pause = 50000000 := by
    cases calls n <;> rfl
  refine ⟨?_, ?_⟩
  · intro hpc
    have hnow := Polling.waits_at_most h hpc
    rw [hpause, waiting_now h] at hnow
    exact hnow
  · intro text hpc before after htr hclear hearly hmet
    obtain ⟨mid, ⟨before', after', htr', -, hbefore', -⟩, hnone, hlate⟩ :=
      Polling.gave_up_late h hpc
    rw [waiting_now hbefore'] at hlate
    have hunmet := WaitCall.answer_none_iff.mp hnone
    rw [waiting_log hbefore'] at hunmet
    -- the last look came after all that was there in time
    rw [htr] at htr'
    obtain ⟨between, rfl, rfl⟩ | ⟨between, rfl, -⟩ := List.append_eq_append_iff.mp htr'
    · have hkept : .event .clear ∉ between := fun hmem => hclear (List.mem_append_left _ hmem)
      rw [capturedLog_append hkept] at hunmet
      exact hunmet (hmet.append _)
    · rw [elapsed_append] at hearly
      omega

end Runs

/-- The third wait, alone and always woken in time, gives up at its second look;
nothing was there for it when it began. -/
theorem wait_in_time_third : ¬ (threeWaits 2).Met (capturedLog [.call 2]) := by
  have hawake (cfg : Polling Capturing (List CapturedMessage) String fun n =>
      (threeWaits n).Found) (hwait : cfg.pcs 2 = .waiting 0 50000000) (hnow : cfg.now = 0)
      (hothers : ∀ n ≠ 2, cfg.pcs n = .uncalled) :
      Polling.Prompt 0 cfg (.tick 50000000 : WaitLabel) := by
    intro n
    by_cases hn : n = 2
    · subst hn
      rw [hwait]
      refine ⟨nofun, ?_⟩
      intro start due hpc
      cases hpc
      omega
    · rw [hothers n hn]
      exact ⟨nofun, nofun⟩
  have htrace : (waiting threeWaits (Polling.Prompt 0)).Trace
      [.call 2, .look 2, .check 2, .tick 50000000, .look 2, .check 2] _ :=
    ⟨.new .new, rfl, .cons ⟨rfl, trivial⟩ (.cons ⟨rfl, trivial⟩ (.cons ⟨rfl, trivial⟩
      (.cons ⟨rfl, hawake _ rfl rfl fun n hn => by simp [Polling.goto, hn, Polling.new]⟩
        (.cons ⟨rfl, trivial⟩ (.single ⟨rfl, trivial⟩)))))⟩
  exact (wait_in_time htrace).2 _ rfl [.call 2] _ rfl (by decide) (by decide)

/-! ## After a call of `verify_publish` -/

theorem WitnessClient.verifyMessageReceived_ok_iff {witness : WitnessClient} {a : VerifyArgs} :
    witness.verifyMessageReceived a.topic a.payload = .ok () ↔ witness.Shows a := by
  have hany : ((witness.getMessagesForTopic a.topic).any fun msg => msg.payload = a.payload) ↔
      witness.Shows a := by
    unfold WitnessClient.getMessagesForTopic WitnessClient.Shows
    simp
  unfold WitnessClient.verifyMessageReceived
  rw [← hany]
  cases hmessages : witness.getMessagesForTopic a.topic with
  | nil => simp
  | cons msg messages =>
      simp only [List.isEmpty_cons, Bool.false_eq_true, if_false]
      split <;> simp_all

/-- A call that returned `Ok` since the last `clear` found a message that is still
there. -/
theorem VerifyMove.verified {args : VerifyId → VerifyArgs} {cfg cfg' : Verification}
    {l : VerifyLabel} {n : VerifyId} (h : VerifyMove args cfg l cfg') (hl : ∀ m, l ≠ .clear m)
    (hshows : cfg.pcs n = .returned (.ok ()) → cfg.witness.Shows (args n))
    (hpc : cfg'.pcs n = .returned (.ok ())) : cfg'.witness.Shows (args n) := by
  by_cases hbefore : cfg.pcs n = .returned (.ok ())
  · exact h.shows hl (hshows hbefore)
  · have hown (m : VerifyId) (pc : VerifyPc) (hne : pc ≠ .returned (.ok ())) :
        Function.update cfg.pcs m pc n ≠ .returned (.ok ()) := by
      by_cases hn : n = m
      · subst hn
        rwa [Function.update_self]
      · rwa [Function.update_of_ne hn]
    cases h with
    | clear => exact absurd rfl (hl _)
    | publish | publishFailed | timedOut | slept | gaveUp =>
        exact absurd hpc (hown _ _ (by simp))
    | other | captured => exact absurd hpc hbefore
    | @found m packet late _ hm =>
        by_cases hn : n = m
        · subst hn
          exact hm
        · have hsame : Function.update cfg.pcs m (.returned (.ok ())) n = cfg.pcs n :=
            Function.update_of_ne hn ..
          exact absurd (hsame.symm.trans hpc) hbefore

/-- When a call of `verify_publish` has returned `Ok`, `verify_message_received`
with its topic and payload answers `Ok` until the next `clear`. -/
theorem verify_message_received_after {args : VerifyId → VerifyArgs} {mid cfg : Verification}
    {after : List VerifyLabel} (hrun : (verification args).Run mid after cfg) {n : VerifyId}
    (hpending : mid.pcs n ≠ .returned (.ok ())) (hclear : ∀ m, .clear m ∉ after)
    (hok : cfg.pcs n = .returned (.ok ())) :
    cfg.witness.verifyMessageReceived (args n).topic (args n).payload = .ok () := by
  have hshows : cfg.pcs n = .returned (.ok ()) → cfg.witness.Shows (args n) := by
    refine hrun.preserves (P := fun cfg => cfg.pcs n = .returned (.ok ()) →
      cfg.witness.Shows (args n)) ?_ fun hpc => absurd hpc hpending
    intro cfg l cfg' hl hstep hshows
    refine (verification_move hstep).verified ?_ hshows
    intro m hm
    rw [hm] at hl
    exact hclear m hl
  exact WitnessClient.verifyMessageReceived_ok_iff.mpr (hshows hok)

theorem verify_message_received_after_poll :
    ∃ cfg, (verification twoCalls).Reachable cfg ∧
      cfg.witness.verifyMessageReceived "sensor/a" [1] = .ok () := by
  have hrun : (verification twoCalls).Run .new ([.clear 0] ++ [.publish 0 0,
      .capture 0 .atLeastOnce false, .poll 0 false, .other ⟨"sensor/b", [2], .atMostOnce, true⟩,
      .capture 1 .atMostOnce false]) _ :=
    TSys.runAll_run (fun _ _ _ hstep => hstep) rfl
  obtain ⟨mid, hclear, hafter⟩ := hrun.split
  have hmid : mid.pcs 0 ≠ .returned (.ok ()) := by
    obtain ⟨s, hstep, hnil⟩ := hclear.cons_inv
    obtain rfl := hnil.nil_inv
    cases hstep
    intro hpc
    cases hpc
  refine ⟨_, ⟨_, .new, rfl, hrun⟩, ?_⟩
  exact verify_message_received_after hafter (n := 0) hmid (fun m => by simp) rfl

end StingerMqtt

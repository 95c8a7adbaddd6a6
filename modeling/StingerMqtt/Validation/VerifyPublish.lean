import StingerMqtt.Validation.Witness

/-!
# What a call of `verify_publish` may conclude

The calls share one list of captured messages, and each begins by clearing it.
A call sees its own message if no other call clears the list between the
capture and its next look; and what it sees is its own message if nothing equal
is delivered while it waits.
-/

namespace StingerMqtt

open Kit

variable {args : VerifyId → VerifyArgs} {cfg cfg' : Verification}

/-- The witness holds a message a call with these arguments is content with. -/
def WitnessClient.Shows (witness : WitnessClient) (a : VerifyArgs) : Prop :=
  ∃ m ∈ witness.receivedMessages, m.topic = a.topic ∧ m.payload = a.payload

theorem WitnessClient.pollPayload_shows {witness : WitnessClient} {a : VerifyArgs}
    (h : witness.Shows a) (late : Bool) :
    ∃ m, witness.pollPayload a.topic a.payload late = some (.ok m) := by
  obtain ⟨m, hm, htopic, hpayload⟩ := h
  have hfound : ((witness.getMessagesForTopic a.topic).find?
      fun m => m.payload = a.payload).isSome := by
    rw [List.find?_isSome]
    refine ⟨m, ?_, by simpa using hpayload⟩
    unfold getMessagesForTopic
    simp [hm, htopic]
  obtain ⟨m', hm'⟩ := Option.isSome_iff_exists.mp hfound
  refine ⟨m', ?_⟩
  unfold pollPayload
  simp only [hm']

theorem WitnessClient.pollPayload_hidden {witness : WitnessClient} {a : VerifyArgs}
    (h : ¬ witness.Shows a) (late : Bool) :
    ∃ text, witness.pollPayload a.topic a.payload late =
      if late then some (.error text) else none := by
  unfold pollPayload
  cases hfound : (witness.getMessagesForTopic a.topic).find? fun m => m.payload = a.payload with
  | none =>
      simp only [hfound]
      exact ⟨_, rfl⟩
  | some m =>
      have hpayload := List.find?_some hfound
      have hmem := List.mem_of_find?_eq_some hfound
      unfold getMessagesForTopic at hmem
      obtain ⟨hm, htopic⟩ := List.mem_filter.mp hmem
      exact absurd ⟨m, hm, of_decide_eq_true htopic, of_decide_eq_true hpayload⟩ h

/-! ## What a step can do -/

/-- Call `n` looks for its message from here. -/
def VerifyPc.looks (pc : VerifyPc) (packet : PacketId) : Prop :=
  pc = .waiting packet ∨ pc = .sleeping packet

/-- `VerifyMove args cfg l cfg'`: in `cfg` the step `l` may lead to `cfg'`. -/
inductive VerifyMove (args : VerifyId → VerifyArgs) (cfg : Verification) :
    VerifyLabel → Verification → Prop
  | clear {n} : cfg.pcs n = .clearing →
      VerifyMove args cfg (.clear n) ({ cfg with witness := ⟨[]⟩ }.goto n .publishing)
  | publish {n} : cfg.pcs n = .publishing →
      VerifyMove args cfg (.publish n cfg.packets.length)
        ({ cfg with packets := cfg.packets ++ [(args n).publish] }.goto n
          (.waiting cfg.packets.length))
  | publishFailed {n error} : cfg.pcs n = .publishing →
      VerifyMove args cfg (.publishFailed n error)
        (cfg.goto n (.returned (.error ("Failed to publish: " ++ error))))
  | found {n packet late} : (cfg.pcs n).looks packet → cfg.witness.Shows (args n) →
      VerifyMove args cfg (.poll n late) (cfg.goto n (.returned (.ok ())))
  | timedOut {n packet text} : (cfg.pcs n).looks packet → ¬ cfg.witness.Shows (args n) →
      VerifyMove args cfg (.poll n true) (cfg.goto n (.returned (.error text)))
  | slept {n packet} : (cfg.pcs n).looks packet → ¬ cfg.witness.Shows (args n) →
      VerifyMove args cfg (.poll n false) (cfg.goto n (.sleeping packet))
  | gaveUp {n packet} : cfg.pcs n = .sleeping packet →
      VerifyMove args cfg (.giveUp n)
        (cfg.goto n (.returned (.error "Timeout waiting for message verification")))
  | other {publish} :
      VerifyMove args cfg (.other publish) { cfg with packets := cfg.packets ++ [publish] }
  | captured {packet publish qos retain} : cfg.packets[packet]? = some publish →
      VerifyMove args cfg (.capture packet qos retain)
        { cfg with witness := cfg.witness.capture { publish with qos := qos, retain := retain } }

private theorem poll_move {n : VerifyId} {packet : PacketId} (hlooks : (cfg.pcs n).looks packet)
    (late : Bool) : VerifyMove args cfg (.poll n late) (cfg.poll args n packet late) := by
  unfold Verification.poll
  by_cases hshows : cfg.witness.Shows (args n)
  · obtain ⟨m, hpoll⟩ := WitnessClient.pollPayload_shows hshows late
    rw [hpoll]
    exact .found hlooks hshows
  · obtain ⟨text, hpoll⟩ := WitnessClient.pollPayload_hidden hshows late
    rw [hpoll]
    cases late with
    | false => exact .slept hlooks hshows
    | true => exact .timedOut hlooks hshows

/-- Every step is one of the listed moves. -/
theorem verification_move {l : VerifyLabel} (h : (verification args).step cfg l cfg') :
    VerifyMove args cfg l cfg' := by
  have h : cfg.advance args l = some cfg' := h
  cases l with
  | clear n =>
      cases hpc : cfg.pcs n <;> simp only [Verification.advance, hpc] at h <;> cases h
      exact .clear hpc
  | publish n packet =>
      cases hpc : cfg.pcs n <;> simp only [Verification.advance, hpc] at h <;> try cases h
      split at h
      · rename_i hpacket
        cases h
        subst hpacket
        exact .publish hpc
      · cases h
  | publishFailed n error =>
      cases hpc : cfg.pcs n <;> simp only [Verification.advance, hpc] at h <;> cases h
      exact .publishFailed hpc
  | poll n late =>
      cases hpc : cfg.pcs n <;> simp only [Verification.advance, hpc] at h <;> cases h
      · exact poll_move (.inl hpc) late
      · exact poll_move (.inr hpc) late
  | giveUp n =>
      cases hpc : cfg.pcs n <;> simp only [Verification.advance, hpc] at h <;> cases h
      exact .gaveUp hpc
  | other publish =>
      cases h
      exact .other
  | capture packet qos retain =>
      simp only [Verification.advance] at h
      split at h
      · rename_i publish hpublish
        cases h
        exact .captured hpublish
      · cases h

/-! ## What the witness keeps -/

theorem WitnessClient.Shows.capture {witness : WitnessClient} {a : VerifyArgs}
    (h : witness.Shows a) (publish : Publish) : (witness.capture publish).Shows a := by
  obtain ⟨m, hm, hsame⟩ := h
  exact ⟨m, List.mem_append_left _ hm, hsame⟩

theorem WitnessClient.shows_capture_iff {witness : WitnessClient} {a : VerifyArgs}
    {publish : Publish} : (witness.capture publish).Shows a ↔
      witness.Shows a ∨ publish.topic = a.topic ∧ publish.payload = a.payload := by
  unfold WitnessClient.Shows WitnessClient.capture
  simp [or_and_right, exists_or]

/-- Only a clear takes a message away. -/
theorem VerifyMove.shows {l : VerifyLabel} {a : VerifyArgs} (h : VerifyMove args cfg l cfg')
    (hl : ∀ m, l ≠ .clear m) (hshows : cfg.witness.Shows a) : cfg'.witness.Shows a := by
  cases h with
  | clear => exact absurd rfl (hl _)
  | captured => exact hshows.capture _
  | _ => exact hshows

/-- A call that has returned does nothing any more. -/
theorem VerifyMove.returned {l : VerifyLabel} {n : VerifyId} {result : Except String Unit}
    (h : VerifyMove args cfg l cfg') (hpc : cfg.pcs n = .returned result) :
    cfg'.pcs n = .returned result := by
  have hother : ∀ m pc, cfg.pcs m ≠ .returned result →
      Function.update cfg.pcs m pc n = .returned result := by
    intro m pc hm
    rw [Function.update_of_ne, hpc]
    rintro rfl
    exact hm hpc
  cases h with
  | clear h | publish h | publishFailed h => exact hother _ _ (by simp [h])
  | found h | timedOut h | slept h =>
      rcases h with h | h <;> exact hother _ _ (by simp [h])
  | gaveUp h => exact hother _ _ (by simp [h])
  | other | captured => exact hpc

/-- Packets are only added, by a call its own. -/
theorem VerifyMove.packets {l : VerifyLabel} (h : VerifyMove args cfg l cfg') :
    ∃ more, cfg'.packets = cfg.packets ++ more ∧ ∀ n packet, l = .publish n packet →
      packet = cfg.packets.length ∧ more = [(args n).publish] := by
  cases h with
  | @publish n _ =>
      refine ⟨[(args n).publish], rfl, ?_⟩
      rintro n packet hl
      cases hl
      exact ⟨rfl, rfl⟩
  | @other publish => exact ⟨[publish], rfl, fun n packet hl => by cases hl⟩
  | _ => exact ⟨[], (List.append_nil _).symm, fun n packet hl => by cases hl⟩

/-- The packet with a call's number is the one the call published. -/
theorem published_packet {tr : List VerifyLabel} (h : (verification args).Trace tr cfg)
    {n : VerifyId} {packet : PacketId} (hpublish : .publish n packet ∈ tr) :
    cfg.packets[packet]? = some (args n).publish := by
  let I : List VerifyLabel → Verification → Prop := fun tr cfg =>
    ∀ n packet, .publish n packet ∈ tr → cfg.packets[packet]? = some (args n).publish
  have hI : (verification args).Inductive I := by
    refine ⟨?_, ?_⟩
    · intro cfg _ n packet hmem
      exact absurd hmem List.not_mem_nil
    · intro tr cfg l cfg' hprev hstep n packet hmem
      obtain ⟨more, hpackets, hown⟩ := (verification_move hstep).packets
      rw [hpackets]
      rcases List.mem_append.mp hmem with hmem | hmem
      · have hold := hprev n packet hmem
        obtain ⟨hlt, -⟩ := List.getElem?_eq_some_iff.mp hold
        rw [List.getElem?_append_left hlt]
        exact hold
      · obtain ⟨rfl, rfl⟩ := hown n packet (List.mem_singleton.mp hmem).symm
        simp
  exact hI.trace h n packet hpublish

/-! ## Evidence that is not erased -/

/-- The packet of call `n` is captured after the call published it, which it does
after its clear, and call `n` looks again after steps that meet a condition. -/
def CapturedBeforeLook (between : List VerifyLabel → Prop) (tr : List VerifyLabel)
    (n : VerifyId) : Prop :=
  ∃ before packet qos retain mid late after,
    tr = before ++ .capture packet qos retain :: (mid ++ .poll n late :: after) ∧
      .publish n packet ∈ before ∧ between mid

/-- Call `n` looks again before anybody clears the list. -/
def Witnessed (tr : List VerifyLabel) (n : VerifyId) : Prop :=
  CapturedBeforeLook (fun mid => ∀ m, .clear m ∉ mid) tr n

/-- A call whose evidence is kept has returned `Ok`. -/
theorem verify_publish_witnessed {tr : List VerifyLabel}
    (h : (verification args).Trace tr cfg) {n : VerifyId} (hwitnessed : Witnessed tr n) :
    cfg.pcs n = .returned (.ok ()) := by
  obtain ⟨before, packet, qos, retain, mid, late, after, rfl, hpublish, hkept⟩ := hwitnessed
  obtain ⟨cfg₀, hbefore, hrun⟩ := h.split
  obtain ⟨cfg₁, hcapture, hrun⟩ := hrun.cons_inv
  obtain ⟨cfg₂, hmid, hrun⟩ := hrun.split
  obtain ⟨cfg₃, hpoll, hafter⟩ := hrun.cons_inv
  -- the capture shows the message to the call
  have hshown₁ : cfg₁.witness.Shows (args n) := by
    have hpacket := published_packet hbefore hpublish
    cases verification_move hcapture with
    | captured hcaptured =>
        cases hpacket.symm.trans hcaptured
        exact WitnessClient.shows_capture_iff.mpr (.inr ⟨rfl, rfl⟩)
  have hshown₂ : cfg₂.witness.Shows (args n) := by
    refine hmid.preserves (P := fun cfg => cfg.witness.Shows (args n)) ?_ hshown₁
    intro cfg l cfg' hl hstep hshows
    refine (verification_move hstep).shows ?_ hshows
    rintro m rfl
    exact hkept m hl
  -- so its next look ends it
  have hreturned : cfg₃.pcs n = .returned (.ok ()) := by
    cases verification_move hpoll with
    | found => exact Function.update_self ..
    | timedOut _ hhidden => exact absurd hshown₂ hhidden
    | slept _ hhidden => exact absurd hshown₂ hhidden
  refine hafter.preserves (P := fun cfg => cfg.pcs n = .returned (.ok ())) ?_ hreturned
  intro cfg l cfg' _ hstep hpc
  exact (verification_move hstep).returned hpc

/-- Two calls at once, the first with `[1]` on one topic and the other with
`[2]` on another. -/
def twoCalls : VerifyId → VerifyArgs
  | 0 => ⟨"sensor/a", [1], .atLeastOnce⟩
  | _ => ⟨"sensor/b", [2], .atLeastOnce⟩

theorem verify_publish_witnessed_both :
    ∃ tr cfg, (verification twoCalls).Trace tr cfg ∧ cfg.pcs 0 = .returned (.ok ()) ∧
      cfg.pcs 1 = .returned (.ok ()) := by
  let tr : List VerifyLabel := [.clear 0, .clear 1, .publish 0 0, .publish 1 1,
    .capture 0 .atLeastOnce false, .capture 1 .atLeastOnce false, .poll 0 false, .poll 1 false]
  have htrace := Verification.runAll_trace twoCalls tr rfl
  refine ⟨tr, _, htrace, ?_, ?_⟩
  · refine verify_publish_witnessed htrace ?_
    exact ⟨tr.take 4, 0, .atLeastOnce, false, [.capture 1 .atLeastOnce false], false,
      [.poll 1 false], rfl, by decide, fun m => by simp⟩
  · refine verify_publish_witnessed htrace ?_
    exact ⟨tr.take 5, 1, .atLeastOnce, false, [.poll 0 false], false, [], rfl, by decide,
      fun m => by simp⟩

/-- The second call clears the list after the message of the first was captured
and before the first looks. -/
theorem verify_publish_erased :
    ¬ ∀ tr cfg, (verification twoCalls).Trace tr cfg →
      CapturedBeforeLook (fun _ => True) tr 0 → CapturedBeforeLook (fun _ => True) tr 1 →
      (∃ result, cfg.pcs 0 = .returned result) → (∃ result, cfg.pcs 1 = .returned result) →
      cfg.pcs 0 = .returned (.ok ()) ∧ cfg.pcs 1 = .returned (.ok ()) := by
  intro hall
  let tr : List VerifyLabel := [.clear 0, .publish 0 0, .capture 0 .atLeastOnce false, .clear 1,
    .publish 1 1, .capture 1 .atLeastOnce false, .poll 1 false, .poll 0 true]
  have htrace := Verification.runAll_trace twoCalls tr rfl
  have hfirst : CapturedBeforeLook (fun _ => True) tr 0 :=
    ⟨tr.take 2, 0, .atLeastOnce, false, (tr.drop 3).take 4, true, [], rfl, by decide, trivial⟩
  have hsecond : CapturedBeforeLook (fun _ => True) tr 1 :=
    ⟨tr.take 5, 1, .atLeastOnce, false, [], false, [.poll 0 true], rfl, by decide, trivial⟩
  obtain ⟨hok, -⟩ := hall tr _ htrace hfirst hsecond ⟨_, rfl⟩ ⟨_, rfl⟩
  cases hok

/-! ## Evidence of the call's own -/

/-- Call `n` has cleared the list and not returned. -/
def VerifyPc.active : VerifyPc → Prop
  | .publishing | .waiting _ | .sleeping _ => True
  | .clearing | .returned _ => False

/-- No packet but its own is delivered to a call that is under way, if the
packet has the topic and the payload of the call. -/
def NoTwin (args : VerifyId → VerifyArgs) (cfg : Verification) (l : VerifyLabel) : Prop :=
  ∀ packet qos retain publish n, l = .capture packet qos retain →
    cfg.packets[packet]? = some publish → (cfg.pcs n).active →
    publish.topic = (args n).topic → publish.payload = (args n).payload →
    (cfg.pcs n).looks packet

/-- Call `n` has published a packet, and the packet was captured. -/
def OwnCaptured (tr : List VerifyLabel) (n : VerifyId) : Prop :=
  ∃ packet qos retain, .publish n packet ∈ tr ∧ .capture packet qos retain ∈ tr

/-- What is known of call `n` where it is. -/
def Backed (tr : List VerifyLabel) (witness : WitnessClient) (a : VerifyArgs) (n : VerifyId) :
    VerifyPc → Prop
  | .clearing | .returned (.error _) => True
  | .publishing => ¬ witness.Shows a
  | .waiting packet | .sleeping packet =>
    .publish n packet ∈ tr ∧ (witness.Shows a → ∃ qos retain, .capture packet qos retain ∈ tr)
  | .returned (.ok ()) => OwnCaptured tr n

variable {tr tr' : List VerifyLabel} {witness witness' : WitnessClient} {a : VerifyArgs}
  {n : VerifyId} {pc : VerifyPc}

theorem Backed.looking {packet : PacketId} (hlooks : pc.looks packet) :
    Backed tr witness a n pc ↔ .publish n packet ∈ tr ∧
      (witness.Shows a → ∃ qos retain, .capture packet qos retain ∈ tr) := by
  rcases hlooks with rfl | rfl <;> rfl

/-- It stays known as long as the witness shows nothing new. -/
theorem Backed.mono (h : Backed tr witness a n pc) (htr : tr ⊆ tr')
    (hshows : witness'.Shows a → witness.Shows a) : Backed tr' witness' a n pc := by
  cases pc with
  | clearing => trivial
  | publishing => exact fun hs => h (hshows hs)
  | waiting packet | sleeping packet =>
      obtain ⟨hpublish, hcapture⟩ := h
      refine ⟨htr hpublish, fun hs => ?_⟩
      obtain ⟨qos, retain, hmem⟩ := hcapture (hshows hs)
      exact ⟨qos, retain, htr hmem⟩
  | returned result =>
      cases result with
      | error => trivial
      | ok =>
          obtain ⟨packet, qos, retain, hpublish, hcapture⟩ := h
          exact ⟨packet, qos, retain, htr hpublish, htr hcapture⟩

/-- A delivery that is no twin of the call's packet. -/
theorem Backed.captured (h : Backed tr witness a n pc) {packet : PacketId} {publish : Publish}
    {qos : RumqttcQoS} {retain : Bool}
    (hown : pc.active → publish.topic = a.topic → publish.payload = a.payload →
      pc.looks packet) :
    Backed (tr ++ [.capture packet qos retain])
      (witness.capture { publish with qos := qos, retain := retain }) a n pc := by
  have htr : tr ⊆ tr ++ [.capture packet qos retain] := List.subset_append_left _ _
  by_cases hsame : publish.topic = a.topic ∧ publish.payload = a.payload
  · cases pc with
    | clearing => trivial
    | publishing =>
        rcases hown trivial hsame.1 hsame.2 with h | h <;> cases h
    | waiting packet' | sleeping packet' =>
        obtain rfl : packet' = packet := by
          simpa [VerifyPc.looks] using hown trivial hsame.1 hsame.2
        exact ⟨htr h.1, fun _ => ⟨qos, retain, by simp⟩⟩
    | returned result =>
        cases result with
        | error => trivial
        | ok =>
            obtain ⟨packet', qos', retain', hpublish, hcapture⟩ := h
            exact ⟨packet', qos', retain', htr hpublish, htr hcapture⟩
  · refine h.mono htr fun hshows => ?_
    exact (WitnessClient.shows_capture_iff.mp hshows).resolve_right hsame

/-- One step without twins keeps what is known of every call. -/
theorem VerifyMove.backed {l : VerifyLabel} (h : VerifyMove args cfg l cfg')
    (htwin : NoTwin args cfg l) (hbacked : ∀ n, Backed tr cfg.witness (args n) n (cfg.pcs n))
    (n : VerifyId) : Backed (tr ++ [l]) cfg'.witness (args n) n (cfg'.pcs n) := by
  have htr : tr ⊆ tr ++ [l] := List.subset_append_left _ _
  -- a call that moves, and those that do not
  have hgoto : ∀ m pc (witness' : WitnessClient),
      (∀ a, witness'.Shows a → cfg.witness.Shows a) →
      Backed (tr ++ [l]) witness' (args m) m pc →
      Backed (tr ++ [l]) witness' (args n) n (Function.update cfg.pcs m pc n) := by
    intro m pc witness' hshows hm
    by_cases hn : n = m
    · subst hn
      rw [Function.update_self]
      exact hm
    · rw [Function.update_of_ne hn]
      exact (hbacked n).mono htr (hshows _)
  have hnothing : ∀ a, ¬ (WitnessClient.mk []).Shows a := by
    rintro a ⟨m, hm, -⟩
    exact absurd hm List.not_mem_nil
  cases h with
  | @clear m hpc =>
      exact hgoto m _ _ (fun a hs => absurd hs (hnothing a)) (hnothing _)
  | @publish m hpc =>
      have hm := hbacked m
      rw [hpc] at hm
      exact hgoto m _ _ (fun _ hs => hs) ⟨by simp, fun hs => absurd hs hm⟩
  | @publishFailed m _ hpc => exact hgoto m _ _ (fun _ hs => hs) trivial
  | @found m packet _ hlooks hshows =>
      obtain ⟨hpublish, hcapture⟩ := (Backed.looking hlooks).mp (hbacked m)
      obtain ⟨qos, retain, hmem⟩ := hcapture hshows
      exact hgoto m _ _ (fun _ hs => hs) ⟨packet, qos, retain, htr hpublish, htr hmem⟩
  | @timedOut m _ _ hlooks hhidden => exact hgoto m _ _ (fun _ hs => hs) trivial
  | @slept m packet hlooks hhidden =>
      have hm := (Backed.looking hlooks).mp (hbacked m)
      exact hgoto m _ _ (fun _ hs => hs) ⟨htr hm.1, fun hs => absurd hs hhidden⟩
  | @gaveUp m _ hpc => exact hgoto m _ _ (fun _ hs => hs) trivial
  | other => exact (hbacked n).mono htr fun hs => hs
  | @captured packet publish qos retain hpublish =>
      apply (hbacked n).captured
      intro hactive
      exact htwin packet qos retain publish n rfl hpublish hactive

/-- In runs without twins a call that has returned `Ok` has published a packet,
and this packet was captured. -/
theorem verify_publish_own {cfg : Verification} {tr : List VerifyLabel}
    (h : ((verification args).guarded (NoTwin args)).Trace tr cfg) {n : VerifyId}
    (hok : cfg.pcs n = .returned (.ok ())) : OwnCaptured tr n := by
  let I : List VerifyLabel → Verification → Prop := fun tr cfg =>
    ∀ n, Backed tr cfg.witness (args n) n (cfg.pcs n)
  have hI : ((verification args).guarded (NoTwin args)).Inductive I := by
    refine ⟨?_, ?_⟩
    · rintro cfg rfl n
      trivial
    · rintro tr cfg l cfg' hbacked ⟨hstep, htwin⟩ n
      exact (verification_move hstep).backed htwin hbacked n
  have hn := hI.trace h n
  rw [hok] at hn
  exact hn

theorem verify_publish_own_once :
    OwnCaptured [.clear 0, .publish 0 0, .capture 0 .atLeastOnce false, .poll 0 false] 0 := by
  have hquiet : ∀ cfg l, (∀ packet qos retain, l ≠ .capture packet qos retain) →
      NoTwin twoCalls cfg l := by
    rintro cfg l hl packet qos retain _ _ rfl
    exact absurd rfl (hl packet qos retain)
  have halone : ∀ cfg : Verification, cfg.pcs 0 = .waiting 0 → (∀ n ≠ 0, cfg.pcs n = .clearing) →
      NoTwin twoCalls cfg (.capture 0 .atLeastOnce false) := by
    intro cfg hzero hothers packet qos retain publish n hl _ hactive _ _
    cases hl
    by_cases hn : n = 0
    · subst hn
      exact .inl hzero
    · rw [hothers n hn] at hactive
      exact hactive.elim
  have htrace : ((verification twoCalls).guarded (NoTwin twoCalls)).Trace
      [.clear 0, .publish 0 0, .capture 0 .atLeastOnce false, .poll 0 false] _ :=
    ⟨.new, rfl, .cons ⟨rfl, hquiet _ _ (by simp)⟩ (.cons ⟨rfl, hquiet _ _ (by simp)⟩
      (.cons ⟨rfl, halone _ rfl fun n hn => by simp [Verification.goto, hn, Verification.new]⟩
        (.single ⟨rfl, hquiet _ _ (by simp)⟩)))⟩
  exact verify_publish_own htrace rfl

/-- A message published before the call, with the same topic and payload, is
delivered after the call's clear and taken for the call's own. -/
theorem verify_publish_stale :
    ¬ ∀ tr cfg, (verification twoCalls).Trace tr cfg →
      ∀ n, cfg.pcs n = .returned (.ok ()) → OwnCaptured tr n := by
  intro hall
  let tr : List VerifyLabel := [.other ⟨"sensor/a", [1], .atLeastOnce, false⟩, .clear 0,
    .publish 0 1, .capture 0 .atLeastOnce false, .poll 0 false]
  have htrace := Verification.runAll_trace twoCalls tr rfl
  obtain ⟨packet, qos, retain, hpublish, hcapture⟩ := hall tr _ htrace 0 rfl
  obtain rfl : packet = 1 := by simpa [tr] using hpublish
  simp [tr] at hcapture

end StingerMqtt

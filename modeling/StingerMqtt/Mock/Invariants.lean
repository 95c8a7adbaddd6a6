import StingerMqtt.Mock.Runs

/-!
# Invariants of the mock client

`Sound` holds in every reachable world. `Numbered` holds as long as fewer than
`2 ^ 32 - 1` subscribes were made: the ids handed out so far are
`1, 2, …, nextId - 1`. Both are first shown to survive each way a section
changes the world, so that they carry over to any order of the sections.
`retained_iff` ties the retained store to the history, `Effect.sent` the
channels to what each call sends.
-/

namespace StingerMqtt

open Kit Mock

variable {B : Broadcast MqttMessage} {p : Profile} {w w' : MockWorld B}

namespace MockWorld

/-! ## What holds in every reachable world -/

/-- Rows belong to channels that exist, nothing was sent on one that does not,
and a retained message is stored under its own topic. -/
structure Sound (w : MockWorld B) : Prop where
  locks : w.Locks
  senders : ∀ s ∈ w.table, s.tx < w.channels.next
  unused : ∀ c, w.channels.next ≤ c → w.channels.sent c = []
  keys : ∀ key m, w.retained.lookup key = some m → m.topic = key

theorem Sound.new (clientId : String) : (new B clientId).Sound where
  locks := .new clientId
  senders := by simp
  unused c _ := B.sent_channel 1
  keys := by simp

theorem Sound.insert (h : w.Sound) (m : MqttMessage) :
    (w.setRetained (w.retained.insert m.topic m)).Sound where
  locks := h.locks.setRetained _
  senders := h.senders
  unused := h.unused
  keys key m' hlookup := by
    rw [retained_setRetained] at hlookup
    by_cases hkey : key = m.topic
    · subst hkey
      rw [AList.lookup_insert] at hlookup
      cases hlookup
      rfl
    · rw [AList.lookup_insert_ne hkey] at hlookup
      exact h.keys key m' hlookup

theorem Sound.stored (h : w.Sound) (m : MqttMessage) : (w.stored m).Sound := by
  unfold MockWorld.stored
  split
  · exact h.insert m
  · exact h

theorem Sound.cleared (h : w.Sound) : (w.setRetained ∅).Sound where
  locks := h.locks.setRetained ∅
  senders := h.senders
  unused := h.unused
  keys key m hlookup := by simp at hlookup

theorem Sound.filtered (h : w.Sound) (keep : Subscription → Bool) :
    (w.setTable (w.table.filter keep)).Sound where
  locks := h.locks.setTable _
  senders s hs := h.senders s (List.mem_of_mem_filter hs)
  unused := h.unused
  keys := h.keys

theorem Sound.pushed (h : w.Sound) (topic : String) {tx : ChannelId} (htx : tx < w.channels.next)
    (nextId' : UInt32) : (pushed w topic tx nextId').Sound where
  locks := (h.locks.setNextId _).setTable _
  senders s hs := by
    rcases List.mem_append.mp hs with hs | hs
    · exact h.senders s hs
    · obtain rfl : s = ⟨topic, w.nextId, tx⟩ := by simpa using hs
      exact htx
  unused := h.unused
  keys := h.keys

/-- Sending to rows whose channels exist. -/
theorem Sound.sending (h : w.Sound) {sends : List (Subscription × MqttMessage)}
    (hrows : ∀ d ∈ sends, d.1.tx < w.channels.next) {b : Bank B}
    (hb : w.channels.Took (copies sends) b) : (w.setChannels b).Sound where
  locks := h.locks.setChannels b
  senders s hs := by
    rw [channels_setChannels, hb.next]
    exact h.senders s hs
  unused c hc := by
    rw [channels_setChannels, hb.next] at hc
    rw [channels_setChannels, hb.sent, h.unused c hc, List.nil_append,
      List.eq_nil_iff_forall_not_mem]
    intro m hm
    rw [Bank.mem_onChannel] at hm
    obtain ⟨d, hd, hcopy⟩ := List.mem_map.mp hm
    have heq : d.1.tx = c := congrArg Prod.fst hcopy
    exact absurd (hrows d hd) (by rw [heq]; exact Nat.not_lt.mpr hc)
  keys := h.keys

/-- Creating a channel, or changing who listens, leaves what was sent alone. -/
theorem Sound.sent_created (h : w.Sound) (capacity : Nat) (c : ChannelId) :
    (w.channels.channel capacity).2.sent c = w.channels.sent c := by
  by_cases hc : c = w.channels.next
  · subst hc
    rw [(Bank.channel_fresh _ _).1, h.unused _ (Nat.le_refl _)]
  · unfold Bank.sent
    rw [Bank.channel_get_ne _ _ hc]

theorem Sound.rewired (h : w.Sound) {b : Bank B} (hnext : w.channels.next ≤ b.next)
    (hsent : ∀ c, b.sent c = w.channels.sent c) : (w.setChannels b).Sound where
  locks := h.locks.setChannels b
  senders s hs := Nat.lt_of_lt_of_le (h.senders s hs) hnext
  unused c hc := by
    rw [channels_setChannels, hsent]
    exact h.unused c (Nat.le_trans hnext hc)
  keys := h.keys

end MockWorld

open MockWorld

/-! ## What a call sends -/

/-- What a call sends: each message with the row it is for. -/
def Op.sends (p : Profile) (w : MockWorld B) : Op → List (Subscription × MqttMessage)
  | .subscribe topic _ tx iter =>
    if w.poisoned = false ∧ (p.addU32 w.nextId 1).isSome then
      replays w ⟨topic, w.nextId, tx⟩ iter
    else []
  | .simulateReceive m => if w.poisoned = false then fanOuts w m else []
  | _ => []

theorem fanOuts_row {m : MqttMessage} {d : Subscription × MqttMessage} (h : d ∈ fanOuts w m) :
    d.1 ∈ w.table ∧ topicMatches d.1.topic m.topic = true ∧ d.2 = m := by
  obtain ⟨s, hs, rfl⟩ := List.mem_map.mp h
  have haddressed : s ∈ addressed w.table m := (List.takeWhile_sublist _).mem hs
  obtain ⟨hmem, hmatch⟩ := List.mem_filter.mp haddressed
  exact ⟨hmem, hmatch, rfl⟩

theorem replays_row {row : Subscription} {iter : IterOrder String MqttMessage}
    {d : Subscription × MqttMessage} (h : d ∈ replays w row iter) :
    d.1 = row ∧ ∃ key, w.retained.lookup key = some d.2 ∧ topicMatches row.topic key = true := by
  unfold replays at h
  split at h
  · obtain ⟨m, hm, rfl⟩ := List.mem_map.mp h
    exact ⟨rfl, mem_replayed.mp hm⟩
  · exact absurd h List.not_mem_nil

theorem sends_subscribe {topic : String} {qos : QoS} {tx : ChannelId}
    {iter : IterOrder String MqttMessage} {nextId' : UInt32} (h : w.poisoned = false)
    (hadd : p.addU32 w.nextId 1 = some nextId') :
    Op.sends p w (.subscribe topic qos tx iter) = replays w ⟨topic, w.nextId, tx⟩ iter := by
  simp [Op.sends, h, hadd]

theorem sends_receive {m : MqttMessage} (h : w.poisoned = false) :
    Op.sends p w (.simulateReceive m) = fanOuts w m := by
  simp [Op.sends, h]

theorem mem_sends_subscribe {topic : String} {qos : QoS} {tx : ChannelId}
    {iter : IterOrder String MqttMessage} {d : Subscription × MqttMessage}
    (h : d ∈ Op.sends p w (.subscribe topic qos tx iter)) :
    d ∈ replays w ⟨topic, w.nextId, tx⟩ iter := by
  simp only [Op.sends] at h
  split at h
  · exact h
  · exact absurd h List.not_mem_nil

theorem mem_sends_receive {m : MqttMessage} {d : Subscription × MqttMessage}
    (h : d ∈ Op.sends p w (.simulateReceive m)) : d ∈ fanOuts w m := by
  simp only [Op.sends] at h
  split at h
  · exact h
  · exact absurd h List.not_mem_nil

theorem mem_fanOuts {m m' : MqttMessage} {s : Subscription} :
    (s, m') ∈ fanOuts w m ↔ m = m' ∧ s ∈ reached w m := by
  unfold fanOuts
  rw [List.mem_map]
  constructor
  · rintro ⟨s', hs', heq⟩
    cases heq
    exact ⟨rfl, hs'⟩
  · rintro ⟨rfl, hs⟩
    exact ⟨s, hs, rfl⟩

theorem mem_replays (hw : w.Sound) {row : Subscription} {iter : IterOrder String MqttMessage}
    {m : MqttMessage} {s : Subscription} :
    (s, m) ∈ replays w row iter ↔ s = row ∧ w.channels.Live row.tx ∧
      w.retained.lookup m.topic = some m ∧ topicMatches row.topic m.topic = true := by
  constructor
  · intro h
    obtain ⟨hrow, key, hlookup, hmatch⟩ := replays_row h
    obtain rfl := hw.keys key m hlookup
    unfold replays at h
    split at h
    · next hlive => exact ⟨hrow, hlive, hlookup, hmatch⟩
    · exact absurd h List.not_mem_nil
  · rintro ⟨rfl, hlive, hlookup, hmatch⟩
    unfold replays
    rw [if_pos hlive]
    exact List.mem_map.mpr ⟨m, mem_replayed.mpr ⟨m.topic, hlookup, hmatch⟩, rfl⟩

/-- A call that panics sends nothing. -/
theorem Effect.sends_panicked {op : Op} (h : Effect p w op .panicked w') :
    op.sends p w = [] := by
  cases h with
  | subscribePanicked hp => simp [Op.sends, hp]
  | subscribeOverflow hp hadd => simp [Op.sends, hadd]
  | unsubscribePanicked hp => rfl
  | receivePanicked hp => simp [Op.sends, hp]

/-- The two ways in which a row is sent a message: a fan-out that gets to it,
and the replay of the subscribe that creates it. -/
theorem Effect.mem_sends {op : Op} {out : Outcome Reply} (hw : w.Sound)
    (h : Effect p w op out w') {s : Subscription} {m : MqttMessage} :
    (s, m) ∈ op.sends p w ↔
      (op = .simulateReceive m ∧ w.poisoned = false ∧ s ∈ reached w m) ∨
      ∃ qos iter, op = .subscribe s.topic qos s.tx iter ∧
        out = .returned (.subscribed (.ok s.subId)) ∧ w.channels.Live s.tx ∧
        w.retained.lookup m.topic = some m ∧ topicMatches s.topic m.topic = true := by
  constructor
  · intro hd
    cases h with
    | subscribePanicked hp => simp [Op.sends, hp] at hd
    | subscribeOverflow hp hadd => simp [Op.sends, hadd] at hd
    | subscribed hp hadd htook =>
        right
        rw [sends_subscribe hp hadd, mem_replays hw] at hd
        obtain ⟨rfl, hlive, hlookup, hmatch⟩ := hd
        exact ⟨_, _, rfl, rfl, hlive, hlookup, hmatch⟩
    | receivePanicked hp => simp [Op.sends, hp] at hd
    | received hp htook hresult =>
        left
        rw [sends_receive hp, mem_fanOuts] at hd
        obtain ⟨rfl, hs⟩ := hd
        exact ⟨rfl, hp, hs⟩
    | quiet hop =>
        cases op with
        | subscribe | simulateReceive => simp [Op.quiet] at hop
        | _ => exact absurd hd List.not_mem_nil
    | _ => exact absurd hd List.not_mem_nil
  · rintro (⟨rfl, hp, hs⟩ | ⟨qos, iter, rfl, rfl, hlive, hlookup, hmatch⟩)
    · rw [sends_receive hp]
      exact mem_fanOuts.mpr ⟨rfl, hs⟩
    · generalize hid : s.subId = id at h
      cases h with
      | subscribed hp hadd htook =>
          rw [sends_subscribe hp hadd]
          exact (mem_replays hw).mpr ⟨by rw [← hid], hlive, hlookup, hmatch⟩
      | quiet hop => simp [Op.quiet] at hop

/-- Between two worlds of a run the channels accepted exactly what the call
sends. -/
theorem Effect.sent {op : Op} {out : Outcome Reply} (hw : w.Sound)
    (h : Effect p w op out w') (c : ChannelId) :
    w'.channels.sent c = w.channels.sent c ++ Bank.onChannel c (copies (op.sends p w)) := by
  have hnone : ∀ sends : List (Subscription × MqttMessage), ∀ b : Bank B, sends = [] →
      b.sent c = w.channels.sent c →
      b.sent c = w.channels.sent c ++ Bank.onChannel c (copies sends) := by
    rintro sends b rfl hb
    rw [hb]
    exact (List.append_nil _).symm
  -- whatever panics does so before it sends
  have hpanic := fun hout : out = .panicked => (hout ▸ h).sends_panicked
  cases h with
  | subscribePanicked | subscribeOverflow | unsubscribePanicked =>
      exact hnone _ _ (hpanic rfl) rfl
  | receivePanicked => exact hnone _ _ (hpanic rfl) (by rw [channels_stored])
  | subscribed hp hadd htook =>
      rw [sends_subscribe hp hadd]
      exact htook.sent c
  | received hp htook _ =>
      rw [sends_receive hp]
      exact htook.sent c
  | quiet hop =>
      refine hnone _ _ ?_ rfl
      cases op with
      | subscribe | simulateReceive => simp [Op.quiet] at hop
      | _ => rfl
  | unsubscribed | clearedRetained => exact hnone _ _ rfl rfl
  | created => exact hnone _ _ rfl (hw.sent_created _ c)
  | addedReceiver => exact hnone _ _ rfl (Bank.sent_addReceiver _ _ c)
  | droppedReceiver => exact hnone _ _ rfl (Bank.sent_dropReceiver _ _ c)

/-! ## Soundness of every reachable world -/

theorem Effect.sound {op : Op} {out : Outcome Reply} (h : Effect p w op out w') (hw : w.Sound)
    (hvalid : op.Valid w) : w'.Sound := by
  cases h with
  | subscribePanicked | unsubscribePanicked => exact hw
  | subscribeOverflow => exact ⟨hw.locks.poisonSubscribe, hw.senders, hw.unused, hw.keys⟩
  | subscribed hp hadd htook =>
      refine (hw.pushed _ hvalid _).sending ?_ htook
      intro d hd
      rw [(replays_row hd).1]
      exact hvalid
  | unsubscribed => exact hw.filtered _
  | receivePanicked => exact hw.stored _
  | received hp htook _ =>
      refine (hw.stored _).sending ?_ ((channels_stored _).symm ▸ htook)
      intro d hd
      rw [channels_stored]
      exact hw.senders d.1 (fanOuts_row hd).1
  | quiet => exact ⟨hw.locks.setPublished _, hw.senders, hw.unused, hw.keys⟩
  | clearedRetained => exact hw.cleared
  | created => exact hw.rewired (Nat.le_succ _) (hw.sent_created _)
  | addedReceiver => exact hw.rewired (Nat.le_refl _) (Bank.sent_addReceiver _ _)
  | droppedReceiver => exact hw.rewired (Nat.le_refl _) (Bank.sent_dropReceiver _ _)

/-- A step of the mock client is a valid call with one of its effects. -/
theorem mock_step {clientId : String} {e : Event} (hw : w.Sound)
    (h : (mock B p clientId).step w e w') : e.op.Valid w ∧ Effect p w e.op e.outcome w' := by
  obtain ⟨hvalid, hexec⟩ := h
  have heffect : Effect p w e.op (e.op.exec p w).1 (e.op.exec p w).2 := exec_effect hw.locks e.op
  rw [hexec] at heffect
  exact ⟨hvalid, heffect⟩

theorem mock_sound {clientId : String} (h : (mock B p clientId).Reachable w) : w.Sound := by
  refine TSys.Inductive.reachable ⟨?_, ?_⟩ h
  · rintro w rfl
    exact .new clientId
  · intro _ w e w' hw hstep
    obtain ⟨hvalid, heffect⟩ := mock_step hw hstep
    exact heffect.sound hw hvalid

/-! ## The retained store and the history -/

/-- The entry a call writes to the retained store. -/
def Event.writes : Event → Option (String × MqttMessage)
  | ⟨.simulateReceive m, _⟩ => if m.retain then some (m.topic, m) else none
  | _ => none

/-- Whether a call empties the retained store. -/
def Event.clears : Event → Bool
  | ⟨.clearRetainedMessages, _⟩ => true
  | _ => false

/-- Only receiving a message with the retain flag writes. -/
theorem Event.writes_iff {e : Event} {topic : String} {m : MqttMessage} :
    e.writes = some (topic, m) ↔
      e.op = .simulateReceive m ∧ m.retain = true ∧ topic = m.topic := by
  obtain ⟨op, out⟩ := e
  cases op with
  | simulateReceive m' =>
      cases hretain : m'.retain with
      | true =>
          simp only [Event.writes, hretain, if_true, Option.some_inj, Prod.mk.injEq,
            Op.simulateReceive.injEq]
          constructor
          · rintro ⟨rfl, rfl⟩
            exact ⟨rfl, hretain, rfl⟩
          · rintro ⟨rfl, -, rfl⟩
            exact ⟨rfl, rfl⟩
      | false =>
          simp only [Event.writes, hretain, Op.simulateReceive.injEq]
          constructor
          · intro h
            simp at h
          · rintro ⟨rfl, htrue, -⟩
            rw [hretain] at htrue
            cases htrue
  | _ => simp [Event.writes]

theorem Event.writes_of_clears {e : Event} (h : e.clears = true) : e.writes = none := by
  obtain ⟨op, out⟩ := e
  cases op with
  | clearRetainedMessages => rfl
  | _ => simp [Event.clears] at h

/-- `LastRetained tr topic m`: of the messages with the retain flag that were
received in `tr` on `topic`, `m` is the last, and came after the last
`clear_retained_messages`. -/
abbrev LastRetained (tr : List Event) (topic : String) (m : MqttMessage) : Prop :=
  LastWrite Event.writes Event.clears tr topic m

theorem Effect.retained {op : Op} {out : Outcome Reply} (h : Effect p w op out w') :
    w'.retained = applyWrite Event.writes Event.clears w.retained ⟨op, out⟩ := by
  have hstored : ∀ m out, (w.stored m).retained =
      applyWrite Event.writes Event.clears w.retained ⟨.simulateReceive m, out⟩ := by
    intro m out
    cases hretain : m.retain <;>
      simp [MockWorld.stored, applyWrite, Event.writes, Event.clears, hretain]
  cases h with
  | receivePanicked => exact hstored _ _
  | received => exact hstored _ _
  | quiet hop =>
      cases op with
      | simulateReceive | clearRetainedMessages => simp [Op.quiet] at hop
      | _ => rfl
  | _ => rfl

/-- The retained store holds for each topic the message `LastRetained` says. -/
theorem retained_iff {clientId : String} {tr : List Event}
    (h : (mock B p clientId).Trace tr w) (topic : String) (m : MqttMessage) :
    w.retained.lookup topic = some m ↔ LastRetained tr topic m := by
  let I : List Event → MockWorld B → Prop := fun tr w =>
    w.Sound ∧ ∀ topic m, w.retained.lookup topic = some m ↔ LastRetained tr topic m
  have hI : (mock B p clientId).Inductive I := by
    refine ⟨?_, ?_⟩
    · rintro w rfl
      exact ⟨.new clientId, fun topic m => by simp [not_lastWrite_nil]⟩
    · rintro tr w e w' ⟨hw, hiff⟩ hstep
      obtain ⟨hvalid, heffect⟩ := mock_step hw hstep
      refine ⟨heffect.sound hw hvalid, ?_⟩
      intro topic m
      rw [heffect.retained]
      exact lookup_applyWrite_iff (fun _ => Event.writes_of_clears) hiff topic m
  exact (hI.trace h).2 topic m

/-! ## Ids -/

/-- As long as the counter has not overflowed: rows are in the order of their
ids, all drawn from the counter, and so is the id of every message sent. -/
structure MockWorld.Numbered (w : MockWorld B) : Prop where
  healthy : w.poisoned = false
  increasing : w.table.Pairwise fun s s' => s.subId < s'.subId
  drawn : ∀ s ∈ w.table, 1 ≤ s.subId ∧ s.subId < w.nextId
  positive : 1 ≤ w.nextId
  tags : ∀ c, ∀ m ∈ w.channels.sent c, ∃ id, m.subscriptionId = some id ∧ id < w.nextId

namespace MockWorld

theorem Numbered.new (clientId : String) : (new B clientId).Numbered where
  healthy := rfl
  increasing := .nil
  drawn := by simp
  positive := UInt32.le_refl 1
  tags c m hm := by
    have hnil : (MockWorld.new B clientId).channels.sent c = [] := B.sent_channel 1
    rw [hnil] at hm
    exact absurd hm List.not_mem_nil

/-- Only the table, the counter and what was sent matter. -/
theorem Numbered.congr (h : w.Numbered) (hpoisoned : w'.poisoned = w.poisoned)
    (htable : w'.table = w.table) (hnext : w'.nextId = w.nextId)
    (hsent : ∀ c, w'.channels.sent c = w.channels.sent c) : w'.Numbered where
  healthy := hpoisoned.trans h.healthy
  increasing := htable ▸ h.increasing
  drawn := by
    rw [htable, hnext]
    exact h.drawn
  positive := hnext ▸ h.positive
  tags c := by
    rw [hsent, hnext]
    exact h.tags c

theorem Numbered.stored (h : w.Numbered) (m : MqttMessage) : (w.stored m).Numbered :=
  h.congr (poisoned_stored m) (table_stored m) (nextId_stored m) fun c => by
    rw [channels_stored]

theorem Numbered.filtered (h : w.Numbered) (keep : Subscription → Bool) :
    (w.setTable (w.table.filter keep)).Numbered where
  healthy := h.healthy
  increasing := h.increasing.filter _
  drawn s hs := h.drawn s (List.mem_of_mem_filter hs)
  positive := h.positive
  tags := h.tags

theorem Numbered.pushed (h : w.Numbered) (topic : String) (tx : ChannelId)
    {nextId' : UInt32} (hnext : w.nextId < nextId') : (pushed w topic tx nextId').Numbered where
  healthy := h.healthy
  increasing := by
    refine List.pairwise_append.mpr ⟨h.increasing, List.pairwise_singleton _ _, ?_⟩
    intro s hs s' hs'
    obtain rfl : s' = ⟨topic, w.nextId, tx⟩ := by simpa using hs'
    exact (h.drawn s hs).2
  drawn s hs := by
    rcases List.mem_append.mp hs with hs | hs
    · exact ⟨(h.drawn s hs).1, UInt32.lt_trans (h.drawn s hs).2 hnext⟩
    · obtain rfl : s = ⟨topic, w.nextId, tx⟩ := by simpa using hs
      exact ⟨h.positive, hnext⟩
  positive := UInt32.le_trans h.positive (UInt32.le_of_lt hnext)
  tags c m hm := by
    obtain ⟨id, hid, hlt⟩ := h.tags c m hm
    exact ⟨id, hid, UInt32.lt_trans hlt hnext⟩

theorem Numbered.sending (h : w.Numbered) {sends : List (Subscription × MqttMessage)}
    (hrows : ∀ d ∈ sends, d.1.subId < w.nextId) {b : Bank B}
    (hb : w.channels.Took (copies sends) b) : (w.setChannels b).Numbered where
  healthy := h.healthy
  increasing := h.increasing
  drawn := h.drawn
  positive := h.positive
  tags c m hm := by
    rw [channels_setChannels, hb.sent] at hm
    rcases List.mem_append.mp hm with hm | hm
    · exact h.tags c m hm
    · rw [Bank.mem_onChannel] at hm
      obtain ⟨d, hd, hcopy⟩ := List.mem_map.mp hm
      obtain rfl : d.2.tagged d.1.subId = m := congrArg Prod.snd hcopy
      exact ⟨d.1.subId, rfl, hrows d hd⟩

end MockWorld

/-- `+= 1` below the last id. -/
theorem addU32_eq (p : Profile) {id : UInt32} (h : id.toNat + 1 < 2 ^ 32) :
    p.addU32 id 1 = some (id + 1) ∧ (id + 1).toNat = id.toNat + 1 := by
  refine ⟨?_, ?_⟩
  · cases p with
    | debug => exact if_pos h
    | release => rfl
  · rw [UInt32.toNat_add]
    exact Nat.mod_eq_of_lt h

/-- Whether a call is a subscribe. -/
def Event.isSubscribe : Event → Bool
  | ⟨.subscribe .., _⟩ => true
  | _ => false

/-- How many subscribes a history holds. -/
def subscribeCount (tr : List Event) : Nat := tr.countP Event.isSubscribe

/-- One call keeps the ids in order and draws at most one. -/
theorem Effect.numbered {op : Op} {out : Outcome Reply} (hw : w.Sound) (hn : w.Numbered)
    (hroom : w.nextId.toNat + 1 < 2 ^ 32 ∨ Event.isSubscribe ⟨op, out⟩ = false)
    (h : Effect p w op out w') :
    w'.Numbered ∧
      w'.nextId.toNat = w.nextId.toNat + if Event.isSubscribe ⟨op, out⟩ then 1 else 0 := by
  cases h with
  | subscribePanicked hp => exact absurd hp (by simp [hn.healthy])
  | unsubscribePanicked hp => exact absurd hp (by simp [hn.healthy])
  | receivePanicked hp => exact absurd hp (by simp [hn.healthy])
  | subscribeOverflow _ hadd =>
      -- excluded by the room that is left
      have hroom : w.nextId.toNat + 1 < 2 ^ 32 := by simpa [Event.isSubscribe] using hroom
      rw [(addU32_eq p hroom).1] at hadd
      cases hadd
  | subscribed hp hadd htook =>
      have hroom : w.nextId.toNat + 1 < 2 ^ 32 := by simpa [Event.isSubscribe] using hroom
      obtain ⟨hsome, hnat⟩ := addU32_eq p hroom
      obtain rfl := Option.some.inj (hsome.symm.trans hadd)
      have hlt : w.nextId < w.nextId + 1 := by
        rw [UInt32.lt_iff_toNat_lt, hnat]
        exact Nat.lt_succ_self _
      refine ⟨(hn.pushed _ _ hlt).sending ?_ htook, hnat⟩
      intro d hd
      rw [(replays_row hd).1]
      exact hlt
  | unsubscribed => exact ⟨hn.filtered _, rfl⟩
  | received hp htook _ =>
      refine ⟨(hn.stored _).sending (fun d hd => ?_) ((channels_stored _).symm ▸ htook), ?_⟩
      · rw [nextId_stored]
        exact (hn.drawn d.1 (fanOuts_row hd).1).2
      · rw [nextId_setChannels, nextId_stored]
        rfl
  | quiet hop =>
      refine ⟨hn.congr rfl rfl rfl fun _ => rfl, ?_⟩
      cases op with
      | subscribe => simp [Op.quiet] at hop
      | _ => rfl
  | clearedRetained => exact ⟨hn.congr rfl rfl rfl fun _ => rfl, rfl⟩
  | created => exact ⟨hn.congr rfl rfl rfl (hw.sent_created _), rfl⟩
  | addedReceiver => exact ⟨hn.congr rfl rfl rfl (Bank.sent_addReceiver _ _), rfl⟩
  | droppedReceiver => exact ⟨hn.congr rfl rfl rfl (Bank.sent_dropReceiver _ _), rfl⟩

/-- With fewer than `2 ^ 32 - 1` subscribes no id is handed out twice. -/
theorem mock_numbered {clientId : String} {tr : List Event}
    (h : (mock B p clientId).Trace tr w) (hcount : subscribeCount tr < 2 ^ 32 - 1) :
    w.Numbered ∧ w.nextId.toNat = subscribeCount tr + 1 := by
  let I : List Event → MockWorld B → Prop := fun tr w =>
    w.Sound ∧ (subscribeCount tr < 2 ^ 32 - 1 →
      w.Numbered ∧ w.nextId.toNat = subscribeCount tr + 1)
  have hI : (mock B p clientId).Inductive I := by
    refine ⟨?_, ?_⟩
    · rintro w rfl
      exact ⟨.new clientId, fun _ => ⟨.new clientId, rfl⟩⟩
    · rintro tr w e w' ⟨hw, hnum⟩ hstep
      obtain ⟨hvalid, heffect⟩ := mock_step hw hstep
      refine ⟨heffect.sound hw hvalid, ?_⟩
      intro hcount
      have hsnoc : subscribeCount (tr ++ [e]) =
          subscribeCount tr + if e.isSubscribe then 1 else 0 := by
        unfold subscribeCount
        rw [List.countP_append, List.countP_singleton]
      rw [hsnoc] at hcount ⊢
      obtain ⟨hn, hnat⟩ := hnum (by omega)
      have hroom : w.nextId.toNat + 1 < 2 ^ 32 ∨ e.isSubscribe = false := by
        cases hsub : e.isSubscribe with
        | false => exact .inr rfl
        | true =>
            left
            rw [hsub, if_pos rfl] at hcount
            omega
      obtain ⟨hn', hnat'⟩ := heffect.numbered hw hn hroom
      exact ⟨hn', by rw [hnat', hnat, Nat.add_right_comm]⟩
  exact (hI.trace h).2 hcount

end StingerMqtt

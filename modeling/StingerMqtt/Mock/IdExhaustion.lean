import StingerMqtt.Mock.Invariants

/-!
# The last subscription id

`subscribe` adds one to a `u32` that no call ever lowers. Up to the last value
every subscribe draws a new id. At the last one it panics or wraps around,
whichever the build does on overflow.
-/

namespace StingerMqtt

open Kit Mock

variable {B : Broadcast MqttMessage} {p : Profile} {w w' : MockWorld B}

/-- `u32::MAX`. -/
def maxId : UInt32 := 0xFFFFFFFF

/-- A subscribe on `w` that ended as `out` in `w'` has not panicked and not
turned the counter back; an id it returned is not 0 and no row has it; and if
it failed it has changed nothing. -/
structure IdSafe (w : MockWorld B) (out : Outcome Reply) (w' : MockWorld B) : Prop where
  returns : out ≠ .panicked
  counts : w.nextId ≤ w'.nextId
  fresh : ∀ id, out = .returned (.subscribed (.ok id)) → id ≠ 0 ∧ ∀ s ∈ w.table, s.subId ≠ id
  fails : ∀ e, out = .returned (.subscribed (.error e)) →
    w'.table = w.table ∧ w'.nextId = w.nextId ∧ w'.channels = w.channels

/-- A subscribe is made only while an id is left behind the next one. -/
def SpareId (w : MockWorld B) (e : Event) : Prop := e.isSubscribe = true → w.nextId ≠ maxId

theorem spare_iff {id : UInt32} : id ≠ maxId ↔ id.toNat + 1 < 2 ^ 32 := by
  have hlt := id.toNat_lt
  have hmax : maxId.toNat = 2 ^ 32 - 1 := rfl
  rw [Ne, ← UInt32.toNat_inj, hmax]
  omega

/-- Such runs keep the ids in order. -/
theorem spare_numbered {clientId : String}
    (h : ((mock B p clientId).guarded SpareId).Reachable w) : w.Sound ∧ w.Numbered := by
  have hI : ((mock B p clientId).guarded SpareId).Inductive fun _ w => w.Sound ∧ w.Numbered := by
    refine ⟨?_, ?_⟩
    · rintro w rfl
      exact ⟨.new clientId, .new clientId⟩
    · rintro _ w e w' ⟨hw, hn⟩ ⟨hstep, hspare⟩
      obtain ⟨hvalid, heffect⟩ := mock_step hw hstep
      have hroom : w.nextId.toNat + 1 < 2 ^ 32 ∨ e.isSubscribe = false := by
        cases hsub : e.isSubscribe with
        | false => exact .inr rfl
        | true => exact .inl (spare_iff.mp (hspare hsub))
      exact ⟨heffect.sound hw hvalid, (heffect.numbered hw hn hroom).1⟩
  exact hI.reachable h

section

variable {topic : String} {qos : QoS} {tx : ChannelId} {iter : IterOrder String MqttMessage}
  {out : Outcome Reply}

/-- With an id to spare a subscribe is safe. -/
theorem idSafe_of_spare (hn : w.Numbered) (hspare : w.nextId ≠ maxId)
    (h : Effect p w (.subscribe topic qos tx iter) out w') : IdSafe w out w' := by
  obtain ⟨hadd, hnat⟩ := addU32_eq p (spare_iff.mp hspare)
  cases h with
  | subscribePanicked hp => exact absurd hp (by simp [hn.healthy])
  | subscribeOverflow _ hnone =>
      rw [hadd] at hnone
      cases hnone
  | subscribed _ hsome _ =>
      obtain rfl := Option.some.inj (hadd.symm.trans hsome)
      constructor
      · intro h
        cases h
      · show w.nextId ≤ w.nextId + 1
        rw [UInt32.le_iff_toNat_le, hnat]
        omega
      · intro id hid
        cases hid
        refine ⟨?_, ?_⟩
        · intro hzero
          have hpos := hn.positive
          rw [hzero] at hpos
          exact absurd hpos (by decide)
        · intro s hs
          exact UInt32.ne_of_lt (hn.drawn s hs).2
      · intro e he
        cases he
  | quiet hquiet _ => cases hquiet

/-- At the last id it is not: it panics, or the counter wraps around to 0. -/
theorem not_idSafe_at_maxId (hmax : w.nextId = maxId)
    (h : Effect p w (.subscribe topic qos tx iter) out w') : ¬ IdSafe w out w' := by
  intro hsafe
  cases h with
  | subscribePanicked => exact hsafe.returns rfl
  | subscribeOverflow => exact hsafe.returns rfl
  | @subscribed _ _ _ _ nextId' _ _ hsome _ =>
      have hwrapped : nextId' = 0 := by
        rw [hmax] at hsome
        cases p with
        | debug => cases hsome
        | release => exact (Option.some.inj hsome).symm
      have hcounts : w.nextId ≤ nextId' := hsafe.counts
      rw [hmax, hwrapped] at hcounts
      exact absurd hcounts (by decide)
  | quiet hquiet _ => cases hquiet

end

/-- In a run that makes every subscribe with an id to spare, every subscribe is
safe; and after it the next one is exactly if an id is to spare again. -/
theorem subscribes_idSafe {clientId : String} {tr : List Event}
    (h : ((mock B p clientId).guarded SpareId).Trace tr w) :
    (∀ before topic qos tx iter out after,
      tr = before ++ ⟨.subscribe topic qos tx iter, out⟩ :: after →
      ∃ w₁ w₂, (mock B p clientId).Trace before w₁ ∧
        Op.exec p (.subscribe topic qos tx iter) w₁ = (out, w₂) ∧ IdSafe w₁ out w₂) ∧
    ∀ topic qos tx iter, let result := Op.exec p (.subscribe topic qos tx iter) w
      IdSafe w result.1 result.2 ↔ w.nextId ≠ maxId := by
  refine ⟨?_, ?_⟩
  · rintro before topic qos tx iter out after rfl
    obtain ⟨w₁, w₂, hbefore, hstep, hspare⟩ := TSys.guarded_step h
    obtain ⟨hw, hn⟩ := spare_numbered ⟨before, hbefore⟩
    refine ⟨w₁, w₂, TSys.guarded_trace hbefore, hstep.2, ?_⟩
    exact idSafe_of_spare hn (hspare rfl) (mock_step hw hstep).2
  · intro topic qos tx iter result
    obtain ⟨hw, hn⟩ := spare_numbered ⟨tr, h⟩
    have heffect := exec_effect (p := p) hw.locks (.subscribe topic qos tx iter)
    constructor
    · intro hsafe hmax
      exact not_idSafe_at_maxId hmax heffect hsafe
    · intro hspare
      exact idSafe_of_spare hn hspare heffect

theorem subscribes_idSafe_once :
    let w := (execAll .debug (.new (.log MqttMessage) "mock-client") [.channel 4]).2
    let result := Op.exec .debug (.subscribe "a" .atMostOnce 0 (.stored _ _)) w
    IdSafe w result.1 result.2 := by
  intro w result
  have htrace : ((mock (.log MqttMessage) .debug "mock-client").guarded SpareId).Trace
      (execAll .debug (.new (.log MqttMessage) "mock-client") [.channel 4]).1 w := by
    refine ⟨_, rfl, .single ⟨⟨?_, rfl⟩, ?_⟩⟩
    · show 0 < 4
      omega
    · intro hsub
      cases hsub
  exact ((subscribes_idSafe htrace).2 "a" .atMostOnce 0 (.stored _ _)).mpr (by decide)

/-! ## The counter gets there -/

theorem Effect.next_le {op : Op} {out : Outcome Reply} (h : Effect p w op out w') :
    w.channels.next ≤ w'.channels.next := by
  cases h with
  | subscribed _ _ htook => exact Nat.le_of_eq htook.next.symm
  | receivePanicked =>
      rw [channels_stored]
  | received _ htook _ => exact Nat.le_of_eq htook.next.symm
  | created => exact Nat.le_succ _
  | _ => exact Nat.le_refl _

/-- Any number of subscribes can be made, one after the other. -/
theorem subscribes_made (B : Broadcast MqttMessage) (p : Profile) (clientId : String) (n : Nat) :
    ∃ (tr : List Event) (w : MockWorld B), (mock B p clientId).Trace tr w ∧
      subscribeCount tr = n ∧ 0 < w.channels.next := by
  induction n with
  | zero =>
      let w : MockWorld B := .new B clientId
      have hnew : (mock B p clientId).Trace [] w := ⟨w, rfl, .nil⟩
      refine ⟨[⟨.channel 4, (Op.exec p (.channel 4) w).1⟩], _, hnew.snoc ⟨?_, rfl⟩, rfl, ?_⟩
      · show 0 < 4
        omega
      · exact Nat.zero_lt_one
  | succ n ih =>
      obtain ⟨tr, w, htrace, hcount, hchannel⟩ := ih
      let op : Op := .subscribe "a" .atMostOnce 0 (.stored _ _)
      have heffect := exec_effect (p := p) (mock_sound ⟨tr, htrace⟩).locks op
      have hstep : (mock B p clientId).step w ⟨op, (op.exec p w).1⟩ (op.exec p w).2 :=
        ⟨hchannel, rfl⟩
      refine ⟨_, _, htrace.snoc hstep, ?_, ?_⟩
      · unfold subscribeCount at hcount ⊢
        rw [List.countP_append, hcount]
        rfl
      · exact Nat.lt_of_lt_of_le hchannel heffect.next_le

/-- So the counter gets to its last value. -/
theorem maxId_reached (B : Broadcast MqttMessage) (p : Profile) (clientId : String) :
    ∃ w : MockWorld B, (mock B p clientId).Reachable w ∧ w.nextId = maxId := by
  obtain ⟨tr, w, htrace, hcount, -⟩ := subscribes_made B p clientId (2 ^ 32 - 2)
  obtain ⟨-, hnext⟩ := mock_numbered htrace (by omega)
  refine ⟨w, ⟨tr, htrace⟩, ?_⟩
  apply UInt32.toNat_inj.mp
  rw [hnext, hcount]
  rfl

/-- The subscribe after `2 ^ 32 - 2` others is not safe, in neither build. -/
theorem last_subscribe_unsafe :
    ¬ ∃ p : Profile, ∀ w : MockWorld (.log MqttMessage), (mock _ p "mock-client").Reachable w →
      ∀ topic qos tx iter, let result := Op.exec p (.subscribe topic qos tx iter) w
        IdSafe w result.1 result.2 := by
  rintro ⟨p, hall⟩
  obtain ⟨w, hreach, hmax⟩ := maxId_reached (.log MqttMessage) p "mock-client"
  have heffect := exec_effect (p := p) (mock_sound hreach).locks
    (.subscribe "a" .atMostOnce 0 (.stored _ _))
  exact not_idSafe_at_maxId hmax heffect (hall w hreach "a" .atMostOnce 0 (.stored _ _))

end StingerMqtt

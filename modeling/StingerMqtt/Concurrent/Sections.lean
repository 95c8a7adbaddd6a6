import StingerMqtt.Concurrent.Calls

/-!
# The sections of the clones as functions

What the next section of a thread does depends on the shared client alone:
`Pc.next` is the client and the place of the thread after it, `Pc.move` the move
it is. `advance_inv` says that a step of the clones does exactly this and nothing
else, and `advance_of` that it is taken as soon as `subscriptions` is free where
it is needed.
-/

namespace StingerMqtt

open Kit Mock MockWorld

variable {B : Broadcast MqttMessage} {p : Profile}

namespace Pc

/-- The next section takes `subscriptions`. -/
def waits : Pc → Bool
  | .fanOut .. => true
  | .lock .. => true
  | .atomic _ op => op.locksTable
  | _ => false

/-- `subscriptions` is held from the section before. -/
def holds : Pc → Bool
  | .allocate .. => true
  | .replay .. => true
  | _ => false

/-- Where a thread is after its next section, and the shared client then. -/
def next (p : Profile) (w : MockWorld B) : Pc → Pc × MockWorld B
  | .idle => (.idle, w)
  | .store call message =>
    (.after call (fun _ => .fanOut call message) (storeRetained message w).1,
      (storeRetained message w).2)
  | .fanOut call message =>
    (.returning call ((Mock.fanOut message w).1.map .received), (Mock.fanOut message w).2)
  | .lock call topic tx iter =>
    (.after call (fun _ => .allocate call topic tx iter) (lockSubscriptions w).1,
      (lockSubscriptions w).2)
  | .allocate call topic tx iter =>
    (.after call (.replay call topic tx iter) (Mock.allocate p topic tx w).1,
      (Mock.allocate p topic tx w).2)
  | .replay call topic tx iter id =>
    (.returning call ((Mock.replay topic id tx iter w).1.map fun _ => .subscribed (.ok id)),
      (Mock.replay topic id tx iter w).2)
  | .atomic call op => (.returning call (op.exec p w).1, (op.exec p w).2)
  | .returning _ _ => (.idle, w)

/-- The move the next section is. -/
def move (p : Profile) (w : MockWorld B) : Pc → Option Move
  | .idle => none
  | .store call message => some (.store call message)
  | .fanOut call message => some (.fanOut call message)
  | .lock call .. => some (.lock call)
  | .allocate call topic tx _ => some (.allocate call (Mock.allocate p topic tx w).1)
  | .replay call .. => some (.replay call)
  | .atomic call op => some (.atomic call op)
  | .returning call outcome => some (.ret call outcome)

theorem move_call {w : MockWorld B} {pc : Pc} {move : Move} (h : pc.move p w = some move) :
    pc.call = some move.call ∧ move.rank = pc.rank := by
  cases pc with
  | idle => cases h
  | _ =>
      cases h
      exact ⟨rfl, rfl⟩

theorem ends_iff {w : MockWorld B} {pc : Pc} {call : CallId} {out : Outcome Reply} :
    pc.move p w = some (.ret call out) ↔ pc = .returning call out := by
  cases pc <;> simp [move]

/-- A section that does not end its call leaves the thread in it. -/
theorem next_call {w : MockWorld B} {pc : Pc} {call : CallId} (hcall : pc.call = some call)
    (hreturning : ∀ out, pc ≠ .returning call out) : (pc.next p w).1.call = some call := by
  have hafter : ∀ {α : Type} {next : α → Pc} {out : Outcome α},
      (∀ a, (next a).call = some call) → (Pc.after call next out).call = some call := by
    intro α next out hnext
    cases out with
    | returned value => exact hnext value
    | panicked => rfl
  cases pc with
  | idle => cases hcall
  | returning call' out =>
      cases hcall
      exact absurd rfl (hreturning out)
  | store | lock | allocate =>
      cases hcall
      exact hafter fun _ => rfl
  | fanOut | replay | atomic => exact hcall

end Pc

/-- The thread is in the middle of a call. -/
def Pc.isBusy : Pc → Bool
  | .idle => false
  | .returning .. => false
  | _ => true

theorem Pc.start_isBusy (call : CallId) (op : Op) : (Pc.start call op).isBusy = true := by
  cases op with
  | simulateReceive m =>
      show (if m.retain then Pc.store call m else Pc.fanOut call m).isBusy = true
      split <;> rfl
  | _ => rfl

theorem Pc.start_oneSection {call call' : CallId} {op op' : Op}
    (h : Pc.start call op = .atomic call' op') : op'.oneSection = true := by
  cases op with
  | subscribe => cases h
  | simulateReceive m =>
      have h : (if m.retain then Pc.store call m else Pc.fanOut call m) = .atomic call' op' := h
      split at h <;> cases h
  | _ =>
      cases h
      rfl

/-- `Advances p cfg t move cfg'`: the next section of thread `t` leads from `cfg`
to `cfg'`. -/
structure Advances (p : Profile) (cfg : Config B) (t : ThreadId) (move : Move)
    (cfg' : Config B) : Prop where
  move : (cfg.threads t).move p cfg.world = some move
  free : (cfg.threads t).waits = true → cfg.holder = none
  world : cfg'.world = ((cfg.threads t).next p cfg.world).2
  threads : cfg'.threads = Function.update cfg.threads t ((cfg.threads t).next p cfg.world).1
  holder : cfg'.holder =
    if (cfg.threads t).holds = ((cfg.threads t).next p cfg.world).1.holds then cfg.holder
    else if (cfg.threads t).holds then none else some t
  nextCall : cfg'.nextCall = cfg.nextCall

variable {cfg cfg' : Config B} {t : ThreadId} {move : Move}

section

attribute [local simp] Pc.move Pc.waits Pc.next Pc.holds Pc.after Config.goto Outcome.map

/-- A step that makes no call is the next section of its thread. -/
theorem advance_inv (h : cfg.advance p t = some (move, cfg')) : Advances p cfg t move cfg' := by
  unfold Config.advance at h
  cases hpc : cfg.threads t with
  | idle =>
      rw [hpc] at h
      cases h
  | store call m =>
      rw [hpc] at h
      simp only at h
      cases hout : (storeRetained m cfg.world).1 <;> rw [hout] at h <;> cases h <;>
        constructor <;> simp [hpc, hout]
  | fanOut call m =>
      rw [hpc] at h
      simp only at h
      split at h
      · next hfree =>
          cases hout : (fanOut m cfg.world).1 <;> rw [hout] at h <;> cases h <;>
            constructor <;> simp [hpc, hout, hfree]
      · cases h
  | lock call topic tx iter =>
      rw [hpc] at h
      simp only at h
      split at h
      · next hfree =>
          cases hout : (lockSubscriptions cfg.world).1 <;> rw [hout] at h <;> cases h <;>
            constructor <;> simp [hpc, hout, hfree]
      · cases h
  | allocate call topic tx iter =>
      rw [hpc] at h
      simp only at h
      cases hout : (allocate p topic tx cfg.world).1 <;> rw [hout] at h <;> cases h <;>
        constructor <;> simp [hpc, hout]
  | replay call topic tx iter id =>
      rw [hpc] at h
      simp only at h
      cases hout : (replay topic id tx iter cfg.world).1 <;> rw [hout] at h <;> cases h <;>
        constructor <;> simp [hpc, hout]
  | atomic call op =>
      rw [hpc] at h
      simp only at h
      split at h
      · next hfree =>
          cases h
          constructor <;> simp [hpc]
          simpa using hfree.resolve_left
      · cases h
  | returning call out =>
      rw [hpc] at h
      cases h
      constructor <;> simp [hpc]

/-- The next section of a thread is taken if `subscriptions` is free or it does
not need it. -/
theorem advance_of (hmove : (cfg.threads t).move p cfg.world = some move)
    (hfree : (cfg.threads t).waits = true → cfg.holder = none) :
    ∃ cfg', cfg.advance p t = some (move, cfg') := by
  unfold Config.advance
  cases hpc : cfg.threads t with
  | idle =>
      rw [hpc] at hmove
      cases hmove
  | fanOut | lock =>
      rw [hpc] at hmove hfree
      cases hmove
      simp only [if_pos (hfree rfl)]
      exact ⟨_, rfl⟩
  | atomic call op =>
      rw [hpc] at hmove hfree
      cases hmove
      have hfree : op.locksTable = false ∨ cfg.holder = none := by
        cases hlocks : op.locksTable with
        | false => exact .inl rfl
        | true => exact .inr (hfree hlocks)
      simp only [if_pos hfree]
      exact ⟨_, rfl⟩
  | store | allocate | replay | returning =>
      rw [hpc] at hmove
      cases hmove
      exact ⟨_, rfl⟩

end

/-- A call in one section does what the call does. -/
theorem Advances.atomic (h : Advances p cfg t move cfg') {call : CallId} {op : Op}
    (hpc : cfg.threads t = .atomic call op) :
    cfg'.world = (op.exec p cfg.world).2 ∧
      cfg'.threads t = .returning call (op.exec p cfg.world).1 := by
  rw [h.world, h.threads, Function.update_self, hpc]
  exact ⟨rfl, rfl⟩

/-! ## Who holds `subscriptions` -/

theorem Pc.waits_holds {pc : Pc} (hwaits : pc.waits = true) : pc.holds = false := by
  cases pc with
  | allocate | replay => cases hwaits
  | _ => rfl

/-- A section that goes on with `subscriptions` in hand has waited for it, or had
it already. -/
theorem Pc.next_holds {w : MockWorld B} {pc : Pc} (hholds : pc.holds = false)
    (hnext : (pc.next p w).1.holds = true) : pc.waits = true := by
  cases pc with
  | allocate | replay => cases hholds
  | fanOut | lock => rfl
  | idle | returning | atomic => cases hnext
  | store call m =>
      have hnext : (Pc.after call (fun _ => .fanOut call m) (storeRetained m w).1).holds = true :=
        hnext
      cases hout : (storeRetained m w).1 <;> rw [hout] at hnext <;> cases hnext

/-- Who holds `subscriptions` after a section: the same thread as before, or the
one that goes on with it. -/
theorem Advances.holder_cases (h : Advances p cfg t move cfg')
    (hheld : ∀ t, cfg.holder = some t → (cfg.threads t).holds = true) {t' : ThreadId}
    (hholder : cfg'.holder = some t') :
    t' ≠ t ∧ cfg.holder = some t' ∨ t' = t ∧ (cfg'.threads t).holds = true ∧
      ((cfg.threads t).holds = true ∧ cfg.holder = some t ∨ (cfg.threads t).waits = true) := by
  have hself : cfg'.threads t = ((cfg.threads t).next p cfg.world).1 := by
    rw [h.threads, Function.update_self]
  rw [h.holder] at hholder
  rw [hself]
  split at hholder
  · next hsame =>
      by_cases ht : t' = t
      · subst ht
        have hholds := hheld t' hholder
        exact .inr ⟨rfl, hsame ▸ hholds, .inl ⟨hholds, hholder⟩⟩
      · exact .inl ⟨ht, hholder⟩
  · next hdiff =>
      split at hholder
      · cases hholder
      · next hholds =>
          have hholds : (cfg.threads t).holds = false := by simpa using hholds
          have hnext : ((cfg.threads t).next p cfg.world).1.holds = true := by
            rw [hholds] at hdiff
            cases hn : ((cfg.threads t).next p cfg.world).1.holds with
            | true => rfl
            | false => exact absurd hn.symm hdiff
          exact .inr ⟨(Option.some_inj.mp hholder).symm, hnext, .inr (Pc.next_holds hholds hnext)⟩

/-- The thread that holds `subscriptions` is between two sections of a subscribe. -/
theorem clones_holder {clientId : String} (h : (clones B p clientId).Reachable cfg) :
    ∀ t, cfg.holder = some t → (cfg.threads t).holds = true := by
  refine TSys.Inductive.reachable (P := fun cfg : Config B =>
    ∀ t, cfg.holder = some t → (cfg.threads t).holds = true) ⟨?_, ?_⟩ h
  · rintro cfg rfl t ht
    cases ht
  · intro _ cfg l cfg' hheld hstep t' ht'
    rcases hstep with ⟨op, -, hidle, -, rfl⟩ | hadvance
    · have hholds := hheld t' ht'
      have hne : t' ≠ l.thread := by
        intro heq
        rw [heq, hidle] at hholds
        cases hholds
      have hsame : (cfg.invoke l.thread op).threads t' = cfg.threads t' :=
        Function.update_of_ne hne _ _
      rw [hsame]
      exact hholds
    · have h := advance_inv hadvance
      rcases h.holder_cases hheld ht' with ⟨hne, hholder⟩ | ⟨rfl, hholds, -⟩
      · rw [h.threads, Function.update_of_ne hne]
        exact hheld t' hholder
      · exact hholds

/-! ## The history after one more step -/

theorem Move.rank_le (move : Move) : move.rank ≤ 7 := by
  cases move <;> simp [Move.rank]

theorem mem_moves_snoc {ls : List Label} {l : Label} {move' : Move} (h : move' ∈ moves ls) :
    move' ∈ moves (ls ++ [l]) := by
  rw [moves_snoc]
  exact List.mem_append_left _ h

theorem mem_moves_of_ne {ls : List Label} {l : Label} {move' : Move}
    (h : move' ∈ moves (ls ++ [l])) (hne : move'.call ≠ l.move.call) : move' ∈ moves ls := by
  rw [moves_snoc] at h
  rcases List.mem_append.mp h with h | h
  · exact h
  · rw [List.mem_singleton.mp h] at hne
    exact absurd rfl hne

/-- A step concerns a call that no other thread is in. -/
theorem Moves.others {ls : List Label} (hc : Calls ls cfg) (h : Moves p cfg t move cfg') :
    ∀ t' ≠ t, (cfg.threads t').call ≠ some move.call := by
  obtain ⟨pc, -, hcase, -⟩ := h.thread
  intro t' hne hcall
  rcases hcase with ⟨hnew, -⟩ | ⟨hin, -, -⟩
  · rw [hnew] at hcall
    exact absurd (hc.fresh t' _ hcall) (Nat.lt_irrefl _)
  · exact hne (hc.distinct t' t _ hcall hin)

end StingerMqtt

import StingerMqtt.Kit.History
import StingerMqtt.Kit.Simulation
import StingerMqtt.Concurrent.Copies
import StingerMqtt.Concurrent.Sections

/-!
# The clones as one client with atomic operations

However the sections of several threads interleave, the clones behave as one
client that runs one operation at a time: a subscribe as a whole, and each of
the two sections of `simulate_receive`. A subscribe takes effect when it replays;
its row is in the table before, but whoever could see it waits for
`subscriptions` until then.
-/

namespace StingerMqtt

open Kit Mock MockWorld

variable {B : Broadcast MqttMessage} {p : Profile} {clientId : String}

/-! ## Atomic operations -/

/-- What happens to the shared client at once. -/
inductive AtomicOp where
  | store (message : MqttMessage)
  | fanOut (message : MqttMessage)
  | whole (op : Op)

namespace AtomicOp

/-- Run an operation. -/
def exec (p : Profile) : AtomicOp → Act (MockWorld B) Reply
  | .store message => (storeRetained message).map fun _ => .done
  | .fanOut message => (Mock.fanOut message).map .received
  | .whole op => op.exec p

/-- An operation on a channel that was created. -/
def Valid (w : MockWorld B) : AtomicOp → Prop
  | .whole op => op.Valid w
  | _ => True

end AtomicOp

/-- A point of a history: an operation, how it ended and the call it is for. -/
structure Point where
  call : CallId
  op : AtomicOp
  outcome : Outcome Reply

/-- The client `MockClient::new(clientId)` that runs one operation at a time. -/
def atomicClient (B : Broadcast MqttMessage) (p : Profile) (clientId : String) :
    TSys (MockWorld B) Point where
  init w := w = .new B clientId
  step w e w' := e.op.Valid w ∧ e.op.exec p w = (e.outcome, w')

/-- The first point of a receive, if the message is retained. -/
def storePoint (call : CallId) (message : MqttMessage) : List Point :=
  if message.retain then [⟨call, .store message, .returned .done⟩] else []

/-- The points of a call that ends with `outcome`. -/
def Op.points (call : CallId) (outcome : Outcome Reply) : Op → List Point
  | .simulateReceive message => storePoint call message ++ [⟨call, .fanOut message, outcome⟩]
  | op => [⟨call, .whole op, outcome⟩]

/-- The points a call has so far. -/
def ofCall (es : List Point) (call : CallId) : List Point := es.filter fun e => e.call = call

/-- Which steps begin and end which calls. -/
def callBrackets : Brackets Label CallId where
  call l := l.move.call
  begins l := l.move.rank = 0
  ends l := l.move.rank = 7

/-- The points `es` explain the history `ls`: a call that has returned has all
its points and returned what they did, one that has not has some of them, and
the points keep the order of calls that do not overlap. -/
structure Linearizes (ls : List Label) (es : List Point) : Prop where
  completed : ∀ call op out, .invoke call op ∈ moves ls → .ret call out ∈ moves ls →
    ofCall es call = op.points call out
  pending : ∀ call op, .invoke call op ∈ moves ls → ∃ out, ofCall es call <+: op.points call out
  invoked : ∀ e ∈ es, ∃ op, .invoke e.call op ∈ moves ls
  realTime : es.Pairwise fun e e' => ¬ callBrackets.Before ls e'.call e.call

/-! ## A row that is pushed and not yet replayed -/

/-- The call does the same whether or not a row was pushed before, and leaves the
counter alone. -/
structure RowBlind {α : Type} (x : Act (MockWorld B) α) : Prop where
  pushed : ∀ w topic tx nextId', x (pushed w topic tx nextId') =
    ((x w).1, pushed (x w).2 topic tx nextId')
  nextId : ∀ w, (x w).2.nextId = w.nextId

theorem RowBlind.map {α β : Type} {x : Act (MockWorld B) α} (h : RowBlind x) (f : α → β) :
    RowBlind (x.map f) where
  pushed w topic tx nextId' := by
    show ((x (Mock.pushed w topic tx nextId')).1.map f, (x (Mock.pushed w topic tx nextId')).2) = _
    rw [h.pushed]
    rfl
  nextId := h.nextId

/-- A section that takes one of the other two mutexes and changes what it guards. -/
theorem rowBlind_storeRetained (m : MqttMessage) : RowBlind (storeRetained (B := B) m) where
  pushed w topic tx nextId' := by
    unfold storeRetained
    have hsame : (pushed w topic tx nextId').client.retainedMessages.lock =
        w.client.retainedMessages.lock := rfl
    rw [hsame]
    cases w.client.retainedMessages.lock <;> rfl
  nextId w := by
    unfold storeRetained
    cases w.client.retainedMessages.lock <;> rfl

theorem rowBlind_recordPublished (success : MqttPublishSuccess) (m : MqttMessage) :
    RowBlind (recordPublished (B := B) success m) where
  pushed w topic tx nextId' := by
    unfold recordPublished
    have hsame : (pushed w topic tx nextId').client.publishedMessages.lock =
        w.client.publishedMessages.lock := rfl
    rw [hsame]
    cases w.client.publishedMessages.lock <;> rfl
  nextId w := by
    unfold recordPublished
    cases w.client.publishedMessages.lock <;> rfl

theorem rowBlind_clearPublishedMessages : RowBlind (clearPublishedMessages (B := B)) where
  pushed w topic tx nextId' := by
    unfold clearPublishedMessages
    have hsame : (pushed w topic tx nextId').client.publishedMessages.lock =
        w.client.publishedMessages.lock := rfl
    rw [hsame]
    cases w.client.publishedMessages.lock <;> rfl
  nextId w := by
    unfold clearPublishedMessages
    cases w.client.publishedMessages.lock <;> rfl

theorem rowBlind_clearRetainedMessages : RowBlind (clearRetainedMessages (B := B)) where
  pushed w topic tx nextId' := by
    unfold clearRetainedMessages
    have hsame : (pushed w topic tx nextId').client.retainedMessages.lock =
        w.client.retainedMessages.lock := rfl
    rw [hsame]
    cases w.client.retainedMessages.lock <;> rfl
  nextId w := by
    unfold clearRetainedMessages
    cases w.client.retainedMessages.lock <;> rfl

/-- A call in one section that does not take `subscriptions` sees no new row. -/
theorem rowBlind_exec {op : Op} (hone : op.oneSection = true) (hlocks : op.locksTable = false) :
    RowBlind (op.exec (B := B) p) := by
  cases op with
  | subscribe | simulateReceive => cases hone
  | unsubscribe => cases hlocks
  | publish m | publishNoblock m => exact (rowBlind_recordPublished (publishSuccess m.qos) m).map _
  | publishNowait m => exact (rowBlind_recordPublished .queued m).map _
  | clearPublishedMessages => exact rowBlind_clearPublishedMessages.map _
  | clearRetainedMessages => exact rowBlind_clearRetainedMessages.map _
  | lastPublishedMessage | publishedMessages | retainedMessages | channel | addReceiver
  | dropReceiver => exact ⟨fun _ _ _ _ => rfl, fun _ => rfl⟩

/-- A section that neither needs nor holds `subscriptions` does the same whether
or not a row was pushed before. -/
theorem next_pushed {cfg : Config B} {t : ThreadId} {pc : Pc} (hok : pc.Ok cfg t)
    (hwaits : pc.waits = false) (hholds : pc.holds = false) (w : MockWorld B) :
    (pc.next p w).2.nextId = w.nextId ∧ ∀ topic tx nextId',
      pc.next p (pushed w topic tx nextId') =
        ((pc.next p w).1, pushed (pc.next p w).2 topic tx nextId') := by
  cases pc with
  | idle | returning => exact ⟨rfl, fun _ _ _ => rfl⟩
  | fanOut | lock => cases hwaits
  | allocate | replay => cases hholds
  | store call m =>
      refine ⟨(rowBlind_storeRetained m).nextId w, fun topic tx nextId' => ?_⟩
      show (Pc.after call _ (storeRetained m (pushed w topic tx nextId')).1, _) = _
      rw [(rowBlind_storeRetained m).pushed]
      rfl
  | atomic call op =>
      have hblind : RowBlind (op.exec (B := B) p) := rowBlind_exec hok.2 hwaits
      refine ⟨hblind.nextId w, fun topic tx nextId' => ?_⟩
      show (Pc.returning call (op.exec p (pushed w topic tx nextId')).1, _) = _
      rw [hblind.pushed]
      rfl

/-- The thread is in a subscribe that has pushed its row. -/
def Pc.replaying : Pc → Bool
  | .replay .. => true
  | _ => false

/-- `w` is the shared client as if a subscribe that has pushed its row and not
replayed yet had not happened. -/
inductive Behind (p : Profile) (cfg : Config B) (w : MockWorld B) : Prop
  | level : (∀ t, (cfg.threads t).replaying = false) → cfg.world = w → Behind p cfg w
  | row {t call topic tx iter nextId'} : cfg.threads t = .replay call topic tx iter w.nextId →
      p.addU32 w.nextId 1 = some nextId' → cfg.world = pushed w topic tx nextId' → Behind p cfg w

section

variable {cfg cfg' : Config B} {t : ThreadId} {move : Move} {w : MockWorld B}

theorem Config.Good.holder_of_replaying (hg : cfg.Good) (h : (cfg.threads t).replaying = true) :
    cfg.holder = some t := by
  have hok := hg.threads t
  cases hpc : cfg.threads t with
  | replay =>
      rw [hpc] at hok
      exact hok.2.1
  | _ =>
      rw [hpc] at h
      cases h

/-- If the holder of `subscriptions` has pushed no row, nobody has. -/
theorem Behind.world_eq (hg : cfg.Good) (h : Behind p cfg w)
    (hholder : ∀ t, cfg.holder = some t → (cfg.threads t).replaying = false) : cfg.world = w := by
  cases h with
  | level _ hworld => exact hworld
  | @row t _ _ _ _ _ hpc _ _ =>
      have hreplaying : (cfg.threads t).replaying = true := by
        rw [hpc]
        rfl
      rw [hholder t (hg.holder_of_replaying hreplaying)] at hreplaying
      cases hreplaying

/-- If the others have pushed no row and the step has not, nobody has. -/
theorem Advances.level (h : Advances p cfg t move cfg')
    (hothers : ∀ t' ≠ t, (cfg.threads t').replaying = false)
    (hself : ((cfg.threads t).next p cfg.world).1.replaying = false) (hworld : cfg'.world = w) :
    Behind p cfg' w := by
  refine .level (fun t' => ?_) hworld
  rcases Config.threads_cases h.threads t' with ⟨-, hpc⟩ | ⟨hne, hpc⟩
  · rw [hpc]
    exact hself
  · rw [hpc]
    exact hothers t' hne

/-- Only an allocation leads to a replay. -/
theorem Pc.next_replaying {pc : Pc} (hholds : pc.holds = false) :
    (pc.next p w).1.replaying = false := by
  cases pc with
  | allocate | replay => cases hholds
  | store call m =>
      show (Pc.after call _ (storeRetained m w).1).replaying = false
      cases (storeRetained m w).1 <;> rfl
  | lock call topic tx iter =>
      show (Pc.after call _ (lockSubscriptions w).1).replaying = false
      cases (lockSubscriptions w).1 <;> rfl
  | idle | fanOut | atomic | returning => rfl

/-- A section without `subscriptions` stays behind by the same row. -/
theorem Behind.free (hg : cfg.Good) (hb : Behind p cfg w) (h : Advances p cfg t move cfg')
    (hwaits : (cfg.threads t).waits = false) (hholds : (cfg.threads t).holds = false) :
    ((cfg.threads t).next p cfg.world).1 = ((cfg.threads t).next p w).1 ∧
      Behind p cfg' ((cfg.threads t).next p w).2 := by
  obtain ⟨hnextId, hpushed⟩ := next_pushed (p := p) (hg.threads t) hwaits hholds w
  cases hb with
  | level hnobody hworld =>
      rw [← hworld]
      exact ⟨rfl, h.level (fun t' _ => hnobody t') (Pc.next_replaying hholds) h.world⟩
  | @row t' call topic tx iter nextId' hpc hadd hworld =>
      have hne : t' ≠ t := by
        intro heq
        rw [heq] at hpc
        rw [hpc] at hholds
        cases hholds
      have hpc' : cfg'.threads t' =
          .replay call topic tx iter ((cfg.threads t).next p w).2.nextId := by
        rw [h.threads, Function.update_of_ne hne, hnextId]
        exact hpc
      have hadd' : p.addU32 ((cfg.threads t).next p w).2.nextId 1 = some nextId' := by
        rw [hnextId]
        exact hadd
      refine ⟨by rw [hworld, hpushed], .row hpc' hadd' ?_⟩
      rw [h.world, hworld, hpushed]

theorem Config.Good.nobody (hg : cfg.Good) (hfree : cfg.holder = none) (t : ThreadId) :
    (cfg.threads t).replaying = false := by
  cases hreplaying : (cfg.threads t).replaying with
  | false => rfl
  | true =>
      have hheld := hg.holder_of_replaying hreplaying
      rw [hfree] at hheld
      cases hheld

theorem Config.Good.others (hg : cfg.Good) (hheld : cfg.holder = some t) {t' : ThreadId}
    (hne : t' ≠ t) : (cfg.threads t').replaying = false := by
  cases hreplaying : (cfg.threads t').replaying with
  | false => rfl
  | true =>
      have hheld' := hg.holder_of_replaying hreplaying
      rw [hheld] at hheld'
      exact absurd (Option.some_inj.mp hheld').symm hne

theorem Behind.free_world (hg : cfg.Good) (h : Behind p cfg w) (hfree : cfg.holder = none) :
    cfg.world = w := by
  apply h.world_eq hg
  intro t hheld
  rw [hfree] at hheld
  cases hheld

theorem Behind.locks (hg : cfg.Good) (h : Behind p cfg w) : w.Locks := by
  have hw := hg.sound.locks
  cases h with
  | level _ hworld => rwa [hworld] at hw
  | row _ _ hworld =>
      rw [hworld] at hw
      exact ⟨hw.1, hw.2, hw.3⟩

theorem Behind.valid (h : Behind p cfg w) {op : Op} (hvalid : op.Valid cfg.world) :
    op.Valid w := by
  apply hvalid.mono
  cases h with
  | level _ hworld => rw [hworld]
  | row _ _ hworld =>
      rw [hworld]
      exact Nat.le_refl _

/-! ## One section -/

/-- `pc.At op done`: a thread at `pc` is in the call `op`, whose points so far
are `done`. -/
inductive Pc.At : Pc → Op → List Point → Prop
  | store {call m} : m.retain = true → At (.store call m) (.simulateReceive m) []
  | fanOut {call m} : At (.fanOut call m) (.simulateReceive m) (storePoint call m)
  | lock {call topic qos tx iter} :
      At (.lock call topic tx iter) (.subscribe topic qos tx iter) []
  | allocate {call topic qos tx iter} :
      At (.allocate call topic tx iter) (.subscribe topic qos tx iter) []
  | replay {call topic qos tx iter id} :
      At (.replay call topic tx iter id) (.subscribe topic qos tx iter) []
  | atomic {call op} : op.oneSection = true → At (.atomic call op) op []
  | returning {call op out} : At (.returning call out) op (op.points call out)

theorem Pc.At.start (call : CallId) (op : Op) : (Pc.start call op).At op [] := by
  cases op with
  | subscribe => exact .lock
  | simulateReceive m =>
      show (if m.retain then Pc.store call m else Pc.fanOut call m).At _ []
      split
      · next hretain => exact .store hretain
      · next hretain =>
          have hnone : storePoint call m = [] := if_neg hretain
          rw [← hnone]
          exact .fanOut
  | _ => exact .atomic rfl

theorem Pc.At.prefix {pc : Pc} {op : Op} {done : List Point} {call : CallId} (h : pc.At op done)
    (hcall : pc.call = some call) : ∃ out, done <+: op.points call out := by
  cases h with
  | fanOut =>
      cases hcall
      exact ⟨.panicked, List.prefix_append _ _⟩
  | returning =>
      cases hcall
      exact ⟨_, List.prefix_refl _⟩
  | _ => exact ⟨.panicked, List.nil_prefix⟩

/-- From `w` the atomic client follows a section of thread `t` with at most one
point of its call, and the section leads to `cfg'`. -/
def Followed (p : Profile) (clientId : String) (w : MockWorld B) (cfg' : Config B) (t : ThreadId)
    (call : CallId) (op : Op) (done : List Point) : Prop :=
  ∃ more w', (atomicClient B p clientId).Run w more w' ∧ Behind p cfg' w' ∧
    (more.map Point.call).Sublist [call] ∧ (cfg'.threads t).At op (done ++ more)

theorem Followed.silent {call : CallId} {op : Op} {done : List Point} (hb : Behind p cfg' w)
    (hat : (cfg'.threads t).At op done) : Followed p clientId w cfg' t call op done :=
  ⟨[], w, .nil, hb, List.nil_sublist _, by rwa [List.append_nil]⟩

theorem Followed.point {w' : MockWorld B} {op : Op} {done : List Point} (e : Point)
    (hvalid : e.op.Valid w) (hexec : e.op.exec p w = (e.outcome, w')) (hb : Behind p cfg' w')
    (hat : (cfg'.threads t).At op (done ++ [e])) : Followed p clientId w cfg' t e.call op done :=
  ⟨[e], w', .single ⟨hvalid, hexec⟩, hb, List.Sublist.refl _, hat⟩

theorem Advances.self {pc : Pc} (h : Advances p cfg t move cfg') (hpc : cfg.threads t = pc) :
    cfg'.threads t = (pc.next p cfg.world).1 := by
  rw [h.threads, Function.update_self, hpc]

theorem Behind.store (hg : cfg.Good) (hb : Behind p cfg w) (h : Advances p cfg t move cfg')
    {call : CallId} {m : MqttMessage} (hpc : cfg.threads t = .store call m)
    (hretain : m.retain = true) :
    Followed p clientId w cfg' t call (.simulateReceive m) [] := by
  obtain ⟨hnext, hb'⟩ := hb.free hg h (by rw [hpc]; rfl) (by rw [hpc]; rfl)
  rw [hpc] at hnext hb'
  have hstore : storeRetained m w = _ := storeRetained_eq (hb.locks hg) m
  have hpoint : storePoint call m = [⟨call, .store m, .returned .done⟩] := if_pos hretain
  apply Followed.point ⟨call, .store m, .returned .done⟩ trivial _ hb'
  · rw [h.self hpc, hnext, List.nil_append, ← hpoint]
    show (Pc.after call _ (storeRetained m w).1).At _ _
    rw [hstore]
    exact .fanOut
  · show ((storeRetained m w).1.map _, (storeRetained m w).2) = (_, (storeRetained m w).2)
    rw [hstore]
    rfl

theorem Behind.fanOut (hg : cfg.Good) (hb : Behind p cfg w) (h : Advances p cfg t move cfg')
    {call : CallId} {m : MqttMessage} (hpc : cfg.threads t = .fanOut call m) :
    Followed p clientId w cfg' t call (.simulateReceive m) (storePoint call m) := by
  have hfree := h.free (by rw [hpc]; rfl)
  have hworld := hb.free_world hg hfree
  have hb' : Behind p cfg' (Mock.fanOut m w).2 := by
    apply h.level (fun t' _ => hg.nobody hfree t')
    · rw [hpc]
      rfl
    · rw [h.world, hpc, hworld]
      rfl
  apply Followed.point ⟨call, .fanOut m, (Mock.fanOut m w).1.map .received⟩ trivial rfl hb'
  rw [h.self hpc, hworld]
  exact .returning

theorem Behind.lock (hg : cfg.Good) (hb : Behind p cfg w) (h : Advances p cfg t move cfg')
    {call : CallId} {topic : String} {qos : QoS} {tx : ChannelId}
    {iter : IterOrder String MqttMessage} (hpc : cfg.threads t = .lock call topic tx iter)
    (hvalid : (Op.subscribe topic qos tx iter).Valid cfg.world) :
    Followed p clientId w cfg' t call (.subscribe topic qos tx iter) [] := by
  have hfree := h.free (by rw [hpc]; rfl)
  have hworld := hb.free_world hg hfree
  have hself := h.self hpc
  rw [hworld] at hself
  have hb' : Behind p cfg' (lockSubscriptions w).2 := by
    apply h.level (fun t' _ => hg.nobody hfree t')
    · rw [hpc]
      exact Pc.next_replaying rfl
    · rw [h.world, hpc, hworld]
      rfl
  cases hp : w.poisoned with
  | true =>
      have hlock := lockSubscriptions_panicked hp
      rw [hlock] at hb'
      apply Followed.point ⟨call, .whole (.subscribe topic qos tx iter), .panicked⟩
        (hb.valid hvalid) _ hb'
      · rw [hself]
        show (Pc.after call _ (lockSubscriptions w).1).At _ _
        rw [hlock]
        exact .returning
      · show ((subscribe p topic qos tx iter w).1.map _, (subscribe p topic qos tx iter w).2) = _
        unfold subscribe
        rw [Act.bind_panicked hlock]
        rfl
  | false =>
      have hlock := lockSubscriptions_eq hp
      rw [hlock] at hb'
      apply Followed.silent hb'
      rw [hself]
      show (Pc.after call _ (lockSubscriptions w).1).At _ _
      rw [hlock]
      exact .allocate

theorem Behind.allocate (hg : cfg.Good) (hb : Behind p cfg w) (h : Advances p cfg t move cfg')
    {call : CallId} {topic : String} {qos : QoS} {tx : ChannelId}
    {iter : IterOrder String MqttMessage} (hpc : cfg.threads t = .allocate call topic tx iter)
    (hok : (cfg.threads t).Ok cfg t)
    (hvalid : (Op.subscribe topic qos tx iter).Valid cfg.world) :
    Followed p clientId w cfg' t call (.subscribe topic qos tx iter) [] := by
  rw [hpc] at hok
  obtain ⟨-, hheld, hp⟩ := hok
  have hworld : cfg.world = w := by
    apply hb.world_eq hg
    intro t' hheld'
    rw [hheld] at hheld'
    rw [← Option.some_inj.mp hheld', hpc]
    rfl
  rw [hworld] at hp
  have hself := h.self hpc
  have hworld' := h.world
  rw [hpc, hworld] at hworld'
  rw [hworld] at hself
  cases hadd : p.addU32 w.nextId 1 with
  | none =>
      have halloc := allocate_overflow (hb.locks hg) hp hadd topic tx
      have hb' : Behind p cfg' w.poisonSubscribe := by
        apply h.level (fun t' hne => hg.others hheld hne)
        · rw [hpc, hworld]
          show (Pc.after call _ (Mock.allocate p topic tx w).1).replaying = false
          rw [halloc]
          rfl
        · rw [hworld']
          exact congrArg Prod.snd halloc
      apply Followed.point ⟨call, .whole (.subscribe topic qos tx iter), .panicked⟩
        (hb.valid hvalid) _ hb'
      · rw [hself]
        show (Pc.after call _ (Mock.allocate p topic tx w).1).At _ _
        rw [halloc]
        exact .returning
      · show ((subscribe p topic qos tx iter w).1.map _, (subscribe p topic qos tx iter w).2) = _
        unfold subscribe
        rw [Act.bind_returned (lockSubscriptions_eq hp), Act.bind_panicked halloc]
        rfl
  | some nextId' =>
      have halloc := allocate_eq (hb.locks hg) hp hadd topic tx
      have hpc' : cfg'.threads t = .replay call topic tx iter w.nextId := by
        rw [hself]
        show Pc.after call _ (Mock.allocate p topic tx w).1 = _
        rw [halloc]
        rfl
      apply Followed.silent
      · apply Behind.row hpc' hadd
        rw [hworld']
        exact congrArg Prod.snd halloc
      · rw [hpc']
        exact .replay

theorem Behind.replay (hg : cfg.Good) (hb : Behind p cfg w) (h : Advances p cfg t move cfg')
    {call : CallId} {topic : String} {qos : QoS} {tx : ChannelId}
    {iter : IterOrder String MqttMessage} {id : UInt32}
    (hpc : cfg.threads t = .replay call topic tx iter id)
    (hvalid : (Op.subscribe topic qos tx iter).Valid cfg.world) :
    Followed p clientId w cfg' t call (.subscribe topic qos tx iter) [] := by
  have hok := hg.threads t
  rw [hpc] at hok
  obtain ⟨-, hheld, hp⟩ := hok
  cases hb with
  | level hnobody _ =>
      have hreplaying := hnobody t
      rw [hpc] at hreplaying
      cases hreplaying
  | @row t' call' topic' tx' iter' nextId' hpc' hadd hworld =>
      -- it is this thread that has pushed the row
      obtain rfl : t' = t := by
        by_contra hne
        have hreplaying := hg.others hheld hne
        rw [hpc'] at hreplaying
        cases hreplaying
      rw [hpc] at hpc'
      cases hpc'
      have hp : w.poisoned = false := by
        rw [hworld] at hp
        exact hp
      have hlocks := (Behind.row hpc hadd hworld).locks hg
      have hpushed : (pushed w topic tx nextId').Locks := (hlocks.setNextId _).setTable _
      obtain ⟨b, hreplay, -⟩ := replay_spec hpushed topic w.nextId tx iter
      have hself := h.self hpc
      have hworld' := h.world
      rw [hworld] at hself
      rw [hpc, hworld] at hworld'
      have hb' : Behind p cfg' ((pushed w topic tx nextId').setChannels b) := by
        apply h.level (fun t'' hne => hg.others hheld hne)
        · rw [hpc]
          rfl
        · rw [hworld']
          exact congrArg Prod.snd hreplay
      apply Followed.point
        ⟨call, .whole (.subscribe topic qos tx iter), .returned (.subscribed (.ok w.nextId))⟩
        ((Behind.row hpc hadd hworld).valid hvalid) _ hb'
      · rw [hself]
        show (Pc.returning call ((Mock.replay topic w.nextId tx iter _).1.map _)).At _ _
        rw [hreplay]
        exact .returning
      · show ((subscribe p topic qos tx iter w).1.map _, (subscribe p topic qos tx iter w).2) = _
        unfold subscribe
        rw [Act.bind_returned (lockSubscriptions_eq hp),
          Act.bind_returned (allocate_eq hlocks hp hadd topic tx), Act.bind_returned hreplay]
        rfl

theorem Behind.atomic (hg : cfg.Good) (hb : Behind p cfg w) (h : Advances p cfg t move cfg')
    {call : CallId} {op : Op} (hpc : cfg.threads t = .atomic call op)
    (hone : op.oneSection = true) : Followed p clientId w cfg' t call op [] := by
  have hok := hg.threads t
  rw [hpc] at hok
  have hpoints : ∀ out, op.points call out = [⟨call, .whole op, out⟩] := by
    intro out
    cases op with
    | simulateReceive => cases hone
    | _ => rfl
  have hnext : ((cfg.threads t).next p cfg.world).1 = ((cfg.threads t).next p w).1 ∧
      Behind p cfg' ((cfg.threads t).next p w).2 := by
    cases hlocks : op.locksTable with
    | false => exact hb.free hg h (by rw [hpc]; exact hlocks) (by rw [hpc]; rfl)
    | true =>
        have hfree := h.free (by rw [hpc]; exact hlocks)
        rw [← hb.free_world hg hfree]
        refine ⟨rfl, h.level (fun t' _ => hg.nobody hfree t') ?_ h.world⟩
        rw [hpc]
        rfl
  rw [hpc] at hnext
  obtain ⟨hself, hb'⟩ := hnext
  apply Followed.point ⟨call, .whole op, (op.exec p w).1⟩ (hb.valid hok.1) rfl hb'
  rw [h.self hpc, hself, List.nil_append, ← hpoints]
  exact .returning

/-- The atomic client follows every section that does not end its call. -/
theorem Behind.section (hg : cfg.Good) (hb : Behind p cfg w) (h : Advances p cfg t move cfg')
    (hreturning : ∀ out, move ≠ .ret move.call out) {op : Op} {done : List Point}
    (hat : (cfg.threads t).At op done) : Followed p clientId w cfg' t move.call op done := by
  have hok := hg.threads t
  have hmove := h.move
  generalize hpc : cfg.threads t = pc at hat hok hmove
  cases hat with
  | store hretain =>
      cases hmove
      exact hb.store hg h hpc hretain
  | fanOut =>
      cases hmove
      exact hb.fanOut hg h hpc
  | lock =>
      cases hmove
      exact hb.lock hg h hpc hok
  | allocate =>
      cases hmove
      exact hb.allocate hg h hpc (by rwa [hpc]) hok.1
  | replay =>
      cases hmove
      exact hb.replay hg h hpc hok.1
  | atomic hone =>
      cases hmove
      exact hb.atomic hg h hpc hone
  | returning =>
      cases hmove
      exact absurd rfl (hreturning _)

/-! ## Whole runs -/

/-- The points `es`, which lead the atomic client to `w`, explain the history
`ls`, which leads the clones to `cfg`. -/
structure Explains (p : Profile) (ls : List Label) (cfg : Config B) (es : List Point)
    (w : MockWorld B) : Prop where
  behind : Behind p cfg w
  busy : ∀ t call, (cfg.threads t).call = some call →
    ∃ op, .invoke call op ∈ moves ls ∧ (cfg.threads t).At op (ofCall es call)
  ended : ∀ call op, .invoke call op ∈ moves ls → (∃ t, (cfg.threads t).call = some call) ∨
    ∃ out, .ret call out ∈ moves ls ∧ ofCall es call = op.points call out
  invoked : ∀ e ∈ es, ∃ op, .invoke e.call op ∈ moves ls
  order : (es.map Point.call).Sublist (ls.map callBrackets.call)

theorem ofCall_append (es more : List Point) (call : CallId) :
    ofCall (es ++ more) call = ofCall es call ++ ofCall more call := List.filter_append ..

theorem ofCall_self {more : List Point} {call : CallId}
    (h : (more.map Point.call).Sublist [call]) : ofCall more call = more := by
  apply List.filter_eq_self.mpr
  intro e he
  have hmem := h.mem (List.mem_map_of_mem he)
  simpa using hmem

theorem ofCall_other {more : List Point} {call call' : CallId}
    (h : (more.map Point.call).Sublist [call]) (hne : call' ≠ call) : ofCall more call' = [] := by
  apply List.filter_eq_nil_iff.mpr
  intro e he
  have hmem := h.mem (List.mem_map_of_mem he)
  have heq : e.call = call := by simpa using hmem
  simpa [heq] using hne.symm

theorem Explains.new (p : Profile) (clientId : String) :
    Explains p [] (Config.new B clientId) [] (.new B clientId) where
  behind := .level (fun _ => rfl) rfl
  busy t call h := by cases h
  ended call op h := absurd h List.not_mem_nil
  invoked e he := absurd he List.not_mem_nil
  order := List.Sublist.refl _

/-- What a step has to do to its own call: make it, get it further, or end it. -/
inductive Progress (ls : List Label) (move : Move) (es more : List Point) (pc : Pc) : Prop
  | going {op} : .invoke move.call op ∈ moves ls → pc.call = some move.call →
      pc.At op (ofCall es move.call ++ more) → Progress ls move es more pc
  | ended {op out} : .invoke move.call op ∈ moves ls → pc.call = none → more = [] →
      move = .ret move.call out → ofCall es move.call = op.points move.call out →
      Progress ls move es more pc

/-- A step concerns one call only. -/
theorem Explains.step {ls : List Label} {es more : List Point} {w' : MockWorld B} {pc : Pc}
    (h : Explains p ls cfg es w) (hc : Calls (ls ++ [⟨t, move⟩]) cfg')
    (hthreads : cfg'.threads = Function.update cfg.threads t pc)
    (hold : ∀ call, (cfg.threads t).call = some call → call = move.call)
    (hothers : ∀ t' ≠ t, (cfg.threads t').call ≠ some move.call)
    (hb : Behind p cfg' w') (hmore : (more.map Point.call).Sublist [move.call])
    (hself : Progress (ls ++ [⟨t, move⟩]) move es more pc) :
    Explains p (ls ++ [⟨t, move⟩]) cfg' (es ++ more) w' := by
  have hkept : ∀ call ≠ move.call, ofCall (es ++ more) call = ofCall es call := by
    intro call hne
    rw [ofCall_append, ofCall_other hmore hne, List.append_nil]
  have hown : ofCall (es ++ more) move.call = ofCall es move.call ++ more := by
    rw [ofCall_append, ofCall_self hmore]
  refine ⟨hb, ?_, ?_, ?_, ?_⟩
  · intro t' call hcall
    rcases Config.threads_cases hthreads t' with ⟨-, hpc⟩ | ⟨hne, hpc⟩
    · rw [hpc] at hcall ⊢
      cases hself with
      | going hop hin hat =>
          rw [hin] at hcall
          cases hcall
          exact ⟨_, hop, by rwa [hown]⟩
      | ended _ hidle =>
          rw [hidle] at hcall
          cases hcall
    · rw [hpc] at hcall ⊢
      obtain ⟨op, hop, hat⟩ := h.busy t' call hcall
      refine ⟨op, mem_moves_snoc hop, ?_⟩
      rw [hkept call fun heq => hothers t' hne (by rw [hcall, heq])]
      exact hat
  · intro call op hop
    by_cases hcall : call = move.call
    · subst hcall
      cases hself with
      | going _ hin _ =>
          refine .inl ⟨t, ?_⟩
          rw [hthreads, Function.update_self]
          exact hin
      | @ended op' out hop' _ hnone hmove hpoints =>
          have heq : Move.invoke move.call op = .invoke move.call op' :=
            hc.unique hop hop' rfl rfl
          cases heq
          refine .inr ⟨out, ?_, by rw [hown, hnone, List.append_nil, hpoints]⟩
          rw [moves_snoc, ← hmove]
          exact List.mem_append_right _ (List.mem_singleton_self _)
    · rw [hkept call hcall]
      rcases h.ended call op (mem_moves_of_ne hop hcall) with ⟨t', hin⟩ | ⟨out, hout, hpoints⟩
      · have hne : t' ≠ t := by
          intro heq
          rw [heq] at hin
          exact hcall (hold call hin)
        refine .inl ⟨t', ?_⟩
        rw [hthreads, Function.update_of_ne hne]
        exact hin
      · exact .inr ⟨out, mem_moves_snoc hout, hpoints⟩
  · intro e he
    rcases List.mem_append.mp he with he | he
    · obtain ⟨op, hop⟩ := h.invoked e he
      exact ⟨op, mem_moves_snoc hop⟩
    · have hcall : e.call = move.call := by
        simpa using hmore.mem (List.mem_map_of_mem he)
      rw [hcall]
      cases hself with
      | going hop => exact ⟨_, hop⟩
      | ended hop => exact ⟨_, hop⟩
  · rw [List.map_append, List.map_append]
    exact h.order.append hmore

theorem Pc.start_replaying (call : CallId) (op : Op) : (Pc.start call op).replaying = false := by
  cases op with
  | simulateReceive m =>
      show (if m.retain then Pc.store call m else Pc.fanOut call m).replaying = false
      split <;> rfl
  | _ => rfl

/-- A call is made. -/
theorem Explains.invoke {ls : List Label} {es : List Point} (hc : Calls ls cfg)
    (h : Explains p ls cfg es w) (hidle : cfg.threads t = .idle) (op : Op)
    (hc' : Calls (ls ++ [⟨t, .invoke cfg.nextCall op⟩]) (cfg.invoke t op)) :
    Explains p (ls ++ [⟨t, .invoke cfg.nextCall op⟩]) (cfg.invoke t op) es w := by
  have hnew : ofCall es cfg.nextCall = [] := by
    apply List.filter_eq_nil_iff.mpr
    intro e he
    obtain ⟨op', hop'⟩ := h.invoked e he
    obtain ⟨l, hl, hmove⟩ := List.mem_map.mp hop'
    have hpast : e.call < cfg.nextCall := by
      have hpast := hc.past l hl
      rwa [hmove] at hpast
    simpa using Nat.ne_of_lt hpast
  have hb : Behind p (cfg.invoke t op) w := by
    cases h.behind with
    | level hnobody hworld =>
        refine .level (fun t' => ?_) hworld
        have hthreads : (cfg.invoke t op).threads =
            Function.update cfg.threads t (.start cfg.nextCall op) := rfl
        rcases Config.threads_cases hthreads t' with ⟨-, hpc⟩ | ⟨-, hpc⟩
        · rw [hpc]
          exact Pc.start_replaying _ _
        · rw [hpc]
          exact hnobody t'
    | @row t' _ _ _ _ _ hpc hadd hworld =>
        have hne : t' ≠ t := by
          intro heq
          rw [heq, hidle] at hpc
          cases hpc
        have hpc' : (cfg.invoke t op).threads t' = cfg.threads t' := Function.update_of_ne hne _ _
        exact .row (hpc'.trans hpc) hadd hworld
  rw [← List.append_nil es]
  refine h.step hc' rfl ?_ ?_ hb (List.nil_sublist _) ?_
  · intro call hcall
    rw [hidle] at hcall
    cases hcall
  · intro t' _ hcall
    exact absurd (hc.fresh t' _ hcall) (Nat.lt_irrefl _)
  · have hinvoke : Move.invoke cfg.nextCall op ∈ moves (ls ++ [⟨t, .invoke cfg.nextCall op⟩]) := by
      rw [moves_snoc]
      exact List.mem_append_right _ (List.mem_singleton_self _)
    refine .going hinvoke (Pc.start_call _ _).1 ?_
    show (Pc.start cfg.nextCall op).At op (ofCall es cfg.nextCall ++ [])
    rw [hnew]
    exact .start _ _

/-- The next section of a call. -/
theorem Explains.advance {ls : List Label} {es : List Point} (hg : cfg.Good) (hc : Calls ls cfg)
    (h : Explains p ls cfg es w) (hadvance : Advances p cfg t move cfg')
    (hc' : Calls (ls ++ [⟨t, move⟩]) cfg') :
    ∃ more w', (atomicClient B p clientId).Run w more w' ∧
      Explains p (ls ++ [⟨t, move⟩]) cfg' (es ++ more) w' := by
  obtain ⟨hin, -⟩ := Pc.move_call hadvance.move
  obtain ⟨op, hop, hat⟩ := h.busy t _ hin
  have hold : ∀ call, (cfg.threads t).call = some call → call = move.call := by
    intro call hcall
    rw [hin] at hcall
    exact (Option.some_inj.mp hcall).symm
  have hothers : ∀ t' ≠ t, (cfg.threads t').call ≠ some move.call := by
    intro t' hne hcall
    exact hne (hc.distinct t' t _ hcall hin)
  by_cases hret : ∃ out, move = .ret move.call out
  · obtain ⟨out, hret⟩ := hret
    have hmove := hadvance.move
    rw [hret] at hmove
    have hpc := Pc.ends_iff.mp hmove
    obtain ⟨-, hb⟩ := h.behind.free hg hadvance (by rw [hpc]; rfl) (by rw [hpc]; rfl)
    rw [hpc] at hb hat
    refine ⟨[], w, .nil, ?_⟩
    refine h.step hc' hadvance.threads hold hothers hb (List.nil_sublist _) ?_
    rw [hpc]
    generalize hdone : ofCall es move.call = done at hat
    cases hat with
    | returning => exact .ended (mem_moves_snoc hop) rfl rfl hret hdone
  · have hreturning : ∀ out, move ≠ .ret move.call out := fun out heq => hret ⟨out, heq⟩
    have hfollowed : Followed p clientId w cfg' t move.call op (ofCall es move.call) :=
      h.behind.section hg hadvance hreturning hat
    obtain ⟨more, w', hrun, hb, hmore, hat'⟩ := hfollowed
    refine ⟨more, w', hrun, h.step hc' hadvance.threads hold hothers hb hmore ?_⟩
    rw [hadvance.self rfl] at hat'
    refine .going (mem_moves_snoc hop) (Pc.next_call hin fun out heq => ?_) hat'
    have hmove := hadvance.move
    rw [Pc.ends_iff.mpr heq] at hmove
    exact hreturning out (Option.some_inj.mp hmove).symm

/-- The atomic client follows the clones. -/
theorem clones_simulation (B : Broadcast MqttMessage) (p : Profile) (clientId : String) :
    Simulation (clones B p clientId) (atomicClient B p clientId) (Explains p) where
  init := by
    rintro cfg rfl
    exact ⟨.new B clientId, rfl, .new p clientId⟩
  step := by
    intro ls cfg l cfg' es w htrace _ h hstep
    have hg := clones_good ⟨ls, htrace⟩
    have hc := clones_calls htrace
    have hc' := clones_calls (htrace.snoc hstep)
    rcases hstep with ⟨op, hmove, hidle, -, rfl⟩ | hadvance
    · obtain ⟨t, move⟩ := l
      obtain rfl : move = .invoke cfg.nextCall op := hmove
      refine ⟨[], w, .nil, ?_⟩
      rw [List.append_nil]
      exact h.invoke hc hidle op hc'
    · exact h.advance hg hc (advance_inv hadvance) hc'

theorem Calls.wellNested {ls : List Label} (hc : Calls ls cfg) : callBrackets.WellNested ls := by
  refine hc.ordered.imp ?_
  intro l l' hlt hcall
  have hrank := hlt hcall
  have hle := l'.move.rank_le
  refine ⟨fun hends => ?_, fun hbegins => ?_⟩
  · have hends : l.move.rank = 7 := hends
    omega
  · have hbegins : l'.move.rank = 0 := hbegins
    omega

theorem Explains.linearizes {ls : List Label} {es : List Point} (hc : Calls ls cfg)
    (h : Explains p ls cfg es w) : Linearizes ls es where
  completed call op out hop hout := by
    rcases h.ended call op hop with ⟨t, hin⟩ | ⟨out', hout', hpoints⟩
    · refine absurd hout (hc.not_done t hin ?_)
      show (cfg.threads t).rank ≤ 7
      cases cfg.threads t <;> simp [Pc.rank]
    · have heq : Move.ret call out = .ret call out' := hc.unique hout hout' rfl rfl
      cases heq
      exact hpoints
  pending call op hop := by
    rcases h.ended call op hop with ⟨t, hin⟩ | ⟨out, -, hpoints⟩
    · obtain ⟨op', hop', hat⟩ := h.busy t call hin
      have heq : Move.invoke call op = .invoke call op' := hc.unique hop hop' rfl rfl
      cases heq
      exact hat.prefix hin
    · rw [hpoints]
      exact ⟨out, List.prefix_refl _⟩
  invoked := h.invoked
  realTime := hc.wellNested.realTime h.order

end

/-- Whatever the threads do, one client that runs one operation at a time could
have done the same: every call got the answer of its points, in an order that
keeps the order in which calls returned and were made. -/
theorem clones_linearizable {ls : List Label} {cfg : Config B}
    (h : (clones B p clientId).Trace ls cfg) :
    ∃ es w, (atomicClient B p clientId).Trace es w ∧ Linearizes ls es ∧
      (cfg.holder = none → w = cfg.world) := by
  obtain ⟨es, w, htrace, hexplains⟩ := (clones_simulation B p clientId).trace h
  refine ⟨es, w, htrace, hexplains.linearizes (clones_calls h), fun hfree => ?_⟩
  exact (hexplains.behind.free_world (clones_good ⟨ls, h⟩) hfree).symm

/-- A subscribe between the two sections of a receive is a point between its two
points. -/
theorem clones_linearizable_between :
    ∃ es, (atomicClient (.log MqttMessage) .debug "mock-client").Trace es betweenRun.2.world ∧
      Linearizes betweenRun.1 es := by
  obtain ⟨es, w, htrace, hlinear, hworld⟩ := clones_linearizable betweenRun_trace
  have hfree : betweenRun.2.holder = none := rfl
  rw [hworld hfree] at htrace
  exact ⟨es, htrace, hlinear⟩

end StingerMqtt

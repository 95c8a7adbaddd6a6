import StingerMqtt.Mock.Client

/-!
# What the sections do

One lemma for each section of the mock client: on which mutexes it panics, and
otherwise what it answers and how it changes the table, the counter, the
retained store and the channels. The two loops are the two ways of sending a
list of messages that `Kit.Broadcast` develops, so what they put on the
channels is known from there.
-/

namespace StingerMqtt

open Kit

namespace MockWorld

variable {B : Broadcast MqttMessage} (w : MockWorld B)

/-! ## Fields after an update -/

@[simp] theorem table_setRetained (m) : (w.setRetained m).table = w.table := rfl
@[simp] theorem retained_setRetained (m) : (w.setRetained m).retained = m := rfl
@[simp] theorem nextId_setRetained (m) : (w.setRetained m).nextId = w.nextId := rfl
@[simp] theorem poisoned_setRetained (m) : (w.setRetained m).poisoned = w.poisoned := rfl
@[simp] theorem channels_setRetained (m) : (w.setRetained m).channels = w.channels := rfl

@[simp] theorem table_setTable (rows) : (w.setTable rows).table = rows := rfl
@[simp] theorem retained_setTable (rows) : (w.setTable rows).retained = w.retained := rfl
@[simp] theorem nextId_setTable (rows) : (w.setTable rows).nextId = w.nextId := rfl
@[simp] theorem poisoned_setTable (rows) : (w.setTable rows).poisoned = w.poisoned := rfl
@[simp] theorem channels_setTable (rows) : (w.setTable rows).channels = w.channels := rfl

@[simp] theorem table_setNextId (id) : (w.setNextId id).table = w.table := rfl
@[simp] theorem retained_setNextId (id) : (w.setNextId id).retained = w.retained := rfl
@[simp] theorem nextId_setNextId (id) : (w.setNextId id).nextId = id := rfl
@[simp] theorem poisoned_setNextId (id) : (w.setNextId id).poisoned = w.poisoned := rfl
@[simp] theorem channels_setNextId (id) : (w.setNextId id).channels = w.channels := rfl

@[simp] theorem table_setPublished (ms) : (w.setPublished ms).table = w.table := rfl
@[simp] theorem retained_setPublished (ms) : (w.setPublished ms).retained = w.retained := rfl
@[simp] theorem nextId_setPublished (ms) : (w.setPublished ms).nextId = w.nextId := rfl
@[simp] theorem poisoned_setPublished (ms) : (w.setPublished ms).poisoned = w.poisoned := rfl
@[simp] theorem channels_setPublished (ms) : (w.setPublished ms).channels = w.channels := rfl

@[simp] theorem table_setChannels (b) : (w.setChannels b).table = w.table := rfl
@[simp] theorem retained_setChannels (b) : (w.setChannels b).retained = w.retained := rfl
@[simp] theorem nextId_setChannels (b) : (w.setChannels b).nextId = w.nextId := rfl
@[simp] theorem poisoned_setChannels (b) : (w.setChannels b).poisoned = w.poisoned := rfl
@[simp] theorem channels_setChannels (b) : (w.setChannels b).channels = b := rfl

@[simp] theorem table_poisonSubscribe : w.poisonSubscribe.table = w.table := rfl
@[simp] theorem retained_poisonSubscribe : w.poisonSubscribe.retained = w.retained := rfl
@[simp] theorem nextId_poisonSubscribe : w.poisonSubscribe.nextId = w.nextId := rfl
@[simp] theorem poisoned_poisonSubscribe : w.poisonSubscribe.poisoned = true := rfl
@[simp] theorem channels_poisonSubscribe : w.poisonSubscribe.channels = w.channels := rfl

variable (B) in
@[simp] theorem table_new (clientId : String) : (new B clientId).table = [] := rfl
variable (B) in
@[simp] theorem retained_new (clientId : String) : (new B clientId).retained = ∅ := rfl
variable (B) in
@[simp] theorem nextId_new (clientId : String) : (new B clientId).nextId = 1 := rfl
variable (B) in
@[simp] theorem poisoned_new (clientId : String) : (new B clientId).poisoned = false := rfl

/-- The mutexes agree on whether a subscribe has panicked, and the other two
were never poisoned. -/
structure Locks : Prop where
  published : w.client.publishedMessages.poisoned = false
  retained : w.client.retainedMessages.poisoned = false
  nextSubId : w.client.nextSubId.poisoned = w.poisoned

variable {w}

theorem Locks.setRetained (h : w.Locks) (m) : (w.setRetained m).Locks := ⟨h.1, h.2, h.3⟩
theorem Locks.setTable (h : w.Locks) (rows) : (w.setTable rows).Locks := ⟨h.1, h.2, h.3⟩
theorem Locks.setNextId (h : w.Locks) (id) : (w.setNextId id).Locks := ⟨h.1, h.2, h.3⟩
theorem Locks.setPublished (h : w.Locks) (ms) : (w.setPublished ms).Locks := ⟨h.1, h.2, h.3⟩
theorem Locks.setChannels (h : w.Locks) (b) : (w.setChannels b).Locks := ⟨h.1, h.2, h.3⟩
theorem Locks.poisonSubscribe (h : w.Locks) : w.poisonSubscribe.Locks := ⟨h.1, h.2, rfl⟩

theorem Locks.new (clientId : String) : (new B clientId).Locks := ⟨rfl, rfl, rfl⟩

end MockWorld

namespace Mock

open MockWorld

variable {B : Broadcast MqttMessage} {w : MockWorld B}

/-! ## The two loops -/

/-- The rows whose filter matches the topic of a message. -/
def addressed (rows : List Subscription) (m : MqttMessage) : List Subscription :=
  rows.filter fun s => topicMatches s.topic m.topic

/-- The copy of a message for one row. -/
def copyFor (m : MqttMessage) (s : Subscription) : ChannelId × MqttMessage :=
  (s.tx, m.tagged s.subId)

@[simp] theorem addressed_tagged (rows : List Subscription) (m : MqttMessage) (id : UInt32) :
    addressed rows (m.tagged id) = addressed rows m := rfl

@[simp] theorem copyFor_tagged (m : MqttMessage) (id : UInt32) :
    copyFor (m.tagged id) = copyFor m := rfl

/-- The answer of a fan-out that addresses `count` rows. -/
def fanOutAnswer (count : Nat) : Except B.SendError Unit → Except Mqtt5PubSubError Nat
  | .ok () => .ok count
  | .error e =>
    .error (.other ("Failed to send message to subscription: " ++ B.sendErrorText e))

/-- The fan-out loop sends the copies for the addressed rows up to the first
failure, and answers how many there are when none fails. -/
theorem fanOutLoop_eq (rows : List Subscription) (m : MqttMessage) (sentCount : Nat) (b : Bank B) :
    fanOutLoop rows m sentCount b =
      (fanOutAnswer (sentCount + (addressed rows m).length)
          (b.sendUntilError ((addressed rows m).map (copyFor m))).1,
        (b.sendUntilError ((addressed rows m).map (copyFor m))).2) := by
  induction rows generalizing m sentCount b with
  | nil => rfl
  | cons row rows ih =>
      obtain ⟨topic, subId, tx⟩ := row
      by_cases hmatch : topicMatches topic m.topic = true
      · have hrows : addressed (⟨topic, subId, tx⟩ :: rows) m =
            ⟨topic, subId, tx⟩ :: addressed rows m := by
          simp [addressed, hmatch]
        rw [hrows, List.map_cons]
        by_cases hlive : b.Live tx
        · have hok : b.send tx (m.tagged subId) =
              (.ok (B.receiverCount (b.get tx)), (b.send tx (m.tagged subId)).2) :=
            Prod.ext (Bank.send_live _ hlive) rfl
          -- the loop goes on with the mutated message, which addresses the same rows
          have hloop : fanOutLoop (⟨topic, subId, tx⟩ :: rows) m sentCount b =
              fanOutLoop rows (m.tagged subId) (sentCount + 1) (b.send tx (m.tagged subId)).2 := by
            unfold MqttMessage.tagged at hok ⊢
            rw [fanOutLoop, if_pos hmatch]
            dsimp only
            rw [hok]
          have hjobs : b.sendUntilError (copyFor m ⟨topic, subId, tx⟩ ::
                (addressed rows m).map (copyFor m)) =
              (b.send tx (m.tagged subId)).2.sendUntilError
                ((addressed rows m).map (copyFor m)) :=
            Bank.sendUntilError_cons_live _ _ hlive
          rw [hloop, ih, hjobs, addressed_tagged, copyFor_tagged, List.length_cons,
            Nat.add_right_comm, Nat.add_assoc]
        -- the loop stops here: the sends to `rows` are not made
        · obtain ⟨e, he⟩ := Bank.send_dead (m.tagged subId) hlive
          have hjobs : b.sendUntilError (copyFor m ⟨topic, subId, tx⟩ ::
                (addressed rows m).map (copyFor m)) = (.error e, b) :=
            Bank.sendUntilError_cons_dead _ he
          unfold MqttMessage.tagged at he
          rw [hjobs, fanOutLoop, if_pos hmatch]
          simp only [he]
          rfl
      · have hrows : addressed (⟨topic, subId, tx⟩ :: rows) m = addressed rows m := by
          simp [addressed, hmatch]
        rw [fanOutLoop, if_neg hmatch, hrows]
        exact ih m sentCount b

/-- The stored messages a subscribe with filter `topic` replays, in the order
in which the store is iterated. -/
def replayed (topic : String) (iter : IterOrder String MqttMessage)
    (store : HashMap String MqttMessage) : List MqttMessage :=
  ((iter.order store.entries).filter fun e => topicMatches topic e.1).map Sigma.snd

/-- The replay loop sends a copy of every stored message that matches. -/
theorem replayLoop_eq (topic : String) (subscriptionId : UInt32) (tx : ChannelId)
    (entries : List (HashMap.Entry String MqttMessage)) (b : Bank B) :
    replayLoop topic subscriptionId tx entries b =
      b.sendEach (((entries.filter fun e => topicMatches topic e.1).map Sigma.snd).map
        fun m => (tx, m.tagged subscriptionId)) := by
  induction entries generalizing b with
  | nil => rfl
  | cons e entries ih =>
      obtain ⟨retainedTopic, retainedMsg⟩ := e
      unfold replayLoop
      by_cases hmatch : topicMatches topic retainedTopic = true
      · simp only [hmatch, if_true, List.filter_cons, List.map_cons]
        exact ih _
      · simp only [hmatch, List.filter_cons]
        exact ih b

/-- The stored messages that match, each once. -/
theorem mem_replayed {topic : String} {iter : IterOrder String MqttMessage}
    {store : HashMap String MqttMessage} {m : MqttMessage} :
    m ∈ replayed topic iter store ↔
      ∃ key, store.lookup key = some m ∧ topicMatches topic key = true := by
  unfold replayed
  simp only [List.mem_map, List.mem_filter, (iter.perm _).mem_iff]
  constructor
  · rintro ⟨⟨key, m'⟩, ⟨hmem, hmatch⟩, rfl⟩
    exact ⟨key, AList.mem_lookup_iff.mpr hmem, hmatch⟩
  · rintro ⟨key, hlookup, hmatch⟩
    exact ⟨⟨key, m⟩, ⟨AList.mem_lookup_iff.mp hlookup, hmatch⟩, rfl⟩

/-! ## The sections of `simulate_receive` -/

theorem storeRetained_eq (hw : w.Locks) (m : MqttMessage) :
    storeRetained m w = (.returned (), w.setRetained (w.retained.insert m.topic m)) := by
  unfold storeRetained
  rw [Mutex.lock_of_healthy hw.retained]
  rfl

/-- The addressed rows a fan-out gets to: those before the first dead channel. -/
def reached (w : MockWorld B) (m : MqttMessage) : List Subscription :=
  (addressed w.table m).takeWhile fun s => w.channels.Live s.tx

private theorem mem_takeWhile_filter {α : Type} {q r : α → Bool} {l : List α} {a : α} :
    a ∈ (l.filter q).takeWhile r ↔ ∃ before after, l = before ++ a :: after ∧
      q a = true ∧ r a = true ∧ ∀ d ∈ before, q d = true → r d = true := by
  constructor
  · intro h
    induction l with
    | nil => exact absurd h List.not_mem_nil
    | cons b l ih =>
        rw [List.filter_cons] at h
        split at h
        · next hq =>
            rw [List.takeWhile_cons] at h
            split at h
            · next hr =>
                rcases List.mem_cons.mp h with rfl | h
                · exact ⟨[], l, rfl, hq, hr, by simp⟩
                · obtain ⟨before, after, rfl, hqa, hra, hbefore⟩ := ih h
                  exact ⟨b :: before, after, rfl, hqa, hra, by simpa [hr] using hbefore⟩
            · exact absurd h List.not_mem_nil
        · next hq =>
            obtain ⟨before, after, rfl, hqa, hra, hbefore⟩ := ih h
            exact ⟨b :: before, after, rfl, hqa, hra, by simpa [hq] using hbefore⟩
  · rintro ⟨before, after, rfl, hqa, hra, hbefore⟩
    -- `takeWhile` gets past everything in front of `a`
    have hlive : ∀ d ∈ before.filter q, r d = true := by
      intro d hd
      obtain ⟨hmem, hq⟩ := List.mem_filter.mp hd
      exact hbefore d hmem hq
    rw [List.filter_append, List.takeWhile_append_of_pos hlive, List.filter_cons_of_pos hqa,
      List.takeWhile_cons_of_pos hra]
    exact List.mem_append_right _ List.mem_cons_self

/-- A fan-out gets to a matching live row that no matching dead row precedes. -/
theorem mem_reached {m : MqttMessage} {s : Subscription} :
    s ∈ reached w m ↔ ∃ before after, w.table = before ++ s :: after ∧
      topicMatches s.topic m.topic = true ∧ w.channels.Live s.tx ∧
      ∀ d ∈ before, topicMatches d.topic m.topic = true → w.channels.Live d.tx := by
  unfold reached addressed
  rw [mem_takeWhile_filter]
  simp only [decide_eq_true_eq]

theorem fanOut_panicked (m : MqttMessage) (h : w.poisoned = true) :
    fanOut m w = (.panicked, w) := by
  unfold fanOut
  rw [Mutex.lock_of_poisoned h]

/-- A fan-out sends one copy to each row it gets to, and succeeds exactly when
it gets to every addressed row. -/
theorem fanOut_spec (m : MqttMessage) (h : w.poisoned = false) :
    ∃ result b, fanOut m w = (.returned result, w.setChannels b) ∧
      w.channels.Took ((reached w m).map (copyFor m)) b ∧
      (result = .ok (addressed w.table m).length ↔
        ∀ s ∈ addressed w.table m, w.channels.Live s.tx) := by
  let jobs := (addressed w.table m).map (copyFor m)
  refine ⟨fanOutAnswer (addressed w.table m).length (w.channels.sendUntilError jobs).1,
    (w.channels.sendUntilError jobs).2, ?_, ?_, ?_⟩
  · unfold fanOut
    rw [Mutex.lock_of_healthy h]
    show (Outcome.returned (fanOutLoop w.table m 0 w.channels).1,
      w.setChannels (fanOutLoop w.table m 0 w.channels).2) = _
    rw [fanOutLoop_eq, Nat.zero_add]
  · have htook := Bank.sendUntilError_took w.channels jobs
    rw [List.takeWhile_map] at htook
    exact htook
  · have hok := Bank.sendUntilError_ok_iff w.channels jobs
    have hall : (∀ job ∈ jobs, w.channels.Live job.1) ↔
        ∀ s ∈ addressed w.table m, w.channels.Live s.tx := by
      simp [jobs, copyFor]
    rw [← hall, ← hok]
    generalize (w.channels.sendUntilError jobs).1 = answer
    cases answer with
    | ok => simp [fanOutAnswer]
    | error => simp [fanOutAnswer]

/-! ## The sections of `subscribe` -/

theorem lockSubscriptions_panicked (h : w.poisoned = true) :
    lockSubscriptions w = (.panicked, w) := by
  unfold lockSubscriptions
  rw [Mutex.lock_of_poisoned h]

theorem lockSubscriptions_eq (h : w.poisoned = false) :
    lockSubscriptions w = (.returned (), w) := by
  unfold lockSubscriptions
  rw [Mutex.lock_of_healthy h]

/-- The world after a row was pushed. -/
def pushed (w : MockWorld B) (topic : String) (tx : ChannelId) (nextId' : UInt32) : MockWorld B :=
  (w.setNextId nextId').setTable (w.table ++ [⟨topic, w.nextId, tx⟩])

theorem allocate_eq (hw : w.Locks) (h : w.poisoned = false) {p : Profile} {nextId' : UInt32}
    (hadd : p.addU32 w.nextId 1 = some nextId') (topic : String) (tx : ChannelId) :
    allocate p topic tx w = (.returned w.nextId, pushed w topic tx nextId') := by
  have hadd : p.addU32 w.client.nextSubId.data 1 = some nextId' := hadd
  unfold allocate
  rw [Mutex.lock_of_healthy (hw.nextSubId.trans h)]
  simp only [hadd]
  rfl

/-- The counter overflowed: the call panics with both mutexes held. -/
theorem allocate_overflow (hw : w.Locks) (h : w.poisoned = false) {p : Profile}
    (hadd : p.addU32 w.nextId 1 = none) (topic : String) (tx : ChannelId) :
    allocate p topic tx w = (.panicked, w.poisonSubscribe) := by
  have hadd : p.addU32 w.client.nextSubId.data 1 = none := hadd
  unfold allocate
  rw [Mutex.lock_of_healthy (hw.nextSubId.trans h)]
  simp only [hadd]

/-- A replay sends, if the channel is live, one copy of every stored message
that matches. -/
theorem replay_spec (hw : w.Locks) (topic : String) (id : UInt32) (tx : ChannelId)
    (iter : IterOrder String MqttMessage) :
    ∃ b, replay topic id tx iter w = (.returned (), w.setChannels b) ∧
      w.channels.Took
        (if w.channels.Live tx then
          (replayed topic iter w.retained).map fun m => (tx, m.tagged id)
        else []) b := by
  let jobs := (replayed topic iter w.retained).map fun m => (tx, m.tagged id)
  refine ⟨w.channels.sendEach jobs, ?_, ?_⟩
  · unfold replay
    rw [Mutex.lock_of_healthy hw.retained]
    show (Outcome.returned (), w.setChannels (replayLoop topic id tx
      (iter.order w.retained.entries) w.channels)) = _
    rw [replayLoop_eq]
    rfl
  · have htook := Bank.sendEach_took w.channels jobs
    by_cases hlive : w.channels.Live tx
    · rw [if_pos hlive]
      have hall : (jobs.filter fun job => w.channels.Live job.1) = jobs := by
        simp [jobs, List.filter_map, Function.comp_def, hlive]
      rwa [hall] at htook
    · rw [if_neg hlive]
      have hnone : (jobs.filter fun job => w.channels.Live job.1) = [] := by
        simp [jobs, List.filter_map, Function.comp_def, hlive]
      rwa [hnone] at htook

/-! ## The other operations -/

theorem unsubscribe_panicked (topic : String) (h : w.poisoned = true) :
    unsubscribe topic w = (.panicked, w) := by
  unfold unsubscribe
  rw [Mutex.lock_of_poisoned h]

theorem unsubscribe_eq (topic : String) (h : w.poisoned = false) :
    unsubscribe topic w =
      (.returned (.ok ()), w.setTable (w.table.filter fun s => s.topic ≠ topic)) := by
  unfold unsubscribe
  rw [Mutex.lock_of_healthy h]
  rfl

theorem recordPublished_eq (hw : w.Locks) (success : MqttPublishSuccess) (m : MqttMessage) :
    recordPublished success m w =
      (.returned (.ok success), w.setPublished (w.client.publishedMessages.data ++ [m])) := by
  unfold recordPublished
  rw [Mutex.lock_of_healthy hw.published]

theorem clearPublishedMessages_eq (hw : w.Locks) :
    clearPublishedMessages w = (.returned (), w.setPublished []) := by
  unfold clearPublishedMessages
  rw [Mutex.lock_of_healthy hw.published]

theorem clearRetainedMessages_eq (hw : w.Locks) :
    clearRetainedMessages w = (.returned (), w.setRetained ∅) := by
  unfold clearRetainedMessages
  rw [Mutex.lock_of_healthy hw.retained]

theorem retainedMessages_eq (hw : w.Locks) :
    retainedMessages w = (.returned w.retained, w) := by
  unfold retainedMessages
  rw [Mutex.lock_of_healthy hw.retained]
  rfl

end Mock

end StingerMqtt

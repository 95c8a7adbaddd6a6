import Mathlib.Logic.Function.Basic
import Mathlib.Data.List.Basic

/-!
# Broadcast channels

`Broadcast Msg` is what a program may rely on of a multi-producer,
multi-consumer broadcast channel: the operations, the observations they are
documented in terms of, and the documented laws. `Bank` is the set of the
channels that exist; a sender is the number of its channel, so clones of a
sender are the same number, and a channel counts as closed once all of them have
been dropped. Two ways to send a list of messages are developed: `sendEach`
carries on after a failed send, `sendUntilError` stops there.
-/

namespace Kit

/-- A broadcast channel. `sent`, `position` and `closed` are observations no
program reads: the messages accepted so far, oldest first, how many of them a
receiver has got past, and whether no sender is left. Senders are not counted:
whoever drops the last one says so by `dropSenders`. -/
structure Broadcast (Msg : Type) where
  Channel : Type
  Receiver : Type
  SendError : Type
  RecvError : Type
  /-- A new channel of at least the given capacity, with its first receiver. -/
  channel : Nat → Channel × Receiver
  send : Channel → Msg → Except SendError Nat × Channel
  /-- The next message for a receiver; `none` when it would have to wait. -/
  recv : Channel → Receiver → Option (Except RecvError Msg) × Receiver
  addReceiver : Channel → Channel
  dropReceiver : Channel → Channel
  dropSenders : Channel → Channel
  sendErrorText : SendError → String
  recvErrorText : RecvError → String
  receiverCount : Channel → Nat
  capacity : Channel → Nat
  sent : Channel → List Msg
  position : Receiver → Nat
  closed : Channel → Bool
  sent_channel : ∀ n, sent (channel n).1 = []
  receiverCount_channel : ∀ n, receiverCount (channel n).1 = 1
  capacity_channel : ∀ n, n ≤ capacity (channel n).1
  position_channel : ∀ n, position (channel n).2 = 0
  closed_channel : ∀ n, closed (channel n).1 = false
  send_live : ∀ ch m, 0 < receiverCount ch →
    (send ch m).1 = .ok (receiverCount ch) ∧ sent (send ch m).2 = sent ch ++ [m]
  send_dead : ∀ ch m, receiverCount ch = 0 → ∃ e, send ch m = (.error e, ch)
  receiverCount_send : ∀ ch m, receiverCount (send ch m).2 = receiverCount ch
  capacity_send : ∀ ch m, capacity (send ch m).2 = capacity ch
  closed_send : ∀ ch m, closed (send ch m).2 = closed ch
  sent_addReceiver : ∀ ch, sent (addReceiver ch) = sent ch
  receiverCount_addReceiver : ∀ ch, receiverCount (addReceiver ch) = receiverCount ch + 1
  sent_dropReceiver : ∀ ch, sent (dropReceiver ch) = sent ch
  receiverCount_dropReceiver : ∀ ch, receiverCount (dropReceiver ch) = receiverCount ch - 1
  sent_dropSenders : ∀ ch, sent (dropSenders ch) = sent ch
  receiverCount_dropSenders : ∀ ch, receiverCount (dropSenders ch) = receiverCount ch
  capacity_dropSenders : ∀ ch, capacity (dropSenders ch) = capacity ch
  closed_dropSenders : ∀ ch, closed (dropSenders ch) = true
  /-- A receiver that has got past everything sent has to wait while there is a
  sender. -/
  recv_wait : ∀ ch rx, position rx = (sent ch).length → closed ch = false →
    recv ch rx = (none, rx)
  /-- Without one it is told so. -/
  recv_closed : ∀ ch rx, position rx = (sent ch).length → closed ch = true →
    ∃ e, recv ch rx = (some (.error e), rx)
  /-- A receiver that has not fallen behind by more than the capacity gets the
  oldest message it has not got past. -/
  recv_next : ∀ ch rx (h : position rx < (sent ch).length),
    (sent ch).length ≤ position rx + capacity ch →
      (recv ch rx).1 = some (.ok (sent ch)[position rx]) ∧
      position (recv ch rx).2 = position rx + 1

namespace Broadcast

variable {Msg : Type} (B : Broadcast Msg)

/-- Receive at most `n` messages, stopping where none is left. -/
def drain : Nat → B.Channel → B.Receiver → List Msg
  | 0, _, _ => []
  | n + 1, ch, rx =>
    match B.recv ch rx with
    | (some (.ok m), rx') => m :: drain n ch rx'
    | _ => []

/-- A receiver within the capacity gets all it has not got past, in order. -/
theorem drain_eq (n : Nat) (ch : B.Channel) (rx : B.Receiver)
    (hpos : B.position rx ≤ (B.sent ch).length)
    (hcap : (B.sent ch).length ≤ B.position rx + B.capacity ch)
    (hn : (B.sent ch).length ≤ B.position rx + n) :
    B.drain n ch rx = (B.sent ch).drop (B.position rx) := by
  induction n generalizing rx with
  | zero => simpa [drain] using hn
  | succ n ih =>
      rcases Nat.eq_or_lt_of_le hpos with heq | hlt
      · cases hclosed : B.closed ch with
        | false => simp [drain, B.recv_wait ch rx heq hclosed, heq]
        | true =>
            obtain ⟨e, he⟩ := B.recv_closed ch rx heq hclosed
            simp [drain, he, heq]
      · obtain ⟨hmsg, hnext⟩ := B.recv_next ch rx hlt hcap
        have hrest := ih (B.recv ch rx).2 (by omega) (by omega) (by omega)
        rw [List.drop_eq_getElem_cons hlt, ← hnext, ← hrest, drain]
        generalize B.recv ch rx = r at hmsg
        obtain ⟨_, rx'⟩ := r
        simp only at hmsg
        subst hmsg
        rfl

/-- A receiver that fell behind by more than the capacity is told so. -/
def ReportsLag : Prop :=
  ∀ ch rx, B.position rx + B.capacity ch < (B.sent ch).length →
    ∃ e, (B.recv ch rx).1 = some (.error e)

variable {B} in
/-- A receiver that has not got past anything waits if nothing was sent and there
is a sender. -/
theorem recv_isNone (hB : B.ReportsLag) {ch : B.Channel} {rx : B.Receiver}
    (hpos : B.position rx = 0) :
    (B.recv ch rx).1.isNone = true ↔ B.sent ch = [] ∧ B.closed ch = false := by
  cases hsent : B.sent ch with
  | nil =>
      have hend : B.position rx = (B.sent ch).length := by rw [hpos, hsent]; rfl
      cases hclosed : B.closed ch with
      | false => simp [B.recv_wait ch rx hend hclosed]
      | true =>
          obtain ⟨e, he⟩ := B.recv_closed ch rx hend hclosed
          simp [he]
  | cons first rest =>
      by_cases hcap : (B.sent ch).length ≤ B.capacity ch
      · obtain ⟨hmsg, -⟩ := B.recv_next ch rx (by simp [hpos, hsent]) (by omega)
        simp [hmsg]
      · obtain ⟨e, he⟩ := hB ch rx (by omega)
        simp [he]

variable {B} in
/-- What a receiver gets that has not got past anything yet. -/
theorem recv_first (hB : B.ReportsLag) {ch : B.Channel} {rx : B.Receiver}
    (hpos : B.position rx = 0) {m : Msg} :
    (B.recv ch rx).1 = some (.ok m) ↔
      (B.sent ch).head? = some m ∧ (B.sent ch).length ≤ B.capacity ch := by
  by_cases hcap : (B.sent ch).length ≤ B.capacity ch
  · cases hsent : B.sent ch with
    | nil =>
        have hend : B.position rx = (B.sent ch).length := by rw [hpos, hsent]; rfl
        cases hclosed : B.closed ch with
        | false => simp [B.recv_wait ch rx hend hclosed]
        | true =>
            obtain ⟨e, he⟩ := B.recv_closed ch rx hend hclosed
            simp [he]
    | cons first rest =>
        obtain ⟨hmsg, -⟩ := B.recv_next ch rx (by simp [hpos, hsent]) (by omega)
        simp only [hpos, hsent, List.getElem_cons_zero] at hmsg
        rw [hsent] at hcap
        rw [hmsg]
        simpa using fun _ => hcap
  · obtain ⟨e, he⟩ := hB ch rx (by omega)
    rw [he]
    simp [hcap]

end Broadcast

/-! ## The channels that exist -/

/-- The number of a channel; a sender is one. -/
abbrev ChannelId : Type := Nat

/-- The channels below `next` have been created. -/
structure Bank {Msg : Type} (B : Broadcast Msg) where
  next : ChannelId
  get : ChannelId → B.Channel

namespace Bank

variable {Msg : Type} {B : Broadcast Msg}

/-- No channel created yet. -/
def empty (B : Broadcast Msg) : Bank B := ⟨0, fun _ => (B.channel 1).1⟩

/-- Replace the state of one channel. -/
def set (b : Bank B) (c : ChannelId) (ch : B.Channel) : Bank B :=
  { b with get := Function.update b.get c ch }

/-- Create a channel: its sender and first receiver. -/
def channel (b : Bank B) (capacity : Nat) : (ChannelId × B.Receiver) × Bank B :=
  ((b.next, (B.channel capacity).2),
    { (b.set b.next (B.channel capacity).1) with next := b.next + 1 })

/-- Send on a channel. -/
def send (b : Bank B) (c : ChannelId) (m : Msg) : Except B.SendError Nat × Bank B :=
  ((B.send (b.get c) m).1, b.set c (B.send (b.get c) m).2)

/-- The messages accepted by a channel. -/
def sent (b : Bank B) (c : ChannelId) : List Msg := B.sent (b.get c)

/-- A channel some receiver still listens on. -/
def Live (b : Bank B) (c : ChannelId) : Prop := 0 < B.receiverCount (b.get c)

instance (b : Bank B) (c : ChannelId) : Decidable (b.Live c) :=
  inferInstanceAs (Decidable (0 < _))

@[simp] theorem set_get_self (b : Bank B) (c : ChannelId) (ch : B.Channel) :
    (b.set c ch).get c = ch := by
  simp [set]

theorem set_get_ne (b : Bank B) {c c' : ChannelId} (ch : B.Channel) (h : c' ≠ c) :
    (b.set c ch).get c' = b.get c' := by
  simp [set, h]

@[simp] theorem set_next (b : Bank B) (c : ChannelId) (ch : B.Channel) :
    (b.set c ch).next = b.next := rfl

/-! ## Sending several messages -/

/-- The messages of `jobs` that are for channel `c`, in order. -/
def onChannel (c : ChannelId) (jobs : List (ChannelId × Msg)) : List Msg :=
  (jobs.filter fun job => job.1 = c).map Prod.snd

@[simp] theorem onChannel_nil (c : ChannelId) :
    onChannel c ([] : List (ChannelId × Msg)) = [] := rfl

@[simp] theorem onChannel_append (c : ChannelId) (jobs jobs' : List (ChannelId × Msg)) :
    onChannel c (jobs ++ jobs') = onChannel c jobs ++ onChannel c jobs' := by
  simp [onChannel]

theorem mem_onChannel {c : ChannelId} {jobs : List (ChannelId × Msg)} {m : Msg} :
    m ∈ onChannel c jobs ↔ (c, m) ∈ jobs := by
  simp [onChannel]

/-- `b.Took jobs b'`: from `b` to `b'` the channels accepted exactly `jobs`,
in that order, and nothing else about them changed. -/
structure Took (b : Bank B) (jobs : List (ChannelId × Msg)) (b' : Bank B) : Prop where
  sent : ∀ c, b'.sent c = b.sent c ++ onChannel c jobs
  live : ∀ c, b'.Live c ↔ b.Live c
  capacity : ∀ c, B.capacity (b'.get c) = B.capacity (b.get c)
  closed : ∀ c, B.closed (b'.get c) = B.closed (b.get c)
  next : b'.next = b.next

theorem Took.nil (b : Bank B) : b.Took [] b :=
  ⟨fun _ => by simp, fun _ => .rfl, fun _ => rfl, fun _ => rfl, rfl⟩

theorem Took.trans {b b' b'' : Bank B} {jobs jobs' : List (ChannelId × Msg)}
    (h : b.Took jobs b') (h' : b'.Took jobs' b'') : b.Took (jobs ++ jobs') b'' where
  sent c := by rw [h'.sent, h.sent, onChannel_append, List.append_assoc]
  live c := (h'.live c).trans (h.live c)
  capacity c := (h'.capacity c).trans (h.capacity c)
  closed c := (h'.closed c).trans (h.closed c)
  next := h'.next.trans h.next

/-- A send on a live channel is accepted. -/
theorem send_took {b : Bank B} {c : ChannelId} (m : Msg) (h : b.Live c) :
    b.Took [(c, m)] (b.send c m).2 := by
  constructor
  · intro c'
    by_cases hc : c' = c
    · subst hc
      simp [Bank.sent, send, onChannel, (B.send_live _ m h).2]
    · simp [Bank.sent, send, onChannel, set_get_ne _ _ hc, Ne.symm hc]
  · intro c'
    by_cases hc : c' = c
    · subst hc
      simp [Live, send, B.receiverCount_send]
    · simp [Live, send, set_get_ne _ _ hc]
  · intro c'
    by_cases hc : c' = c
    · subst hc
      simp [send, B.capacity_send]
    · simp [send, set_get_ne _ _ hc]
  · intro c'
    by_cases hc : c' = c
    · subst hc
      simp [send, B.closed_send]
    · simp [send, set_get_ne _ _ hc]
  · rfl

theorem send_live {b : Bank B} {c : ChannelId} (m : Msg) (h : b.Live c) :
    (b.send c m).1 = .ok (B.receiverCount (b.get c)) :=
  (B.send_live _ m h).1

/-- A send on a channel without receivers fails and leaves no trace. -/
theorem send_dead {b : Bank B} {c : ChannelId} (m : Msg) (h : ¬ b.Live c) :
    ∃ e, b.send c m = (.error e, b) := by
  obtain ⟨e, he⟩ := B.send_dead (b.get c) m (Nat.eq_zero_of_not_pos h)
  refine ⟨e, ?_⟩
  simp [send, he, set]

/-- Send every message, whether or not earlier sends failed. -/
def sendEach (b : Bank B) : List (ChannelId × Msg) → Bank B
  | [] => b
  | (c, m) :: jobs => sendEach (b.send c m).2 jobs

/-- Send the messages up to the first failure. -/
def sendUntilError (b : Bank B) : List (ChannelId × Msg) → Except B.SendError Unit × Bank B
  | [] => (.ok (), b)
  | (c, m) :: jobs =>
    match b.send c m with
    | (.error e, b') => (.error e, b')
    | (.ok _, b') => sendUntilError b' jobs

theorem sendUntilError_cons_live {b : Bank B} {c : ChannelId} (m : Msg)
    (jobs : List (ChannelId × Msg)) (h : b.Live c) :
    b.sendUntilError ((c, m) :: jobs) = (b.send c m).2.sendUntilError jobs := by
  have hok : b.send c m = (.ok (B.receiverCount (b.get c)), (b.send c m).2) :=
    Prod.ext (send_live m h) rfl
  rw [sendUntilError, hok]

theorem sendUntilError_cons_dead {b : Bank B} {c : ChannelId} {m : Msg} {e : B.SendError}
    (jobs : List (ChannelId × Msg)) (he : b.send c m = (.error e, b)) :
    b.sendUntilError ((c, m) :: jobs) = (.error e, b) := by
  rw [sendUntilError, he]

/-- `sendEach` delivers the messages whose channel is live. -/
theorem sendEach_took (b : Bank B) (jobs : List (ChannelId × Msg)) :
    b.Took (jobs.filter fun job => b.Live job.1) (b.sendEach jobs) := by
  induction jobs generalizing b with
  | nil => exact .nil b
  | cons job jobs ih =>
      obtain ⟨c, m⟩ := job
      by_cases h : b.Live c
      · have hfst := send_took m h
        have hrest := ih (b.send c m).2
        simp only [hfst.live] at hrest
        simpa [sendEach, h] using hfst.trans hrest
      · obtain ⟨e, he⟩ := send_dead m h
        simpa [sendEach, h, he] using ih b

/-- `sendUntilError` delivers the messages before the first dead channel. -/
theorem sendUntilError_took (b : Bank B) (jobs : List (ChannelId × Msg)) :
    b.Took (jobs.takeWhile fun job => b.Live job.1) (b.sendUntilError jobs).2 := by
  induction jobs generalizing b with
  | nil => exact .nil b
  | cons job jobs ih =>
      obtain ⟨c, m⟩ := job
      by_cases h : b.Live c
      · have hfst := send_took m h
        have hrest := ih (b.send c m).2
        simp only [hfst.live] at hrest
        rw [sendUntilError_cons_live m jobs h]
        simpa [h] using hfst.trans hrest
      · obtain ⟨e, he⟩ := send_dead m h
        rw [sendUntilError_cons_dead jobs he]
        simpa [h] using Took.nil b

/-- `sendUntilError` succeeds exactly when every channel is live. -/
theorem sendUntilError_ok_iff (b : Bank B) (jobs : List (ChannelId × Msg)) :
    (b.sendUntilError jobs).1 = .ok () ↔ ∀ job ∈ jobs, b.Live job.1 := by
  induction jobs generalizing b with
  | nil => simp [sendUntilError]
  | cons job jobs ih =>
      obtain ⟨c, m⟩ := job
      by_cases h : b.Live c
      · have hrest := ih (b.send c m).2
        simp only [(send_took m h).live] at hrest
        rw [sendUntilError_cons_live m jobs h]
        simpa [h] using hrest
      · obtain ⟨e, he⟩ := send_dead m h
        rw [sendUntilError_cons_dead jobs he]
        simp [h]

/-- In a list no element with the property stands behind one without it
exactly when none is left once the leading ones are dropped. -/
theorem pairwise_iff_dropWhile {α : Type} (P : α → Prop) [DecidablePred P] (l : List α) :
    (l.Pairwise fun a b => P b → P a) ↔ ∀ b ∈ l.dropWhile fun a => P a, ¬ P b := by
  induction l with
  | nil => simp
  | cons a l ih =>
      rw [List.pairwise_cons]
      by_cases ha : P a
      · have hdrop : ((a :: l).dropWhile fun a => P a) = l.dropWhile fun a => P a := by
          simp [ha]
        rw [hdrop, ← ih]
        exact and_iff_right fun _ _ _ => ha
      · have hdrop : ((a :: l).dropWhile fun a => P a) = a :: l := by simp [ha]
        rw [hdrop]
        constructor
        · rintro ⟨hlater, -⟩ b hb hPb
          rcases List.mem_cons.mp hb with rfl | hmem
          · exact ha hPb
          · exact ha (hlater b hmem hPb)
        · intro h
          have hnone : ∀ b ∈ l, ¬ P b := fun b hb => h b (List.mem_cons_of_mem _ hb)
          exact ⟨fun b hb hPb => absurd hPb (hnone b hb),
            List.pairwise_of_forall_mem_list fun _ _ b hb hPb => absurd hPb (hnone b hb)⟩

/-- Stopping at the first dead channel loses nothing for the live ones exactly
when no message for a live channel stands behind one for a dead channel. -/
theorem onChannel_takeWhile_iff (live : ChannelId → Prop) [DecidablePred live]
    (jobs : List (ChannelId × Msg)) :
    (∀ c, live c → onChannel c (jobs.takeWhile fun job => live job.1) = onChannel c jobs) ↔
      jobs.Pairwise fun job later => live later.1 → live job.1 := by
  -- what is lost are the jobs from the first dead channel on
  have hsplit : ∀ c, onChannel c jobs = onChannel c (jobs.takeWhile fun job => live job.1) ++
      onChannel c (jobs.dropWhile fun job => live job.1) := by
    intro c
    rw [← onChannel_append, List.takeWhile_append_dropWhile]
  rw [pairwise_iff_dropWhile fun job : ChannelId × Msg => live job.1]
  constructor
  · intro h job hjob hlive
    have hrest := h job.1 hlive
    rw [hsplit, List.self_eq_append_right] at hrest
    have hdue := mem_onChannel.mpr hjob
    rw [hrest] at hdue
    exact absurd hdue List.not_mem_nil
  · intro h c hc
    rw [hsplit, List.self_eq_append_right, List.eq_nil_iff_forall_not_mem]
    intro m hm
    exact h (c, m) (mem_onChannel.mp hm) hc

/-- `b.Grows b'`: from `b` to `b'` no channel was lost, nor any message that had
been sent on one. -/
structure Grows (b b' : Bank B) : Prop where
  next : b.next ≤ b'.next
  sent : ∀ c < b.next, b.sent c <+: b'.sent c
  capacity : ∀ c < b.next, B.capacity (b'.get c) = B.capacity (b.get c)

theorem Grows.refl (b : Bank B) : b.Grows b :=
  ⟨Nat.le_refl _, fun _ _ => List.prefix_rfl, fun _ _ => rfl⟩

theorem Grows.trans {b b' b'' : Bank B} (h : b.Grows b') (h' : b'.Grows b'') : b.Grows b'' where
  next := Nat.le_trans h.next h'.next
  sent c hc := (h.sent c hc).trans (h'.sent c (Nat.lt_of_lt_of_le hc h.next))
  capacity c hc := (h'.capacity c (Nat.lt_of_lt_of_le hc h.next)).trans (h.capacity c hc)

theorem Took.grows {b b' : Bank B} {jobs : List (ChannelId × Msg)} (h : b.Took jobs b') :
    b.Grows b' where
  next := Nat.le_of_eq h.next.symm
  sent c _ := ⟨_, (h.sent c).symm⟩
  capacity c _ := h.capacity c

/-! ## Creating channels and changing receivers -/

/-- A created channel is new: nothing was sent on it, one receiver listens. -/
theorem channel_fresh (b : Bank B) (capacity : Nat) :
    (b.channel capacity).2.sent b.next = [] ∧ (b.channel capacity).2.Live b.next := by
  simp [channel, Bank.sent, Live, set, B.sent_channel, B.receiverCount_channel]

/-- And there is room for as many messages as were asked for, and a sender. -/
theorem channel_open (b : Bank B) (capacity : Nat) :
    capacity ≤ B.capacity ((b.channel capacity).2.get b.next) ∧
      B.closed ((b.channel capacity).2.get b.next) = false := by
  simp [channel, set, B.capacity_channel, B.closed_channel]

theorem channel_get_ne (b : Bank B) (capacity : Nat) {c : ChannelId} (h : c ≠ b.next) :
    (b.channel capacity).2.get c = b.get c := by
  simp [channel, set, h]

/-- One more receiver on a channel. -/
def addReceiver (b : Bank B) (c : ChannelId) : Bank B := b.set c (B.addReceiver (b.get c))

/-- One receiver fewer on a channel. -/
def dropReceiver (b : Bank B) (c : ChannelId) : Bank B := b.set c (B.dropReceiver (b.get c))

/-- No sender is left on a channel. -/
def dropSenders (b : Bank B) (c : ChannelId) : Bank B := b.set c (B.dropSenders (b.get c))

@[simp] theorem sent_addReceiver (b : Bank B) (c c' : ChannelId) :
    (b.addReceiver c).sent c' = b.sent c' := by
  by_cases h : c' = c
  · subst h; simp [Bank.sent, addReceiver, B.sent_addReceiver]
  · simp [Bank.sent, addReceiver, set_get_ne _ _ h]

@[simp] theorem sent_dropReceiver (b : Bank B) (c c' : ChannelId) :
    (b.dropReceiver c).sent c' = b.sent c' := by
  by_cases h : c' = c
  · subst h; simp [Bank.sent, dropReceiver, B.sent_dropReceiver]
  · simp [Bank.sent, dropReceiver, set_get_ne _ _ h]

end Bank

/-! ## A concrete broadcast channel -/

/-- A channel that keeps everything it accepted. -/
structure LogChannel (Msg : Type) where
  receivers : Nat
  capacity : Nat
  sent : List Msg
  closed : Bool

/-- Why a receiver gets no message. -/
inductive LogRecvError
  | closed
  | lagged (missed : Nat)
  deriving DecidableEq

/-- Broadcast channels as logs: a receiver is the number of messages it has
got past, and one that fell behind by more than the capacity is told how many
messages it missed and moved up. -/
def Broadcast.log (Msg : Type) : Broadcast Msg where
  Channel := LogChannel Msg
  Receiver := Nat
  SendError := Msg
  RecvError := LogRecvError
  channel n := (⟨1, n, [], false⟩, 0)
  send ch m :=
    if 0 < ch.receivers then (.ok ch.receivers, { ch with sent := ch.sent ++ [m] })
    else (.error m, ch)
  recv ch rx :=
    -- fell behind: the oldest messages are no longer kept
    if rx + ch.capacity < ch.sent.length then
      (some (.error (.lagged (ch.sent.length - ch.capacity - rx))),
        ch.sent.length - ch.capacity)
    else match ch.sent[rx]? with
      | some m => (some (.ok m), rx + 1)
      | none => (if ch.closed then some (.error .closed) else none, rx)
  addReceiver ch := { ch with receivers := ch.receivers + 1 }
  dropReceiver ch := { ch with receivers := ch.receivers - 1 }
  dropSenders ch := { ch with closed := true }
  sendErrorText _ := "channel closed"
  recvErrorText
    | .closed => "channel closed"
    | .lagged missed => "channel lagged by " ++ toString missed
  receiverCount ch := ch.receivers
  capacity ch := ch.capacity
  sent ch := ch.sent
  position rx := rx
  closed ch := ch.closed
  sent_channel _ := rfl
  receiverCount_channel _ := rfl
  capacity_channel _ := Nat.le_refl _
  position_channel _ := rfl
  closed_channel _ := rfl
  send_live ch m h := by simp [h]
  send_dead ch m h := ⟨m, by simp [h]⟩
  receiverCount_send ch m := by split <;> rfl
  capacity_send ch m := by split <;> rfl
  closed_send ch m := by split <;> rfl
  sent_addReceiver _ := rfl
  receiverCount_addReceiver _ := rfl
  sent_dropReceiver _ := rfl
  receiverCount_dropReceiver _ := rfl
  sent_dropSenders _ := rfl
  receiverCount_dropSenders _ := rfl
  capacity_dropSenders _ := rfl
  closed_dropSenders _ := rfl
  recv_wait ch rx h hclosed := by
    subst h
    simp [hclosed]
  recv_closed ch rx h hclosed := by
    subst h
    have hnot : ¬ ch.sent.length + ch.capacity < ch.sent.length := by omega
    exact ⟨.closed, by simp [hnot, hclosed]⟩
  recv_next ch rx h hcap := by
    have hnot : ¬ rx + ch.capacity < ch.sent.length := by omega
    simp [hnot, h]

theorem Broadcast.log_reportsLag (Msg : Type) : (Broadcast.log Msg).ReportsLag := by
  intro ch (rx : Nat) (hlag : rx + ch.capacity < ch.sent.length)
  refine ⟨LogRecvError.lagged (ch.sent.length - ch.capacity - rx), ?_⟩
  show (if rx + ch.capacity < ch.sent.length then _ else _ :
    Option (Except LogRecvError Msg) × Nat).1 = _
  rw [if_pos hlag]
  rfl

end Kit

/-!
# Calls that may panic, and mutexes that get poisoned

`Act σ α` is a call on a shared state `σ`: it returns a value or panics, and
what it did to the state before it panicked stays done. `Mutex` is a mutex
whose every holder takes `lock().unwrap()`: after a panic in a holder the
mutex is poisoned and every later lock panics too.
-/

namespace Kit

/-- How a call ends. -/
inductive Outcome (α : Type) where
  | returned (value : α)
  | panicked
  deriving DecidableEq, Repr

/-- The outcome with its value renamed. -/
def Outcome.map {α β : Type} (f : α → β) : Outcome α → Outcome β
  | .returned value => .returned (f value)
  | .panicked => .panicked

/-- A call on a shared state. -/
def Act (σ α : Type) : Type := σ → Outcome α × σ

namespace Act

variable {σ α β : Type}

instance : Monad (Act σ) where
  pure value := fun s => (.returned value, s)
  bind x f := fun s =>
    match x s with
    | (.returned value, s') => f value s'
    | (.panicked, s') => (.panicked, s')

/-- A call with its result renamed. -/
def map (f : α → β) (x : Act σ α) : Act σ β := fun s => ((x s).1.map f, (x s).2)

@[simp] theorem pure_apply (value : α) (s : σ) :
    (pure value : Act σ α) s = (.returned value, s) := rfl

theorem bind_apply (x : Act σ α) (f : α → Act σ β) (s : σ) :
    (x >>= f) s =
      match x s with
      | (.returned value, s') => f value s'
      | (.panicked, s') => (.panicked, s') := rfl

/-- A call whose first part returns goes on with the second part. -/
theorem bind_returned {x : Act σ α} {f : α → Act σ β} {s s' : σ} {value : α}
    (h : x s = (.returned value, s')) : (x >>= f) s = f value s' := by
  rw [bind_apply, h]

/-- A call whose first part panics is over. -/
theorem bind_panicked {x : Act σ α} {f : α → Act σ β} {s s' : σ}
    (h : x s = (.panicked, s')) : (x >>= f) s = (.panicked, s') := by
  rw [bind_apply, h]

/-- What both parts of a sequence do to the state, the sequence does. -/
theorem bind_rel (R : σ → σ → Prop) (htrans : ∀ s s' s'', R s s' → R s' s'' → R s s'')
    {x : Act σ α} {f : α → Act σ β} (hx : ∀ s, R s (x s).2) (hf : ∀ a s, R s (f a s).2) (s : σ) :
    R s ((x >>= f) s).2 := by
  have hfst := hx s
  rw [bind_apply]
  generalize x s = y at hfst ⊢
  obtain ⟨outcome, s'⟩ := y
  cases outcome with
  | returned value => exact htrans _ _ _ hfst (hf value s')
  | panicked => exact hfst

/-- Give the error of a fallible call as another one. -/
def mapError {ε ε' : Type} (f : ε → ε') (x : Act σ (Except ε α)) : ExceptT ε' (Act σ) α :=
  ExceptT.mk (x.map fun result => result.mapError f)

theorem mapError_ok {ε ε' : Type} {f : ε → ε'} {x : Act σ (Except ε α)} {s s' : σ} {value : α}
    (h : x s = (.returned (.ok value), s')) : x.mapError f s = (.returned (.ok value), s') := by
  show ((x s).1.map _, (x s).2) = _
  rw [h]
  rfl

/-- `?` on a success goes on. -/
theorem try_ok {ε : Type} {x : ExceptT ε (Act σ) α} {f : α → ExceptT ε (Act σ) β} {s s' : σ}
    {value : α} (h : x s = (.returned (.ok value), s')) : (x >>= f) s = f value s' := by
  show (Bind.bind (x : Act σ (Except ε α)) (ExceptT.bindCont f) : Act σ (Except ε β)) s = _
  rw [bind_returned h]
  rfl

/-- `?` on an error returns it. -/
theorem try_error {ε : Type} {x : ExceptT ε (Act σ) α} {f : α → ExceptT ε (Act σ) β} {s s' : σ}
    {e : ε} (h : x s = (.returned (.error e), s')) :
    (x >>= f) s = (.returned (.error e), s') := by
  show (Bind.bind (x : Act σ (Except ε α)) (ExceptT.bindCont f) : Act σ (Except ε β)) s = _
  rw [bind_returned h]
  rfl

/-- A panic ends the whole sequence. -/
theorem try_panicked {ε : Type} {x : ExceptT ε (Act σ) α} {f : α → ExceptT ε (Act σ) β}
    {s s' : σ} (h : x s = (.panicked, s')) : (x >>= f) s = (.panicked, s') := by
  show (Bind.bind (x : Act σ (Except ε α)) (ExceptT.bindCont f) : Act σ (Except ε β)) s = _
  rw [bind_panicked h]

/-- A sequence that succeeds is a success and what goes on from there. -/
theorem try_inv {ε : Type} {x : ExceptT ε (Act σ) α} {f : α → ExceptT ε (Act σ) β} {s : σ}
    {result : β} (h : ((x >>= f) s).1 = .returned (.ok result)) :
    ∃ value s', x s = (.returned (.ok value), s') ∧ (f value s').1 = .returned (.ok result) := by
  generalize hx : x s = y
  obtain ⟨outcome, s'⟩ := y
  cases outcome with
  | panicked =>
      rw [try_panicked hx] at h
      cases h
  | returned answer =>
      cases answer with
      | error e =>
          rw [try_error hx] at h
          cases h
      | ok value =>
          rw [try_ok hx] at h
          exact ⟨value, s', rfl, h⟩

theorem mapError_panicked {ε ε' : Type} {f : ε → ε'} {x : Act σ (Except ε α)} {s s' : σ}
    (h : x s = (.panicked, s')) : x.mapError f s = (.panicked, s') := by
  show ((x s).1.map _, (x s).2) = _
  rw [h]
  rfl

theorem mapError_inv {ε ε' : Type} {f : ε → ε'} {x : Act σ (Except ε α)} {s s' : σ} {value : α}
    (h : x.mapError f s = (.returned (.ok value), s')) :
    x s = (.returned (.ok value), s') := by
  have h : ((x s).1.map fun result => result.mapError f, (x s).2) =
      (Outcome.returned (.ok value), s') := h
  generalize x s = y at h ⊢
  obtain ⟨outcome, s''⟩ := y
  cases outcome with
  | panicked => cases h
  | returned answer =>
      cases answer with
      | error => cases h
      | ok =>
          cases h
          rfl

end Act

/-- A mutex and the value it guards. -/
structure Mutex (α : Type) where
  data : α
  poisoned : Bool := false

namespace Mutex

variable {α : Type}

/-- `lock().unwrap()`: the guarded value, or a panic on a poisoned mutex. -/
def lock (m : Mutex α) : Outcome α :=
  if m.poisoned then .panicked else .returned m.data

/-- The mutex after its holder stored `value`. -/
def write (m : Mutex α) (value : α) : Mutex α := { m with data := value }

/-- The mutex after its holder panicked. -/
def poison (m : Mutex α) : Mutex α := { m with poisoned := true }

@[simp] theorem write_data (m : Mutex α) (value : α) : (m.write value).data = value := rfl

@[simp] theorem write_poisoned (m : Mutex α) (value : α) :
    (m.write value).poisoned = m.poisoned := rfl

@[simp] theorem poison_data (m : Mutex α) : m.poison.data = m.data := rfl

@[simp] theorem poison_poisoned (m : Mutex α) : m.poison.poisoned = true := rfl

theorem lock_of_healthy {m : Mutex α} (h : m.poisoned = false) :
    m.lock = .returned m.data := by
  simp [lock, h]

theorem lock_of_poisoned {m : Mutex α} (h : m.poisoned = true) :
    m.lock = .panicked := by
  simp [lock, h]

end Mutex

end Kit

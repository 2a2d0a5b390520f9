import NodeLink.Action

/-! Timers that count cycles, in a pool of ten. A timer runs from its last start and is expired once
its limit of cycles has passed; a stop or a new start forgets the cycles counted. -/

namespace NodeLink

namespace Timer

inductive Phase where
  | stopped
  | running (cycles : Nat)
  | expired
  deriving DecidableEq, Repr

end Timer

structure Timer where
  limit : Nat
  phase : Timer.Phase
  deriving DecidableEq, Repr

namespace Timer

def stop (timer : Timer) : Timer := { timer with phase := .stopped }

/-- A timer without cycles to wait for is expired at once. -/
def start (timer : Timer) : Timer :=
  { timer with phase := if timer.limit = 0 then .expired else .running 0 }

def tick (timer : Timer) : Timer :=
  match timer.phase with
  | .running cycles =>
    { timer with phase := if timer.limit ≤ cycles + 1 then .expired else .running (cycles + 1) }
  | _ => timer

end Timer

/-- Ten places; a place without a timer is free. -/
structure TimerPool where
  places : Vector (Option Timer) 10
  deriving DecidableEq

namespace TimerPool

abbrev capacity : Nat := 10

/-- A place of the pool. It stays the same when its timer is given back. -/
abbrev Handle := Fin capacity

def empty : TimerPool := ⟨Vector.replicate capacity none⟩

def get? (pool : TimerPool) (handle : Handle) : Option Timer := pool.places[handle]

def set (pool : TimerPool) (handle : Handle) (timer : Option Timer) : TimerPool :=
  ⟨pool.places.set handle timer⟩

/-- The first free place. -/
def free? (pool : TimerPool) : Option Handle :=
  (List.finRange capacity).find? fun handle => (pool.get? handle).isNone

/-- Take a stopped timer from the pool. -/
def create (pool : TimerPool) (limit : Nat) : Except Error (Handle × TimerPool) :=
  match pool.free? with
  | none => .error .poolExhausted
  | some handle => .ok (handle, pool.set handle (some ⟨limit, .stopped⟩))

def update (pool : TimerPool) (handle : Handle) (change : Timer → Option Timer) :
    Except Error TimerPool :=
  match pool.get? handle with
  | none => .error .invalidHandle
  | some timer => .ok (pool.set handle (change timer))

/-- Give a timer back to the pool. -/
def destroy (pool : TimerPool) (handle : Handle) : Except Error TimerPool :=
  pool.update handle fun _ => none

def start (pool : TimerPool) (handle : Handle) : Except Error TimerPool :=
  pool.update handle fun timer => some timer.start

def stop (pool : TimerPool) (handle : Handle) : Except Error TimerPool :=
  pool.update handle fun timer => some timer.stop

def tick (pool : TimerPool) (handle : Handle) : Except Error TimerPool :=
  pool.update handle fun timer => some timer.tick

def phase (pool : TimerPool) (handle : Handle) : Except Error Timer.Phase :=
  match pool.get? handle with
  | none => .error .invalidHandle
  | some timer => .ok timer.phase

def available (pool : TimerPool) : Nat :=
  (List.finRange capacity).countP fun handle => (pool.get? handle).isNone

theorem free?_eq_none (pool : TimerPool) :
    pool.free? = none ↔ ∀ handle, (pool.get? handle).isSome := by
  simp only [free?, List.find?_eq_none, List.mem_finRange, true_implies, Bool.not_eq_true,
    Option.isNone_eq_false_iff]

/-- The pool hands out a place that was free. -/
theorem get?_of_free? {pool : TimerPool} {handle : Handle} (found : pool.free? = some handle) :
    pool.get? handle = none := by
  have free := List.find?_some found
  simpa only [Option.isNone_iff_eq_none] using free

theorem get?_set (pool : TimerPool) (handle other : Handle) (timer : Option Timer) :
    (pool.set handle timer).get? other = if handle = other then timer else pool.get? other := by
  simp only [get?, set, Fin.getElem_fin, Vector.getElem_set, Fin.ext_iff]

theorem get?_empty (handle : Handle) : empty.get? handle = none := by
  simp only [get?, empty, Fin.getElem_fin, Vector.getElem_replicate]

end TimerPool

/-- Change the timer of an end, in the pool that the end shares with others. -/
def Action.onTimer {S : Signature} {σ : Type} (timer : σ → TimerPool.Handle)
    (change : TimerPool → TimerPool.Handle → Except Error TimerPool) :
    Action S (σ × TimerPool) Unit :=
  Action.update fun (state, pool) =>
    match change pool (timer state) with
    | .error error => (.error error, (state, pool))
    | .ok pool => (.ok (), (state, pool))

end NodeLink

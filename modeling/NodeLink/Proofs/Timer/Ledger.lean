import Mathlib.Data.Set.Card
import NodeLink.Proofs.Log
import NodeLink.Proofs.Timer

/-! A pool of timers after any calls. What a timer is found to be follows from the calls on its own handle
since the one that created it; a pool creates timers until all its places are in use, and a handle that is
not in use is good for nothing. -/
namespace NodeLink

namespace Timer

/-- A call on a timer that stays in use. -/
inductive Act where
  | start
  | stop
  | tick
  deriving DecidableEq, Repr

def act (timer : Timer) : Act → Timer
  | .start => timer.start
  | .stop => timer.stop
  | .tick => timer.tick

/-- How often a timer was ticked since it was started or stopped last. -/
def ticksSince (acts : List Act) : Nat := (acts.reverse.takeWhile (· = .tick)).length

/-- What a timer with this limit is after these calls. It counts if the last start or stop was a start. -/
def phaseAfter (limit : Nat) (acts : List Act) : Phase :=
  match (acts.filter (· ≠ .tick)).getLast? with
  | some .start => if limit ≤ ticksSince acts then .expired else .running (ticksSince acts)
  | _ => .stopped

/-- Each call changes what is told of the timer as it changes the timer. -/
theorem act_phaseAfter (limit : Nat) (acts : List Act) (act : Act) :
    (Timer.mk limit (phaseAfter limit acts)).act act = ⟨limit, phaseAfter limit (acts ++ [act])⟩ := by
  cases act with
  | start => simp [Timer.act, Timer.start, phaseAfter, ticksSince]
  | stop => simp [Timer.act, Timer.stop, phaseAfter]
  | tick =>
    have same : (acts ++ [Act.tick]).filter (· ≠ .tick) = acts.filter (· ≠ .tick) := by simp
    have more : ticksSince (acts ++ [.tick]) = ticksSince acts + 1 := by simp [ticksSince]
    unfold phaseAfter
    rw [same, more]
    split
    · exact tick_after limit (ticksSince acts)
    · rfl

end Timer

namespace TimerPool

inductive Call where
  | create (limit : Nat)
  | destroy (handle : Handle)
  | act (handle : Handle) (act : Timer.Act)
  deriving DecidableEq, Repr

/-- The handle that a call is on. -/
def Call.handle? : Call → Option Handle
  | create _ => none
  | destroy handle | act handle _ => some handle

def act (pool : TimerPool) (handle : Handle) : Timer.Act → Except Error TimerPool
  | .start => pool.start handle
  | .stop => pool.stop handle
  | .tick => pool.tick handle

/-- What a call leads to if it succeeds: the handle of a timer that it created, and the pool. -/
def perform (pool : TimerPool) : Call → Except Error (Option Handle × TimerPool)
  | .create limit => (pool.create limit).map fun (handle, after) => (some handle, after)
  | .destroy handle => (pool.destroy handle).map fun after => (none, after)
  | .act handle act => (pool.act handle act).map fun after => (none, after)

/-- The answer to a call, and the pool after it. -/
def call (pool : TimerPool) (call : Call) : Except Error (Option Handle) × TimerPool :=
  match pool.perform call with
  | .error error => (.error error, pool)
  | .ok (handle, after) => (.ok handle, after)

/-- A call and its answer. -/
structure Event where
  call : Call
  answer : Except Error (Option Handle)
  deriving DecidableEq

/-- A pool and all that was called on it. -/
structure Ledger where
  pool : TimerPool
  log : List Event

namespace Ledger

def new : Ledger := ⟨.empty, []⟩

def call (ledger : Ledger) (call : Call) : Ledger :=
  ⟨(ledger.pool.call call).2, ledger.log ++ [⟨call, (ledger.pool.call call).1⟩]⟩

def after (ledger : Ledger) (calls : List Call) : Ledger := calls.foldl call ledger

end Ledger

namespace Event

/-- A timer was created under the handle. -/
def Begins (handle : Handle) (limit : Nat) (event : Event) : Prop :=
  event = ⟨.create limit, .ok (some handle)⟩

/-- The handle's timer was given back. -/
def Ends (handle : Handle) (event : Event) : Prop := event = ⟨.destroy handle, .ok none⟩

def act? (handle : Handle) (event : Event) : Option Timer.Act :=
  match event.call with
  | .act other act => if other = handle then some act else none
  | _ => none

end Event

/-- A timer was created under the handle with this limit and not given back; what was called on the handle
since then are these acts. -/
def Uses (log : List Event) (handle : Handle) (limit : Nat) (acts : List Timer.Act) : Prop :=
  ∃ before first since, log = before ++ first :: since ∧ first.Begins handle limit ∧
    (∀ event ∈ since, ¬ event.Ends handle ∧ ∀ limit, ¬ event.Begins handle limit) ∧
    acts = since.filterMap (Event.act? handle)

def InUse (log : List Event) (handle : Handle) : Prop := ∃ limit acts, Uses log handle limit acts

variable {pool : TimerPool} {log : List Event} {event : Event} {handle : Handle} {limit : Nat}
  {acts : List Timer.Act}

theorem uses_append_iff : Uses (log ++ [event]) handle limit acts ↔
    event.Begins handle limit ∧ acts = [] ∨
      (¬ event.Ends handle ∧ ∀ limit, ¬ event.Begins handle limit) ∧
        ∃ earlier, Uses log handle limit earlier ∧ acts = earlier ++ (event.act? handle).toList := by
  constructor
  · rintro ⟨before, first, since, split, begins, lasting, rfl⟩
    rcases split_last split with ⟨_, rfl, rfl⟩ | ⟨since, rfl, earlier⟩
    · exact .inl ⟨begins, rfl⟩
    · refine .inr ⟨lasting event List.mem_concat_self, _,
        ⟨before, first, since, earlier, begins, ?_, rfl⟩, ?_⟩
      · exact fun other member => lasting other (List.mem_append_left _ member)
      · rw [List.filterMap_append, List.filterMap_cons, List.filterMap_nil]
        cases event.act? handle <;> rfl
  · rintro (⟨begins, rfl⟩ | ⟨lasts, earlier, ⟨before, first, since, rfl, begins, lasting, rfl⟩, rfl⟩)
    · exact ⟨log, event, [], rfl, begins, List.forall_mem_nil _, rfl⟩
    · refine ⟨before, first, since ++ [event], ?_, begins, ?_, ?_⟩
      · rw [List.append_assoc, List.cons_append]
      · exact List.forall_mem_append.mpr ⟨lasting, List.forall_mem_singleton.mpr lasts⟩
      · rw [List.filterMap_append, List.filterMap_cons, List.filterMap_nil]
        cases event.act? handle <;> rfl

/-- How a call may change one place. -/
inductive Changes (handle : Handle) (event : Event) : Option Timer → Option Timer → Prop where
  | begins {limit : Nat} : event.Begins handle limit →
      Changes handle event none (some ⟨limit, .stopped⟩)
  | ends {timer : Timer} : event.Ends handle → Changes handle event (some timer) none
  | acts {timer : Timer} {act : Timer.Act} : event.call = .act handle act →
      Changes handle event (some timer) (some (timer.act act))
  | keeps {place : Option Timer} : ¬ event.Ends handle → (∀ limit, ¬ event.Begins handle limit) →
      (event.act? handle = none ∨ place = none) → Changes handle event place place

theorem act_eq (pool : TimerPool) (handle : Handle) (act : Timer.Act) :
    pool.act handle act = pool.update handle fun timer => some (timer.act act) := by
  cases act <;> rfl

theorem call_of_unused {call : Call} (on : call.handle? = some handle) (unused : pool.get? handle = none) :
    pool.call call = (.error .invalidHandle, pool) := by
  cases call with
  | create limit => contradiction
  | destroy place =>
    cases on
    simp only [TimerPool.call, perform, destroy, update, unused, Except.map]
  | act place act =>
    cases on
    simp only [TimerPool.call, perform, act_eq, update, unused, Except.map]

/-- What a call on a timer leaves of it. -/
def Call.leaves (timer : Timer) : Call → Option Timer
  | .act _ change => some (timer.act change)
  | _ => none

theorem call_of_used {call : Call} {timer : Timer} (on : call.handle? = some handle)
    (used : pool.get? handle = some timer) :
    pool.call call = (.ok none, pool.set handle (call.leaves timer)) := by
  cases call with
  | create limit => contradiction
  | destroy place =>
    cases on
    simp only [TimerPool.call, perform, destroy, update, used, Except.map, Call.leaves]
  | act place act =>
    cases on
    simp only [TimerPool.call, perform, act_eq, update, used, Except.map, Call.leaves]

theorem create_of_full (full : pool.free? = none) :
    pool.call (.create limit) = (.error .poolExhausted, pool) := by
  simp only [TimerPool.call, perform, create, full, Except.map]

theorem create_of_free (found : pool.free? = some handle) :
    pool.call (.create limit) = (.ok (some handle), pool.set handle (some ⟨limit, .stopped⟩)) := by
  simp only [TimerPool.call, perform, create, found, Except.map]

theorem call_changes (pool : TimerPool) (call : Call) (handle : Handle) :
    Changes handle ⟨call, (pool.call call).1⟩ (pool.get? handle) ((pool.call call).2.get? handle) := by
  cases call with
  | create limit =>
    cases found : pool.free? with
    | none =>
      rw [create_of_full found]
      exact .keeps nofun nofun (.inl rfl)
    | some place =>
      rw [create_of_free found, get?_set]
      by_cases here : place = handle
      · subst here
        rw [if_pos rfl, get?_of_free? found]
        exact .begins rfl
      · rw [if_neg here]
        refine .keeps nofun ?_ (.inl rfl)
        rintro _ ⟨⟩
        exact here rfl
  | destroy place =>
    cases found : pool.get? place with
    | none =>
      rw [call_of_unused rfl found]
      exact .keeps nofun nofun (.inl rfl)
    | some timer =>
      rw [call_of_used rfl found, get?_set]
      by_cases here : place = handle
      · subst here
        rw [if_pos rfl, found]
        exact .ends rfl
      · rw [if_neg here]
        refine .keeps ?_ nofun (.inl rfl)
        rintro ⟨⟩
        exact here rfl
  | act place act =>
    cases found : pool.get? place with
    | none =>
      rw [call_of_unused rfl found]
      refine .keeps nofun nofun ?_
      by_cases here : place = handle
      · exact .inr (here ▸ found)
      · exact .inl (if_neg here)
    | some timer =>
      rw [call_of_used rfl found, get?_set]
      by_cases here : place = handle
      · subst here
        rw [if_pos rfl, found]
        exact .acts rfl
      · rw [if_neg here]
        exact .keeps nofun nofun (.inl (if_neg here))

/-- A place holds what the log tells of its handle. -/
structure Tells (log : List Event) (handle : Handle) (place : Option Timer) : Prop where
  used : ∀ {limit acts}, Uses log handle limit acts → place = some ⟨limit, Timer.phaseAfter limit acts⟩
  unused : ¬ InUse log handle → place = none

namespace Tells

variable {place next : Option Timer}

theorem new (handle : Handle) : Tells [] handle none where
  used uses := by
    obtain ⟨before, first, since, split, _⟩ := uses
    simp at split
  unused _ := rfl

theorem inUse_iff (tells : Tells log handle place) : InUse log handle ↔ place.isSome := by
  constructor
  · rintro ⟨_, _, uses⟩
    rw [tells.used uses, Option.isSome_some]
  · intro found
    by_contra unused
    rw [tells.unused unused] at found
    contradiction

theorem changes (tells : Tells log handle place) (changed : Changes handle event place next) :
    Tells (log ++ [event]) handle next := by
  cases changed with
  | begins begins =>
    cases begins
    constructor
    · intro limit acts uses
      rcases uses_append_iff.mp uses with ⟨⟨⟩, rfl⟩ | ⟨⟨_, new⟩, _⟩
      · rfl
      · exact absurd rfl (new _)
    · intro unused
      exact absurd ⟨_, _, uses_append_iff.mpr (.inl ⟨rfl, rfl⟩)⟩ unused
  | ends ends =>
    cases ends
    constructor
    · intro limit acts uses
      rcases uses_append_iff.mp uses with ⟨⟨⟩, _⟩ | ⟨⟨lasts, _⟩, _⟩
      exact absurd rfl lasts
    · intro _
      rfl
  | @acts timer act called =>
    have lasts : ¬ event.Ends handle ∧ ∀ limit, ¬ event.Begins handle limit := by
      constructor
      · rintro ⟨⟩
        contradiction
      · rintro _ ⟨⟩
        contradiction
    have done : event.act? handle = some act := by
      simp only [Event.act?, called, if_true]
    constructor
    · intro limit acts uses
      rcases uses_append_iff.mp uses with ⟨begins, _⟩ | ⟨_, earlier, held, rfl⟩
      · exact absurd begins (lasts.2 limit)
      · rw [Option.some.inj (tells.used held), done]
        exact congrArg some (Timer.act_phaseAfter limit earlier act)
    · intro unused
      obtain ⟨limit, earlier, uses⟩ := tells.inUse_iff.mpr rfl
      exact absurd ⟨limit, _, uses_append_iff.mpr (.inr ⟨lasts, earlier, uses, rfl⟩)⟩ unused
  | keeps lasts new quiet =>
    constructor
    · intro limit acts uses
      rcases uses_append_iff.mp uses with ⟨begins, _⟩ | ⟨_, earlier, held, rfl⟩
      · exact absurd begins (new limit)
      · have found := tells.used held
        rcases quiet with quiet | empty
        · rw [quiet, Option.toList_none, List.append_nil]
          exact found
        · rw [empty] at found
          contradiction
    · intro unused
      apply tells.unused
      rintro ⟨limit, earlier, uses⟩
      exact unused ⟨limit, _, uses_append_iff.mpr (.inr ⟨⟨lasts, new⟩, earlier, uses, rfl⟩)⟩

end Tells

namespace Ledger

variable {ledger : Ledger}

/-- The places hold what the log tells of their handles. -/
def Kept (ledger : Ledger) : Prop := ∀ handle, Tells ledger.log handle (ledger.pool.get? handle)

theorem kept_new : new.Kept := fun handle => (get?_empty handle).symm ▸ Tells.new handle

theorem Kept.call (kept : ledger.Kept) (call : Call) : (ledger.call call).Kept := fun handle =>
  (kept handle).changes (call_changes ledger.pool call handle)

/-- What the calls on a pool come to. -/
structure Faithful (ledger : Ledger) : Prop where
  /-- What a timer is found to be depends on the calls on its handle alone. -/
  phase : ∀ handle limit acts, Uses ledger.log handle limit acts →
    ledger.pool.phase handle = .ok (Timer.phaseAfter limit acts)
  served : ∀ handle call, InUse ledger.log handle → call.handle? = some handle →
    (ledger.pool.call call).1 = .ok none
  refused : ∀ handle, ¬ InUse ledger.log handle →
    ledger.pool.phase handle = .error .invalidHandle ∧
      ∀ call : Call, call.handle? = some handle → ledger.pool.call call = (.error .invalidHandle, ledger.pool)
  /-- A timer is created while not all places are in use, under a handle that was not, and leaves the
  other timers as they are. -/
  creates : ∀ limit, {handle | InUse ledger.log handle}.ncard < capacity →
    ∃ handle, (ledger.pool.call (.create limit)).1 = .ok (some handle) ∧ ¬ InUse ledger.log handle ∧
      ∀ other ≠ handle, (ledger.pool.call (.create limit)).2.get? other = ledger.pool.get? other
  exhausted : ∀ limit, ¬ {handle | InUse ledger.log handle}.ncard < capacity →
    ledger.pool.call (.create limit) = (.error .poolExhausted, ledger.pool)

theorem Kept.faithful (kept : ledger.Kept) : ledger.Faithful where
  phase handle limit acts uses := by
    simp only [TimerPool.phase, (kept handle).used uses]
  served handle call used on := by
    obtain ⟨limit, acts, uses⟩ := used
    rw [call_of_used on ((kept handle).used uses)]
  refused handle unused := by
    refine ⟨?_, fun call on => call_of_unused on ((kept handle).unused unused)⟩
    simp only [TimerPool.phase, (kept handle).unused unused]
  creates limit room := by
    cases found : ledger.pool.free? with
    | none =>
      have all : {handle | InUse ledger.log handle} = Set.univ :=
        Set.eq_univ_of_forall fun handle => (kept handle).inUse_iff.mpr ((free?_eq_none _).mp found handle)
      rw [all, Set.ncard_univ, Nat.card_eq_fintype_card, Fintype.card_fin] at room
      exact absurd room (Nat.lt_irrefl _)
    | some handle =>
      refine ⟨handle, ?_, ?_, ?_⟩
      · rw [create_of_free found]
      · rw [(kept handle).inUse_iff, get?_of_free? found]
        exact Bool.false_ne_true
      · intro other apart
        rw [create_of_free found, get?_set, if_neg (Ne.symm apart)]
  exhausted limit full := by
    refine create_of_full ((free?_eq_none _).mpr fun handle => (kept handle).inUse_iff.mp ?_)
    by_contra unused
    apply full
    have fewer := Set.ncard_lt_card fun all : {handle | InUse ledger.log handle} = Set.univ =>
      unused (all.symm ▸ Set.mem_univ handle : handle ∈ {handle | InUse ledger.log handle})
    rwa [Nat.card_eq_fintype_card, Fintype.card_fin] at fewer

theorem Kept.after (kept : ledger.Kept) (calls : List Call) : (ledger.after calls).Kept := by
  induction calls generalizing ledger with
  | nil => exact kept
  | cons call rest ih => exact ih (kept.call call)

/-- Whatever is called on a pool, each timer follows the calls on its own handle. -/
theorem calls_faithful (calls : List Call) : (new.after calls).Faithful :=
  (kept_new.after calls).faithful

/-- A place that is used again, for a timer with another limit: it expires with the second tick, not the
first. -/
example : (([.create 1, .act 0 .start, .destroy 0, .create 2, .act 0 .start, .act 0 .tick, .act 0 .tick] :
    List Call).inits.map fun calls => (new.after calls).pool.phase 0) =
    [.error .invalidHandle, .ok .stopped, .ok (.running 0), .error .invalidHandle, .ok .stopped,
      .ok (.running 0), .ok (.running 1), .ok .expired] := by decide +kernel

end Ledger

end TimerPool

end NodeLink

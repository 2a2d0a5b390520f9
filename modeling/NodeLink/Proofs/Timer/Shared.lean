import NodeLink.Proofs.Footprint
import NodeLink.Proofs.Interference
import NodeLink.Proofs.Surroundings
import NodeLink.Proofs.Timer

/-! The timer of an end, in the pool that the end shares with others. Whatever field of the end holds the
handle, a change of the timer that succeeds leaves another pool, and all else as it is. -/
namespace NodeLink

/-- The timer that an end holds a handle of. -/
def Timer.Clock {σ : Type} (handle : σ → TimerPool.Handle) (timer : Timer) (state : σ × TimerPool) :
    Prop := state.2.get? (handle state.1) = some timer

namespace Timer.Clock

variable {σ : Type} {handle : σ → TimerPool.Handle} {timer : Timer} {state : σ × TimerPool}

theorem start (clock : Clock handle timer state) :
    ∃ pool, state.2.start (handle state.1) = .ok pool ∧
      Clock handle (Timer.after timer.limit 0) (state.1, pool) := by
  rw [← timer.start_eq]
  exact TimerPool.exists_update Timer.start clock

theorem stop (clock : Clock handle timer state) :
    ∃ pool, state.2.stop (handle state.1) = .ok pool ∧ Clock handle timer.stop (state.1, pool) :=
  TimerPool.exists_update Timer.stop clock

theorem tick (clock : Clock handle timer state) :
    ∃ pool, state.2.tick (handle state.1) = .ok pool ∧ Clock handle timer.tick (state.1, pool) :=
  TimerPool.exists_update Timer.tick clock

theorem phase (clock : Clock handle timer state) :
    state.2.phase (handle state.1) = .ok timer.phase := by
  have found : state.2.get? (handle state.1) = some timer := clock
  rw [TimerPool.phase, found]

end Timer.Clock

namespace Action

variable {σ α ω : Type} {handle : σ → TimerPool.Handle}
  {alter : TimerPool → TimerPool.Handle → Except Error TimerPool} {state : σ × TimerPool}
  {pool : TimerPool}

section Run

variable {S : Signature} {kind : σ × TimerPool → Prop} {may : S.Request → Prop}

theorem onTimer_eq (changed : alter state.2 (handle state.1) = .ok pool) :
    (onTimer handle alter : Action S _ Unit) state = .done (.ok (), (state.1, pool)) := by
  simp only [onTimer, update, changed]
  rfl

theorem onTimer_bind {next : Unit → Action S (σ × TimerPool) α}
    (changed : alter state.2 (handle state.1) = .ok pool) :
    (onTimer handle alter >>= next) state = next () (state.1, pool) := by
  change Action.bind _ _ _ = _
  unfold Action.bind
  rw [onTimer_eq changed]
  rfl

theorem run_onTimer (handler : Handler S ω) (world : ω)
    (changed : alter state.2 (handle state.1) = .ok pool) :
    (onTimer handle alter).run handler state world = ((.ok (), (state.1, pool)), world) := by
  rw [run, onTimer_eq changed]
  rfl

/-- Changing a timer asks for nothing. -/
theorem AsksFrom.onTimer (pools : ∀ state pool other, kind (state, pool) → kind (state, other)) :
    (Action.onTimer handle alter).AsksFrom kind may := by
  refine .update fun ⟨state, pool⟩ start => ?_
  dsimp only
  split
  · exact start
  · exact pools _ _ _ start

end Run

section Medium

variable {faults : Prop} {may : Words.Request → Prop} {memory : SharedMemory}
  {next : Unit → Action Medium (σ × TimerPool) α}

theorem Ensures.onTimer {ok : Unit → σ × TimerPool → SharedMemory → Prop}
    {failed : Fault → σ × TimerPool → SharedMemory → Prop}
    (changed : alter state.2 (handle state.1) = .ok pool) (ended : ok () (state.1, pool) memory) :
    (Action.onTimer handle alter).Ensures faults may state memory ok failed := by
  unfold Action.Ensures
  rw [onTimer_eq changed]
  exact ended

theorem Ensures.onTimer_then {ok : α → σ × TimerPool → SharedMemory → Prop}
    {failed : Fault → σ × TimerPool → SharedMemory → Prop}
    (changed : alter state.2 (handle state.1) = .ok pool)
    (rest : (next ()).Ensures faults may (state.1, pool) memory ok failed) :
    (Action.onTimer handle alter >>= next).Ensures faults may state memory ok failed := by
  unfold Action.Ensures
  rw [onTimer_bind changed]
  exact rest

variable {rely : ω → ω → Prop} {access : Semantics Words ω} {world : ω}

theorem Guarantees.onTimer {ok : Unit → σ × TimerPool → ω → Prop}
    {failed : Fault → σ × TimerPool → ω → Prop}
    (changed : alter state.2 (handle state.1) = .ok pool)
    (ended : ∀ later, rely world later → ok () (state.1, pool) later) :
    (Action.onTimer handle alter).Guarantees rely access state world ok failed := by
  unfold Action.Guarantees
  rw [onTimer_eq changed]
  exact ended

theorem Guarantees.onTimer_then {ok : α → σ × TimerPool → ω → Prop}
    {failed : Fault → σ × TimerPool → ω → Prop}
    (changed : alter state.2 (handle state.1) = .ok pool)
    (rest : (next ()).Guarantees rely access (state.1, pool) world ok failed) :
    (Action.onTimer handle alter >>= next).Guarantees rely access state world ok failed := by
  unfold Action.Guarantees
  rw [onTimer_bind changed]
  exact rest

end Medium

theorem Meets.onTimer_then {faults : Prop} {world : World}
    {next : Unit → Action Host (σ × TimerPool) α} {ok : α → σ × TimerPool → World → Prop}
    {failed : Fault → σ × TimerPool → World → Prop}
    (changed : alter state.2 (handle state.1) = .ok pool)
    (rest : (next ()).Meets faults (state.1, pool) world ok failed) :
    (Action.onTimer handle alter >>= next).Meets faults state world ok failed := by
  unfold Action.Meets
  rw [onTimer_bind changed]
  exact rest

end Action

end NodeLink

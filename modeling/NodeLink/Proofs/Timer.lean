import NodeLink.Timer

/-! Timers that are in use stay in use: starting, stopping and counting never fail for their handle. -/
namespace NodeLink

namespace Timer

/-- A timer so many cycles after its start. -/
def after (limit cycles : Nat) : Timer :=
  ⟨limit, if limit ≤ cycles then .expired else .running cycles⟩

theorem start_eq (timer : Timer) : timer.start = after timer.limit 0 := by
  simp only [start, after, Nat.le_zero_eq]

theorem tick_after (limit cycles : Nat) : (after limit cycles).tick = after limit (cycles + 1) := by
  by_cases expired : limit ≤ cycles
  · simp only [after, if_pos expired, if_pos (Nat.le_succ_of_le expired)]
    rfl
  · simp only [after, if_neg expired]
    rfl

theorem limit_tick (timer : Timer) : timer.tick.limit = timer.limit := by
  unfold tick
  split <;> rfl

theorem phase_after {limit cycles : Nat} (expired : limit ≤ cycles) :
    (after limit cycles).phase = .expired := if_pos expired

theorem expired_iff {limit cycles : Nat} : (after limit cycles).phase = .expired ↔ limit ≤ cycles := by
  by_cases passed : limit ≤ cycles
  · exact ⟨fun _ => passed, phase_after⟩
  · simp [after, passed]

end Timer

namespace TimerPool

variable {pool : TimerPool} {handle : Handle}

/-- The handle's place holds a timer. -/
def Live (pool : TimerPool) (handle : Handle) : Prop := (pool.get? handle).isSome

theorem Live.update {change : Timer → Timer} (live : pool.Live handle) :
    ∃ after, pool.update handle (fun timer => some (change timer)) = .ok after ∧
      after.Live handle := by
  obtain ⟨timer, found⟩ := Option.isSome_iff_exists.mp live
  refine ⟨pool.set handle (some (change timer)), ?_, ?_⟩
  · simp only [TimerPool.update, found]
  · simp only [Live, get?_set, if_true, Option.isSome_some]

theorem Live.start (live : pool.Live handle) :
    ∃ after, pool.start handle = .ok after ∧ after.Live handle := live.update

theorem Live.stop (live : pool.Live handle) :
    ∃ after, pool.stop handle = .ok after ∧ after.Live handle := live.update

theorem Live.tick (live : pool.Live handle) :
    ∃ after, pool.tick handle = .ok after ∧ after.Live handle := live.update

theorem Live.phase (live : pool.Live handle) : ∃ phase, pool.phase handle = .ok phase := by
  obtain ⟨timer, found⟩ := Option.isSome_iff_exists.mp live
  exact ⟨timer.phase, by simp only [TimerPool.phase, found]⟩

theorem exists_update {timer : Timer} (change : Timer → Timer) (found : pool.get? handle = some timer) :
    ∃ after, pool.update handle (fun timer => some (change timer)) = .ok after ∧
      after.get? handle = some (change timer) := by
  refine ⟨pool.set handle (some (change timer)), ?_, ?_⟩
  · simp only [update, found]
  · rw [get?_set, if_pos rfl]

theorem get?_of_create {limit : Nat} {after : TimerPool} (created : pool.create limit = .ok (handle, after)) :
    after.get? handle = some ⟨limit, .stopped⟩ := by
  unfold create at created
  split at created
  · contradiction
  · cases created
    rw [get?_set, if_pos rfl]

theorem live_of_create {limit : Nat} {after : TimerPool} (created : pool.create limit = .ok (handle, after)) :
    after.Live handle := by
  rw [Live, get?_of_create created, Option.isSome_some]

theorem get?_of_update {change : Timer → Timer} {timer : Timer} {after : TimerPool}
    (updated : pool.update handle (fun timer => some (change timer)) = .ok after)
    (found : pool.get? handle = some timer) : after.get? handle = some (change timer) := by
  simp only [update, found, Except.ok.injEq] at updated
  rw [← updated, get?_set, if_pos rfl]

theorem get?_of_start {timer : Timer} {after : TimerPool} (started : pool.start handle = .ok after)
    (found : pool.get? handle = some timer) :
    after.get? handle = some (Timer.after timer.limit 0) :=
  (get?_of_update started found).trans (congrArg some timer.start_eq)

theorem get?_of_tick {limit cycles : Nat} {after : TimerPool} (ticked : pool.tick handle = .ok after)
    (found : pool.get? handle = some (Timer.after limit cycles)) :
    after.get? handle = some (Timer.after limit (cycles + 1)) :=
  (get?_of_update ticked found).trans (congrArg some (Timer.tick_after limit cycles))

end TimerPool

end NodeLink

import NodeLink.Proofs.Ssdo.OutboundAttempts
import NodeLink.Proofs.Ssdo.OutboundConsumer

/-! What a call of `process` does about the retries of a frame. It depends on the end and its timer alone:
neither what the memory holds nor whether its accesses fail has a part in it. -/
namespace NodeLink.Ssdo.Outbound

namespace Consumer

/-- A failed acknowledgement takes the frame away and leaves the end where it was. -/
def Stuck (consumer : Consumer) : Prop := consumer.phase ≠ .waitForFrame ∧ consumer.frame = none

abbrev Clock : Timer → State → Prop := Timer.Clock Consumer.timer

variable {state left : State} {world : World} {faults : Prop} {timer : Timer}

/-- What is left of the retries after an offer. -/
structure Answers (timer : Timer) (tried : Nat) (answer : Except Error Handoff)
    (result : Except Fault Unit) (left : State) : Prop where
  verdict : (result, left.1.phase) = verdict tried answer
  clock : ∃ phase, Clock ⟨timer.limit, phase⟩ left
  again : left.1.phase = .waitForRetry →
    left.1.retries = tried + 1 ∧ Clock (Timer.after timer.limit 0) left
  afresh : left.1.phase = .waitForFrame → left.1.retries = 0

/-- What a call of `process` does about the retries. -/
inductive Serves (timer : Timer) (before : Consumer) :
    List Offer → Except Fault Unit → State → Prop where
  | rests {result : Except Fault Unit} {left : State} : left.1.phase = before.phase →
      left.1.retries = before.retries → Clock timer left →
      (before.phase = .waitForRetry → timer.phase ≠ .expired) → Serves timer before [] result left
  | completes {result : Except Fault Unit} {left : State} : before.phase = .sent →
      left.1.phase = .waitForFrame → left.1.retries = 0 → Clock timer.stop left →
      Serves timer before [] result left
  | offers {offer : Offer} {result : Except Fault Unit} {left : State} :
      (before.phase = .waitForRetry → timer.phase = .expired) →
      Answers timer before.retries offer.answer result left → Serves timer before [offer] result left

theorem onReceiver_any {α : Type} (operation : Channel.Receiver.Operation α)
    {ok : α → State → World → Prop} {failed : Fault → State → World → Prop}
    (succeeds : ∀ value receiver after, after.events = world.events →
      ok value ({ state.1 with receiver }, state.2) after)
    (fails : ∀ fault receiver after, after.events = world.events →
      failed fault ({ state.1 with receiver }, state.2) after) :
    (onReceiver operation).Meets faults state world ok failed := by
  apply onReceiver_meets
  apply (Prog.ensures_true _ _).mono (fun _ => id)
  rintro ⟨fault | value, receiver⟩ memory _ after _ quiet
  · exact fails fault receiver after quiet
  · exact succeeds value receiver after quiet

theorem release_clears (clock : Clock timer state) (busy : state.1.phase ≠ .waitForFrame) :
    release.Meets faults state world
      (fun _ left after => after.events = world.events ∧
        left.1.phase = .waitForFrame ∧ left.1.retries = 0 ∧ Clock timer.stop left)
      fun _ left after => after.events = world.events ∧ left.1.Stuck := by
  have cleared {left : State} {after : World} (quiet : after.events = world.events)
      (clock : Clock timer left) :
      (do change fun consumer => { consumer with retries := 0 }
          onTimer TimerPool.stop
          enter .waitForFrame : Action Host State Unit).Meets faults left after
        (fun _ left after => after.events = world.events ∧
          left.1.phase = .waitForFrame ∧ left.1.retries = 0 ∧ Clock timer.stop left)
        fun _ left after => after.events = world.events ∧ left.1.Stuck := by
    apply Action.Meets.modify_then
    have clock : Clock timer ({ left.1 with retries := 0 }, left.2) := clock
    obtain ⟨pool, stopped, clock⟩ := clock.stop
    refine Action.Meets.onTimer_then stopped ?_
    exact ⟨quiet, rfl, rfl, clock⟩
  unfold release
  apply Action.Meets.get_then
  apply Action.Meets.modify_then
  cases taken : state.1.frame with
  | none =>
    simp only
    exact cleared rfl clock
  | some message =>
    simp only
    apply Action.Meets.bind fun _ left after => after.events = world.events ∧ Clock timer left
    · apply onReceiver_any
      · intro _ receiver after quiet
        exact ⟨quiet, clock⟩
      · intro _ receiver after quiet
        exact ⟨quiet, busy, rfl⟩
    · rintro _ left after ⟨quiet, clock⟩
      exact cleared quiet clock

theorem settle_answers (answer : Except Error Handoff) (clock : Clock timer state)
    (busy : state.1.phase ≠ .waitForFrame) :
    (settle answer).Meets faults state world
      (fun _ left after => after.events = world.events ∧ Answers timer state.1.retries answer (.ok ()) left)
      fun fault left after => after.events = world.events ∧
        (Answers timer state.1.retries answer (.error fault) left ∨ left.1.Stuck) := by
  have dropped (error : Error)
      (last : verdict state.1.retries answer = (.error (.error error), .waitForFrame)) :
      (release >>= fun _ => Action.fail (.error error)).Meets faults state world
        (fun (_ : Unit) left after => after.events = world.events ∧
          Answers timer state.1.retries answer (.ok ()) left)
        fun fault left after => after.events = world.events ∧
          (Answers timer state.1.retries answer (.error fault) left ∨ left.1.Stuck) := by
    apply Action.Meets.bind _ ((release_clears clock busy).mono (fun _ _ _ released => released) _)
    · rintro _ left after ⟨quiet, phase, retries, clock⟩
      refine ⟨quiet, .inl ⟨?_, ⟨_, clock⟩, ?_, fun _ => retries⟩⟩
      · rw [last, phase]
      · intro again
        rw [phase] at again
        contradiction
    · rintro _ left after ⟨quiet, stuck⟩
      exact ⟨quiet, .inr stuck⟩
  unfold settle
  cases answer with
  | error error => exact dropped error rfl
  | ok handoff =>
    cases handoff with
    | queued =>
      obtain ⟨pool, stopped, clock⟩ := clock.stop
      refine Action.Meets.onTimer_then stopped ?_
      exact ⟨rfl, rfl, ⟨_, clock⟩, nofun, nofun⟩
    | addressPending =>
      apply Action.Meets.get_then
      split
      · rename_i few
        apply Action.Meets.modify_then
        have clock : Clock timer ({ state.1 with retries := state.1.retries + 1 }, state.2) := clock
        obtain ⟨pool, started, clock⟩ := clock.start
        refine Action.Meets.onTimer_then started ?_
        apply Action.Meets.modify_then
        exact ⟨rfl, .inl ⟨(if_pos few).symm, ⟨_, clock⟩, fun _ => ⟨rfl, clock⟩, nofun⟩⟩
      · rename_i many
        exact dropped .transport (if_neg many)

/-- Whatever happens, a call of `process` serves the retries or leaves the end stuck. -/
def Served (timer : Timer) (before : Consumer) (events : List Host.Event) (result : Except Fault Unit)
    (left : State) (after : World) : Prop :=
  ∃ more, after.events = events ++ more ∧
    (Serves timer before (offersIn more) result left ∨ left.1.Stuck)

theorem offer_serves {before : Consumer} (clock : Clock timer state)
    (busy : state.1.phase ≠ .waitForFrame) (taken : state.1.frame.isSome)
    (retries : state.1.retries = before.retries)
    (due : before.phase = .waitForRetry → timer.phase = .expired) :
    offer.Meets faults state world (fun _ => Served timer before world.events (.ok ()))
      fun fault => Served timer before world.events (.error fault) := by
  obtain ⟨message, taken⟩ := Option.isSome_iff_exists.mp taken
  unfold offer
  apply Action.Meets.get_then
  simp only [taken]
  apply Action.Meets.ask_then
  · intro access same
    cases same
  · intro answer after _ events
    apply (settle_answers answer clock busy).mono
    · rintro _ left final ⟨quiet, answers⟩
      exact ⟨_, quiet.trans events, .inl (.offers due (retries ▸ answers))⟩
    · rintro fault left final ⟨quiet, answers⟩
      refine ⟨_, quiet.trans events, answers.imp_left fun answers => ?_⟩
      exact .offers due (retries ▸ answers)

theorem process_serves (world : World) (clock : Clock timer state) (moving : ¬ state.1.Stuck) :
    process.Meets faults state world (fun _ => Served timer state.1 world.events (.ok ()))
      fun fault => Served timer state.1 world.events (.error fault) := by
  have rests {result : Except Fault Unit} {left : State} {after : World}
      (quiet : after.events = world.events) (phase : left.1.phase = state.1.phase)
      (retries : left.1.retries = state.1.retries) (clock : Clock timer left)
      (early : state.1.phase = .waitForRetry → timer.phase ≠ .expired) :
      Served timer state.1 world.events result left after :=
    ⟨[], quiet.trans (List.append_nil _).symm, .inl (.rests phase retries clock early)⟩
  have taken (busy : state.1.phase ≠ .waitForFrame) : state.1.frame.isSome := by
    rw [Option.isSome_iff_ne_none]
    exact fun none => moving ⟨busy, none⟩
  unfold process
  apply Action.Meets.get_then
  cases phase : state.1.phase with
  | waitForFrame =>
    have early : state.1.phase = .waitForRetry → timer.phase ≠ .expired := by simp [phase]
    simp only [phase]
    unfold takeFrame
    apply Action.Meets.bind fun _ left after => after.events = world.events ∧
      ∃ receiver, left = ({ state.1 with receiver }, state.2)
    · apply onReceiver_any
      · intro _ receiver after quiet
        exact ⟨quiet, receiver, rfl⟩
      · intro _ receiver after quiet
        exact rests quiet rfl rfl clock early
    · rintro polled _ after ⟨quiet, receiver, rfl⟩
      cases polled with
      | none => exact rests quiet rfl rfl clock early
      | some message =>
        simp only
        split
        · apply onReceiver_any
          · intro _ receiver final still
            exact rests (still.trans quiet) rfl rfl clock early
          · intro _ receiver final still
            exact rests (still.trans quiet) rfl rfl clock early
        · apply Action.Meets.modify_then
          apply Action.Meets.modify_then
          rw [← quiet]
          refine offer_serves clock (by simp) rfl rfl ?_
          simp [phase]
  | offerFrame =>
    simp only [phase]
    have busy : state.1.phase ≠ .waitForFrame := by simp [phase]
    refine offer_serves clock busy (taken busy) rfl ?_
    simp [phase]
  | waitForRetry =>
    simp only [phase]
    apply Action.Meets.ofExcept_then clock.phase
    cases expiry : timer.phase with
    | expired =>
      apply Action.Meets.modify_then
      refine offer_serves clock (by simp) (taken ?_) rfl fun _ => expiry
      simp [phase]
    | stopped | running =>
      refine rests rfl rfl rfl clock ?_
      simp [expiry]
  | waitUntilSent =>
    simp only [phase]
    refine rests rfl rfl rfl clock ?_
    simp [phase]
  | sent =>
    simp only [phase]
    have busy : state.1.phase ≠ .waitForFrame := by simp [phase]
    apply (release_clears clock busy).mono
    · rintro _ left after ⟨quiet, idle, retries, clock⟩
      exact ⟨[], quiet.trans (List.append_nil _).symm, .inl (.completes phase idle retries clock)⟩
    · rintro _ left after ⟨quiet, stuck⟩
      exact ⟨[], quiet.trans (List.append_nil _).symm, .inr stuck⟩

end Consumer

end NodeLink.Ssdo.Outbound

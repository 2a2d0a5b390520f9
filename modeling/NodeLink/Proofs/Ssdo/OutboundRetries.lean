import NodeLink.Proofs.Ssdo.OutboundOrder
import NodeLink.Proofs.Ssdo.OutboundService

/-! When frames to the network are offered again, over any run of the two ends in which no access fails.
Whatever the network answers and in whatever order calls come, what was done for earlier frames has no part
in the retries of a frame. -/
namespace NodeLink.Ssdo.Outbound

namespace Consumer

variable {d : Descriptor} {cycles : Nat} {channel : UInt8} {payload : Bytes} {consumer : Consumer}
  {memory : SharedMemory} {count : Nat} {position : Position} {since : List Event} {state left : State}
  {timer : Timer} {offers : List Offer} {result : Except Fault Unit} {progress next : Progress}

theorem At.moving (stands : At d channel consumer memory count position) : ¬ consumer.Stuck := by
  rintro ⟨busy, lost⟩
  cases stands with
  | idle rests | closed closed rests => exact busy rests.phase
  | faced faces => exact busy faces.phase
  | pending phase holds | queued phase holds | sent phase holds =>
    obtain ⟨message, taken, _⟩ := holds.frame
    rw [taken] at lost
    contradiction

theorem At.rested (stands : At d channel consumer memory count position)
    (closed : ∀ frame ∈ position, frame.2.Over) : consumer.phase = .waitForFrame := by
  cases stands with
  | idle rests | closed _ rests => exact rests.phase
  | faced faces => exact faces.phase
  | pending | queued | sent => cases closed _ rfl

/-- A waiting frame was not taken yet or is to be offered again. -/
theorem At.waits (stands : At d channel consumer memory count (some (payload, .waiting))) :
    consumer.phase = .waitForFrame ∨ consumer.phase = .waitForRetry := by
  cases stands with
  | closed closed => cases closed
  | faced faces => exact .inl faces.phase
  | pending phase => exact .inr phase

/-- A new frame will find the retries unused. -/
structure Primed (cycles : Nat) (state : State) : Prop where
  clock : ∃ phase, Clock ⟨cycles, phase⟩ state
  afresh : state.1.phase = .waitForFrame → state.1.retries = 0

/-- The retries and the timer agree with what happened since the frame was posted. -/
structure Paced (cycles : Nat) (since : List Event) (progress : Progress) (state : State) : Prop
    extends Primed cycles state where
  counted : progress = .waiting → state.1.retries = (tries since).length
  clocked : progress = .waiting → state.1.phase = .waitForRetry →
    Clock (Timer.after cycles (waited since)) state

theorem Primed.limit (primed : Primed cycles state) (clock : Clock timer state) : timer.limit = cycles := by
  obtain ⟨phase, found⟩ := primed.clock
  cases clock.symm.trans found
  rfl

theorem Primed.serves (primed : Primed cycles state) (clock : Clock timer state)
    (serves : Serves timer state.1 offers result left) : Primed cycles left := by
  have limit := primed.limit clock
  cases serves with
  | rests same retries clock =>
    refine ⟨⟨timer.phase, limit ▸ clock⟩, fun idle => ?_⟩
    rw [retries]
    exact primed.afresh (same ▸ idle)
  | completes _ _ retries clock => exact ⟨⟨.stopped, limit ▸ clock⟩, fun _ => retries⟩
  | offers _ answers => exact ⟨limit ▸ answers.clock, answers.afresh⟩

/-- The timer of a waiting frame that was offered runs from its last offer. -/
theorem Paced.running (paced : Paced cycles since .waiting state) (clock : Clock timer state)
    (waits : state.1.phase = .waitForFrame ∨ state.1.phase = .waitForRetry) :
    tries since = [] ∨ state.1.phase = .waitForRetry ∧ timer = Timer.after cycles (waited since) := by
  rcases waits with idle | again
  · left
    rw [← List.length_eq_zero_iff, ← paced.counted rfl]
    exact paced.afresh idle
  · right
    exact ⟨again, Option.some.inj (clock.symm.trans (paced.clocked rfl again))⟩

theorem Paced.serves (paced : Paced cycles since progress state) (clock : Clock timer state)
    (waits : progress = .waiting → state.1.phase = .waitForFrame ∨ state.1.phase = .waitForRetry)
    (serves : Serves timer state.1 offers result left)
    (turn : Turn channel payload progress (.processed offers result) next) :
    Step cycles channel payload since progress (.processed offers result left.1.phase) next ∧
      Paced cycles (since ++ [.processed offers result left.1.phase]) next left := by
  have primed := paced.toPrimed.serves clock serves
  by_cases waiting : progress = .waiting
  · subst waiting
    cases serves with
    | rests phase retries running early =>
      have early : tries since = [] ∨ waited since < cycles := by
        refine (paced.running clock (waits rfl)).imp_right fun ⟨again, runs⟩ => Nat.lt_of_not_le ?_
        exact fun late => early again (runs ▸ Timer.phase_after late)
      have quiet : (Event.processed [] result left.1.phase).offers = [] := rfl
      refine ⟨.waiting turn ⟨fun _ => early, absurd rfl, nofun⟩, primed, fun _ => ?_,
        fun _ again => ?_⟩
      · rw [retries, paced.counted rfl, tries_append, tries_singleton, quiet, List.append_nil]
      · rw [waited_quiet quiet nofun]
        cases clock.symm.trans (paced.clocked rfl (phase ▸ again))
        exact running
    | completes sent =>
      rw [sent] at waits
      exact absurd (waits rfl) (by simp)
    | @offers offer _ _ due answers =>
      have due : tries since = [] ∨ cycles ≤ waited since := by
        refine (paced.running clock (waits rfl)).imp_right fun ⟨again, runs⟩ => ?_
        exact Timer.expired_iff.mp (runs ▸ due again)
      have answered : (result, left.1.phase) = verdict (tries since).length offer.answer :=
        paced.counted rfl ▸ answers.verdict
      have offered : (Event.processed [offer] result left.1.phase).offers ≠ [] := List.cons_ne_nil _ _
      have step : Step cycles channel payload since .waiting (.processed [offer] result left.1.phase)
          next := by
        refine .waiting turn ⟨nofun, fun _ => due, fun other member => ?_⟩
        rw [List.mem_singleton.mp member]
        exact answered
      refine ⟨step, primed, fun waiting => ?_, fun _ again => ?_⟩
      · obtain ⟨_, _, _, _, same, _, _, again⟩ := step.offered offered
        cases same
        obtain ⟨pending, few⟩ := again.mp waiting
        rw [pending, verdict, if_pos few] at answered
        rw [(answers.again (congrArg Prod.snd answered)).1, paced.counted rfl, tries_append, tries_singleton,
          List.length_append]
        rfl
      · rw [waited_offered offered, ← paced.toPrimed.limit clock]
        exact (answers.again again).2
  · obtain ⟨_, decided⟩ := turn.quiet waiting
    exact ⟨.decided waiting turn, primed, fun again => absurd again decided,
      fun again => absurd again decided⟩

theorem Primed.tick {pool : TimerPool} (primed : Primed cycles state)
    (ticked : state.2.tick state.1.timer = .ok pool) : Primed cycles (state.1, pool) := by
  obtain ⟨phase, clock⟩ := primed.clock
  have found : Clock (Timer.mk cycles phase).tick (state.1, pool) := TimerPool.get?_of_update ticked clock
  refine ⟨⟨(Timer.mk cycles phase).tick.phase, ?_⟩, primed.afresh⟩
  have limit : (Timer.mk cycles phase).tick.limit = cycles := Timer.limit_tick _
  generalize (Timer.mk cycles phase).tick = timer at found limit
  subst limit
  exact found

theorem Paced.tick {pool : TimerPool} (paced : Paced cycles since progress state)
    (ticked : state.2.tick state.1.timer = .ok pool) :
    Paced cycles (since ++ [.ticked]) progress (state.1, pool) := by
  refine ⟨paced.toPrimed.tick ticked, fun waiting => ?_, fun waiting again => ?_⟩
  · rw [tries_append, tries_singleton]
    exact (paced.counted waiting).trans (congrArg List.length (List.append_nil _).symm)
  · rw [waited_ticked]
    exact TimerPool.get?_of_tick ticked (paced.clocked waiting again)

end Consumer

/-- The two ends, with what happened. -/
structure Watch where
  system : System
  events : List Event

namespace Watch

def call (surroundings : Surroundings) (watch : Watch) (call : Call) : Watch :=
  let system := watch.system.call surroundings call
  ⟨system, watch.events ++
    match call with
    | .tick => [.ticked]
    | _ => (system.log.drop watch.system.log.length).map (.of system.consumer.1.phase)⟩

def after (surroundings : Surroundings) (watch : Watch) (calls : List Call) : Watch :=
  calls.foldl (call surroundings) watch

end Watch

/-- What happened to the frames, one after the other. Before the first post nothing is offered. -/
def Retrying (cycles : Nat) (channel : UInt8) (events : List Event) : Prop :=
  ∃ (idle : List Event) (frames : List (Bytes × List Event)),
    events = idle ++ frames.flatMap (fun frame => .posted frame.1 :: frame.2) ∧
    (tries idle = [] ∧ ∀ payload, .posted payload ∉ idle) ∧
    ∀ frame ∈ frames, Retried cycles channel frame.1 frame.2

/-- What is told of the frame posted last agrees with the consumer. -/
def Recounts (cycles : Nat) (channel : UInt8) (state : Consumer.State) (events : List Event) :
    Position → Prop
  | none => (tries events = [] ∧ ∀ payload, .posted payload ∉ events) ∧ Consumer.Primed cycles state
  | some (payload, progress) => ∃ past since, events = past ++ .posted payload :: since ∧
    Retrying cycles channel past ∧ Course cycles channel payload since progress ∧
    Consumer.Paced cycles since progress state

variable {d : Descriptor} {cycles : Nat} {channel : UInt8} {state left : Consumer.State}
  {events : List Event} {position next : Position} {count : Nat} {system : System} {watch : Watch}
  {surroundings : Surroundings}

theorem Retrying.post {past since : List Event} {payload : Bytes} (retrying : Retrying cycles channel past)
    (retried : Retried cycles channel payload since) :
    Retrying cycles channel (past ++ .posted payload :: since) := by
  obtain ⟨idle, frames, rfl, quiet, all⟩ := retrying
  refine ⟨idle, frames ++ [(payload, since)], ?_, quiet, ?_⟩
  · simp only [List.flatMap_append, List.flatMap_cons, List.flatMap_nil, List.append_nil, List.append_assoc]
  · exact List.forall_mem_append.mpr ⟨all, List.forall_mem_singleton.mpr retried⟩

namespace Recounts

theorem retrying (recounts : Recounts cycles channel state events position) :
    Retrying cycles channel events := by
  match position with
  | none => exact ⟨events, [], (List.append_nil _).symm, recounts.1, nofun⟩
  | some (payload, progress) =>
    obtain ⟨past, since, rfl, past, course, _⟩ := recounts
    exact past.post course.retried

theorem primed (recounts : Recounts cycles channel state events position) :
    Consumer.Primed cycles state := by
  match position with
  | none => exact recounts.2
  | some (payload, progress) =>
    obtain ⟨_, _, _, _, _, paced⟩ := recounts
    exact paced.toPrimed

theorem post (recounts : Recounts cycles channel state events position)
    (idle : state.1.phase = .waitForFrame) (payload : Bytes) :
    Recounts cycles channel state (events ++ [.posted payload]) (some (payload, .waiting)) := by
  refine ⟨events, [], rfl, recounts.retrying, .posted, recounts.primed, ?_, ?_⟩
  · exact fun _ => recounts.primed.afresh idle
  · intro _ waits
    rw [idle] at waits
    contradiction

theorem step {payload : Bytes} {before after : Progress} {event : Event}
    (recounts : Recounts cycles channel state events (some (payload, before)))
    (steps : ∀ since, Consumer.Paced cycles since before state →
      Step cycles channel payload since before event after ∧
        Consumer.Paced cycles (since ++ [event]) after left) :
    Recounts cycles channel left (events ++ [event]) (some (payload, after)) := by
  obtain ⟨past, since, rfl, past, course, paced⟩ := recounts
  obtain ⟨step, paced⟩ := steps since paced
  exact ⟨_, _, List.append_assoc _ _ _, past, course.step step, paced⟩

theorem tick {pool : TimerPool} (recounts : Recounts cycles channel state events position)
    (ticked : state.2.tick state.1.timer = .ok pool) :
    Recounts cycles channel (state.1, pool) (events ++ [.ticked]) position := by
  match position with
  | none =>
    obtain ⟨⟨quiet, unposted⟩, primed⟩ := recounts
    refine ⟨⟨?_, ?_⟩, primed.tick ticked⟩
    · rw [tries_append, quiet]
      rfl
    · exact fun payload member => (List.mem_append.mp member).elim (unposted payload) (by simp)
  | some (payload, progress) => exact recounts.step fun since paced => ⟨.ticked, paced.tick ticked⟩

theorem finish {consumer : Consumer} (recounts : Recounts cycles channel state events position)
    (finished : state.1.finish = .ok consumer) (moves : Moves channel position .finished next)
    (left : Phase) :
    Recounts cycles channel (consumer, state.2) (events ++ [.of left .finished]) next := by
  cases moves with
  | turn turn =>
    cases turn
    refine recounts.step fun since paced => ⟨.decided nofun .finish, ?_⟩
    unfold Consumer.finish at finished
    split at finished
    · cases finished
      exact ⟨⟨paced.clock, nofun⟩, nofun, nofun⟩
    · contradiction

theorem serves {timer : Timer} {offers : List Offer} {result : Except Fault Unit} {memory : SharedMemory}
    (recounts : Recounts cycles channel state events position)
    (stands : Consumer.At d channel state.1 memory count position)
    (clock : Consumer.Clock timer state) (serves : Consumer.Serves timer state.1 offers result left)
    (moves : Moves channel position (.processed offers result) next) :
    Recounts cycles channel left (events ++ [.of left.1.phase (.processed offers result)]) next := by
  cases moves with
  | idle =>
    obtain ⟨⟨quiet, unposted⟩, primed⟩ := recounts
    refine ⟨⟨?_, ?_⟩, primed.serves clock serves⟩
    · rw [tries_append, quiet]
      rfl
    · exact fun payload member => (List.mem_append.mp member).elim (unposted payload) (by simp [Event.of])
  | turn turn =>
    refine recounts.step fun since paced => paced.serves clock ?_ serves turn
    rintro rfl
    exact stands.waits

end Recounts

/-- What holds between two calls. -/
structure Watch.Sound (d : Descriptor) (cycles : Nat) (channel : UInt8) (watch : Watch) (count : Nat)
    (position : Position) : Prop where
  sound : watch.system.Sound d channel count position
  recounts : Recounts cycles channel watch.system.consumer watch.events position

theorem System.post_log (system : System) (payload : Bytes) :
    (system.post surroundings payload).log = system.log ∨
      (system.post surroundings payload).log = system.log ++ [.posted payload] := by
  unfold System.post
  simp only
  split
  · exact .inr rfl
  · exact .inl (List.append_nil _)

theorem System.finish_eq (system : System) : system.finish = system ∨
    ∃ consumer, system.consumer.1.finish = .ok consumer ∧ system.finish =
      { system with consumer := (consumer, system.consumer.2), log := system.log ++ [.finished] } := by
  unfold System.finish
  split
  · exact .inl rfl
  · exact .inr ⟨_, ‹_›, rfl⟩

theorem System.process_serves {timer : Timer} (clock : Consumer.Clock timer system.consumer)
    (moving : ¬ system.consumer.1.Stuck) :
    ∃ offers result,
      (system.process surroundings).log = system.log ++ [.processed offers result] ∧
      (Consumer.Serves timer system.consumer.1 offers result (system.process surroundings).consumer ∨
        (system.process surroundings).consumer.1.Stuck) := by
  have ended := (Consumer.process_serves system.world clock moving).run surroundings
  unfold System.process
  generalize Consumer.process.run surroundings.onHost system.consumer system.world = outcome at ended
  obtain ⟨⟨result, left⟩, world⟩ := outcome
  have served : Consumer.Served timer system.consumer.1 system.world.events result left world := by
    cases result <;> exact ended
  obtain ⟨more, events, serves⟩ := served
  have asked : world.events.drop system.world.events.length = more := by
    rw [events, List.drop_left]
  simp only [asked]
  exact ⟨_, _, rfl, serves⟩

theorem Watch.call_events {seen : List Sight} {call : Call} (counts : call ≠ .tick)
    (log : (watch.system.call surroundings call).log = watch.system.log ++ seen) :
    (watch.call surroundings call).events =
      watch.events ++ seen.map (.of (watch.system.call surroundings call).consumer.1.phase) := by
  have news : (watch.system.call surroundings call).log.drop watch.system.log.length = seen := by
    rw [log, List.drop_left]
  unfold Watch.call
  cases call with
  | tick => contradiction
  | post | process | finish => simp only [news]

/-- A call other than a tick leaves what happened as it was, or adds to it what is seen next. -/
theorem Watch.Sound.adds {call : Call} (counts : call ≠ .tick)
    (recounts : Recounts cycles channel watch.system.consumer watch.events position)
    (leads : System.Leads d channel watch.system position (watch.system.call surroundings call))
    (same : (watch.system.call surroundings call).log = watch.system.log →
      (watch.system.call surroundings call).consumer = watch.system.consumer)
    (adds : ∀ sight count next, (watch.system.call surroundings call).log = watch.system.log ++ [sight] →
      Moves channel position sight next →
      (watch.system.call surroundings call).Sound d channel count next →
        Recounts cycles channel (watch.system.call surroundings call).consumer
          (watch.events ++ [.of (watch.system.call surroundings call).consumer.1.phase sight]) next) :
    ∃ count position, (watch.call surroundings call).Sound d cycles channel count position := by
  rcases leads with ⟨log, count, sound⟩ | ⟨sight, count, next, log, moves, sound⟩
  · refine ⟨count, position, sound, ?_⟩
    have events := Watch.call_events counts (log.trans (List.append_nil _).symm)
    rw [events, List.map_nil, List.append_nil]
    exact (same log).symm ▸ recounts
  · refine ⟨count, next, sound, ?_⟩
    rw [Watch.call_events counts log]
    exact adds sight count next log moves sound

theorem Watch.Sound.post (faultless : ¬ surroundings.Faulty)
    (sound : watch.Sound d cycles channel count position) (payload : Bytes) :
    ∃ count position, (watch.call surroundings (.post payload)).Sound d cycles channel count position := by
  obtain ⟨sound, recounts⟩ := sound
  refine Watch.Sound.adds nofun recounts (call_leads faultless sound _) (fun _ => rfl)
    fun sight _ next log moves _ => ?_
  rcases watch.system.post_log payload with same | posted
  · exact absurd (same.symm.trans log) (by simp)
  · cases List.singleton_inj.mp (List.append_cancel_left (posted.symm.trans log))
    cases moves with
    | turn turn => cases turn
    | post closed => exact recounts.post (sound.stands.rested closed) payload

theorem Watch.Sound.process (faultless : ¬ surroundings.Faulty)
    (sound : watch.Sound d cycles channel count position) :
    ∃ count position, (watch.call surroundings .process).Sound d cycles channel count position := by
  obtain ⟨sound, recounts⟩ := sound
  obtain ⟨phase, clock⟩ := recounts.primed.clock
  obtain ⟨offers, result, seen, serves⟩ := System.process_serves clock sound.stands.moving
  refine Watch.Sound.adds nofun recounts (call_leads faultless sound _) (fun same => ?_)
    fun sight _ next log moves later => ?_
  · exact absurd (same.symm.trans seen) (by simp)
  · cases List.singleton_inj.mp (List.append_cancel_left (seen.symm.trans log))
    exact recounts.serves sound.stands clock (serves.resolve_right later.stands.moving) moves

theorem Watch.Sound.finish (faultless : ¬ surroundings.Faulty)
    (sound : watch.Sound d cycles channel count position) :
    ∃ count position, (watch.call surroundings .finish).Sound d cycles channel count position := by
  obtain ⟨sound, recounts⟩ := sound
  rcases watch.system.finish_eq with same | ⟨consumer, finished, called⟩
  · refine Watch.Sound.adds nofun recounts (call_leads faultless sound _) (fun _ => ?_)
      fun sight _ next log _ _ => ?_
    · exact congrArg System.consumer same
    · exact absurd ((congrArg System.log same).symm.trans log) (by simp)
  · refine Watch.Sound.adds nofun recounts (call_leads faultless sound _) (fun same => ?_)
      fun sight _ next log moves _ => ?_
    · exact absurd ((congrArg System.log called).symm.trans same) (by simp)
    · cases List.singleton_inj.mp (List.append_cancel_left ((congrArg System.log called).symm.trans log))
      have left : (watch.system.call surroundings .finish).consumer = (consumer, watch.system.consumer.2) :=
        congrArg System.consumer called
      rw [left]
      exact recounts.finish finished moves _

theorem Watch.Sound.tick (faultless : ¬ surroundings.Faulty)
    (sound : watch.Sound d cycles channel count position) :
    ∃ count position, (watch.call surroundings .tick).Sound d cycles channel count position := by
  obtain ⟨sound, recounts⟩ := sound
  obtain ⟨pool, ticked, _⟩ := sound.live.tick
  have called : watch.system.call surroundings .tick =
      { watch.system with consumer := (watch.system.consumer.1, pool) } := by
    simp only [System.call, System.tick, Consumer.tick, Action.run_onTimer _ _ ticked]
  rcases call_leads faultless sound .tick with ⟨_, count, sound⟩ | ⟨_, _, _, log, _⟩
  · refine ⟨count, position, sound, ?_⟩
    unfold Watch.call
    rw [called]
    exact recounts.tick ticked
  · exact absurd ((congrArg System.log called).symm.trans log) (by simp)

theorem Watch.Sound.call (faultless : ¬ surroundings.Faulty)
    (sound : watch.Sound d cycles channel count position) : (call : Call) →
      ∃ count position, (watch.call surroundings call).Sound d cycles channel count position
  | .post payload => sound.post faultless payload
  | .process => sound.process faultless
  | .finish => sound.finish faultless
  | .tick => sound.tick faultless

theorem Watch.after_sound (faultless : ¬ surroundings.Faulty)
    (sound : watch.Sound d cycles channel count position) (calls : List Call) :
    ∃ count position, (watch.after surroundings calls).Sound d cycles channel count position := by
  induction calls generalizing watch count position with
  | nil => exact ⟨count, position, sound⟩
  | cons call rest ih =>
    obtain ⟨_, _, sound⟩ := sound.call faultless call
    exact ih sound

theorem Consumer.new_primed {buffer : TripleBuffer} {pool : TimerPool}
    (made : Consumer.new buffer cycles pool = .ok state) : Consumer.Primed cycles state := by
  unfold Consumer.new at made
  cases received : Channel.Receiver.new buffer with
  | error error =>
    rw [received] at made
    contradiction
  | ok receiver =>
    rw [received] at made
    cases created : pool.create cycles with
    | error error =>
      rw [created] at made
      contradiction
    | ok place =>
      rw [created] at made
      cases made
      exact ⟨⟨_, TimerPool.get?_of_create created⟩, fun _ => rfl⟩

theorem setUp_primed {owner : Role} {pool : TimerPool} {memory : SharedMemory}
    (made : System.setUp owner d channel cycles pool memory = .ok system) :
    Consumer.Primed cycles system.consumer := by
  unfold System.setUp at made
  split at made
  · contradiction
  split at made
  · rename_i consumed
    cases made
    exact Consumer.new_primed consumed
  · contradiction
  · contradiction

/-- Each frame is offered again when it is time and at most so many times, whatever was done for the frames
before it. -/
theorem frames_retried_in_time {owner : Role} {pool : TimerPool} {memory : SharedMemory}
    (made : System.setUp owner d channel cycles pool memory = .ok system)
    (faultless : ¬ surroundings.Faulty) (calls : List Call) :
    Retrying cycles channel (Watch.after surroundings ⟨system, []⟩ calls).events := by
  have sound : Watch.Sound d cycles channel ⟨system, []⟩ 0 none :=
    ⟨setUp_sound made, ⟨rfl, nofun⟩, setUp_primed made⟩
  obtain ⟨_, _, sound⟩ := Watch.after_sound faultless sound calls
  exact sound.recounts.retrying

/-- A network that does not find the peer of the first frame. -/
def searching : Nat → (request : Host.Request) → Host.Answer request
  | 0, .transmit _ _ | 1, .transmit _ _ | 2, .transmit _ _ | 3, .transmit _ _ => .ok .addressPending
  | _, request => Surroundings.plainAnswer request

/-- A frame that is dropped at its fourth offer, and one that is found to have all offers left. -/
theorem frames_retried_in_time_searching :
    let surroundings : Surroundings := ⟨fun _ => false, searching⟩
    let again : List Call := [.process, .tick, .tick]
    let calls : List Call := [.post [10]] ++ again ++ again ++ again ++ [.process, .post [20], .process]
    ∃ system, System.setUp .consumer ⟨.ssdoTransmit, 0, 16⟩ 2 2 .empty (.zeroed 0 25) = .ok system ∧
      (Watch.after surroundings ⟨system, []⟩ calls).events =
        [.posted [10],
          .processed [⟨2, [10], .ok .addressPending⟩] (.error .busy) .waitForRetry, .ticked, .ticked,
          .processed [⟨2, [10], .ok .addressPending⟩] (.error .busy) .waitForRetry, .ticked, .ticked,
          .processed [⟨2, [10], .ok .addressPending⟩] (.error .busy) .waitForRetry, .ticked, .ticked,
          .processed [⟨2, [10], .ok .addressPending⟩] (.error (.error .transport)) .waitForFrame,
          .posted [20], .processed [⟨2, [20], .ok .queued⟩] (.ok ()) .waitUntilSent] ∧
      Retrying 2 2 (Watch.after surroundings ⟨system, []⟩ calls).events :=
  ⟨_, rfl, by decide +kernel, @frames_retried_in_time ⟨.ssdoTransmit, 0, 16⟩ 2 2 _ _ .consumer .empty
    (.zeroed 0 25) rfl (fun ⟨_, fails⟩ => Bool.false_ne_true fails) _⟩

end NodeLink.Ssdo.Outbound

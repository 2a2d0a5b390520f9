import NodeLink.Proofs.Ssdo.InboundAdmission

/-! Progress of frames to the application. In a run by whole calls in which no access fails, neither end
ever waits for the other for good: as long as both are called in turn, each round brings the producing
end one step nearer to an empty queue, whatever was pending and whatever the network had asked for. -/
namespace NodeLink.Ssdo.Inbound

open Channel (headerSize)
open Channel.Sender (Oversize)

variable {d : Descriptor} {memory : SharedMemory} {published further : List Bytes} {acked : Sequence}
  {surroundings : Surroundings}

namespace Producer

variable {before left : Producer}

/-- How many queued frames were not posted yet. -/
def unposted (producer : Producer) : Nat :=
  match producer.pending with
  | .head _ => producer.queue.tail.size
  | _ => producer.queue.size

/-- How many more calls of `process` it takes until nothing is queued or asked for, when each message is
acknowledged before the next call. -/
def outstanding (producer : Producer) : Nat :=
  2 * producer.unposted + (if producer.repostRequested then 2 else 0) +
    match producer.phase with
    | .waitForFrame => 0
    | .waitForAcknowledge => 1
    | .repostFrame => 2

theorem unposted_of_other (other : ∀ number, before.pending ≠ .head number) :
    before.unposted = before.queue.size := by
  unfold unposted
  split
  · rename_i number head
    exact absurd head (other number)
  · rfl

theorem size_of_head {frame : QueuedFrame} (queued : before.queue.head? = some frame) :
    before.queue.size = before.queue.tail.size + 1 := by
  have some : 0 < before.queue.toList.length :=
    List.length_pos_of_mem (List.mem_of_mem_head? queued)
  rw [Queue.size, Queue.size, Queue.toList_tail, List.length_tail]
  omega

theorem unposted_le (producer : Producer) : producer.unposted ≤ producer.queue.size := by
  unfold unposted
  split
  · rw [Queue.size, Queue.toList_tail, List.length_tail]
    exact Nat.sub_le _ _
  · exact Nat.le_refl _

theorem Steady.unposted (steady : before.Steady d) (free : before.phase ≠ .waitForAcknowledge) :
    before.unposted = before.queue.size :=
  unposted_of_other fun _ head => free (steady.awaits.mpr (head ▸ nofun))

/-- Messages are only added. -/
theorem Does.extends (does : Does d acked before published left further) :
    further = published ∨ ∃ message, further = published ++ [message] := by
  cases does with
  | rests | waits | settles | closes => exact .inl rfl
  | posts | rewrites | repeats => exact .inr ⟨_, rfl⟩

/-- A call brings the end one step on if the latest message was acknowledged, and takes it no step back
if it was not. -/
theorem Does.outstanding (does : Does d acked before published left further) (steady : before.Steady d)
    (fits : ∀ frame ∈ before.queue.toList, ¬ Oversize d frame.payload)
    (free : before.phase ≠ .waitForAcknowledge → Sequence.ofCount published.length = acked)
    (still : before.phase = .waitForAcknowledge → Sequence.ofCount published.length = acked →
      further = published) :
    left.outstanding =
      before.outstanding - if Sequence.ofCount published.length = acked then 1 else 0 := by
  cases does with
  | rests idle unasked blocked =>
    have ready := free (idle ▸ nofun)
    have none : before.queue.toList = [] := by
      refine List.head?_eq_none_iff.mp (Option.eq_none_iff_forall_ne_some.mpr fun frame queued => ?_)
      rcases blocked frame queued with unready | large
      · exact unready ready
      · exact fits frame (List.mem_of_mem_head? queued) large
    have empty : before.queue.size = 0 := congrArg List.length none
    simp only [Producer.outstanding, steady.unposted (idle ▸ nofun), idle, unasked, empty,
      if_pos ready]
    rfl
  | waits busy unready | rewrites number frame busy unready =>
    rw [if_neg unready, Nat.sub_zero]
  | posts frame idle unasked queued ready =>
    have longer := size_of_head queued
    simp only [Producer.outstanding, steady.unposted (idle ▸ nofun), idle, unasked, if_pos ready,
      longer]
    rfl
  | repeats number frame requested other asked busy kept =>
    have same : Producer.unposted { before with
        repostRequested := requested, pending := .acknowledged, phase := .waitForAcknowledge } =
        before.unposted := (unposted_of_other other).symm
    cases phase : before.phase with
    | waitForFrame =>
      obtain ⟨was, rfl⟩ := asked phase
      simp only [Producer.outstanding, same, phase, was, if_pos (free (phase ▸ nofun))]
      rfl
    | repostFrame =>
      obtain rfl := busy (phase ▸ nofun)
      simp only [Producer.outstanding, same, phase, if_pos (free (phase ▸ nofun))]
      rfl
    | waitForAcknowledge =>
      obtain rfl := busy (phase ▸ nofun)
      have unready : Sequence.ofCount published.length ≠ acked := by
        intro ready
        have length := congrArg List.length (still phase ready)
        rw [List.length_append] at length
        exact absurd length (Nat.succ_ne_self _)
      rw [if_neg unready, Nat.sub_zero]
      simp only [Producer.outstanding, same, phase]
  | settles number frame busy ready head queued =>
    have same : Producer.unposted { before with
        queue := before.queue.tail, acknowledged := some (number, frame), pending := .nothing
        phase := .waitForFrame } = before.unposted := by
      simp only [Producer.unposted, head]
    simp only [Producer.outstanding, same, busy, if_pos ready]
    rfl
  | closes busy ready again =>
    have same : Producer.unposted { before with pending := .nothing, phase := .waitForFrame } =
        before.unposted := by
      simp only [Producer.unposted, again]
    simp only [Producer.outstanding, same, busy, if_pos ready]
    rfl

/-- An end that does not wait for an acknowledge has none to come. -/
theorem Does.free (does : Does d acked before published left further)
    (free : before.phase ≠ .waitForAcknowledge → Sequence.ofCount published.length = acked)
    (still : left.phase ≠ .waitForAcknowledge) : Sequence.ofCount further.length = acked := by
  cases does with
  | rests => exact free still
  | waits busy | rewrites _ _ busy => exact absurd busy still
  | posts | repeats => contradiction
  | settles _ _ _ ready | closes _ ready => exact ready

theorem outstanding_le (producer : Producer) : producer.outstanding ≤
    2 * producer.queue.size + if producer.phase = .waitForAcknowledge then 3 else 4 := by
  have frames := producer.unposted_le
  have asked : (if producer.repostRequested then 2 else 0) ≤ 2 := by
    split <;> decide
  unfold outstanding
  generalize (if producer.repostRequested then 2 else 0) = again at asked ⊢
  cases producer.phase with
  | waitForFrame | repostFrame =>
    simp only [reduceCtorEq, if_false]
    omega
  | waitForAcknowledge =>
    simp only [if_true]
    omega

/-- Where no step is outstanding, the end waits for a frame of the network. -/
theorem Steady.rest (steady : before.Steady d) (none : before.outstanding = 0) :
    before.phase = .waitForFrame ∧ before.queue.toList = [] := by
  unfold Producer.outstanding at none
  cases phase : before.phase with
  | waitForFrame =>
    have all := steady.unposted (phase ▸ nofun)
    refine ⟨rfl, List.length_eq_zero_iff.mp ?_⟩
    change before.queue.size = 0
    omega
  | waitForAcknowledge | repostFrame =>
    rw [phase] at none
    contradiction

end Producer

namespace System

variable {system : System} {settled posted taken : Nat}

/-- The number in the consuming end's word. -/
def acknowledged (system : System) : Sequence :=
  match system.world.memory.load
      (system.producer.1.sender.buffer.base + Layout.consumerOffset) with
  | .ok word => (ControlWord.ofWord word).seq
  | .error _ => 0

/-- How many rounds of both ends it takes until nothing is queued or asked for. -/
def outstanding (system : System) : Nat :=
  system.producer.1.outstanding + if system.latest = system.acknowledged then 0 else 1

theorem acknowledged_eq (producing : system.producer.1.sender.buffer.Produces d)
    (carries : d.Carries system.world.memory published acked) : system.acknowledged = acked := by
  obtain ⟨_, _, shows⟩ := carries
  have base : system.producer.1.sender.buffer.base = d.base := congrArg Descriptor.base producing.region
  have word := shows.consumer
  unfold System.acknowledged
  rw [Descriptor.consumerAddress, ← base] at word
  rw [word]
  simp only [ControlWord.ofWord_toWord]

/-- What holds between two whole calls if no access fails: the number acknowledged is the one seen last,
and while the producing end waits for no acknowledge there is none to come. -/
structure Level (d : Descriptor) (system : System) : Prop where
  stands : system.Stands d
  idle : system.stage = .idle
  seen : system.acknowledged = system.lastSeen
  blank : system.latest = 0 → system.acknowledged = 0
  free : system.producer.1.phase ≠ .waitForAcknowledge → system.latest = system.acknowledged
  admitted : ∀ frame ∈ system.accepted, frame.payload.length ≤ maxPayload

/-- The numbers in both words are those of what the buffer shows. -/
theorem numbers_eq (producing : system.producer.1.sender.buffer.Produces d)
    (carries : d.Carries system.world.memory published acked) :
    system.latest = .ofCount published.length ∧ system.acknowledged = acked :=
  ⟨Ledger.latest_eq producing carries, acknowledged_eq producing carries⟩

/-- Where nothing is written to the memory, the numbers stay. -/
theorem Stands.numbers {next : System} (stands : system.Stands d) (after : next.Stands d)
    (same : next.world = system.world) :
    next.latest = system.latest ∧ next.acknowledged = system.acknowledged := by
  obtain ⟨_, _, _, sound⟩ := stands.sound
  obtain ⟨_, _, _, later⟩ := after.sound
  obtain ⟨_, _, carries, _⟩ := sound.between.shown
  obtain ⟨latest, acknowledged⟩ := numbers_eq sound.producer.producing carries
  obtain ⟨latest', acknowledged'⟩ := numbers_eq later.producer.producing (same ▸ carries)
  exact ⟨latest'.trans latest.symm, acknowledged'.trans acknowledged.symm⟩

theorem accept_phase (system : System) (arrival : Arrival)
    (free : (system.accept arrival).producer.1.phase ≠ .waitForAcknowledge) :
    system.producer.1.phase ≠ .waitForAcknowledge := by
  rcases system.accept_producer arrival with same | accepts
  · exact same ▸ free
  · intro busy
    generalize (system.accept arrival).producer.1 = left at accepts free
    cases accepts with
    | ignores => exact free busy
    | notes =>
      refine free ?_
      rw [Producer.requestRepost, if_neg (busy ▸ nofun)]
      exact busy
    | enqueues => exact free busy

theorem Level.accept (level : system.Level d) (faultless : ¬ surroundings.Faulty)
    (arrival : Arrival) : (system.call surroundings (.accept arrival)).Level d := by
  have stands := level.stands.step faultless (.call (.accept arrival))
  have same : (system.accept arrival).world = system.world ∧
      (system.accept arrival).consumer = system.consumer ∧
      (system.accept arrival).stage = system.stage := by
    unfold System.accept
    split <;> exact ⟨rfl, rfl, rfl⟩
  obtain ⟨latest, acknowledged⟩ := level.stands.numbers stands same.1
  have seen : (system.step surroundings (.call (.accept arrival))).lastSeen = system.lastSeen :=
    congrArg (·.receiver.buffer.lastSeen) same.2.1
  refine ⟨stands, same.2.2.trans level.idle, ?_, ?_, fun free => ?_,
    step_admitted surroundings (.call (.accept arrival)) level.admitted⟩
  · exact acknowledged.trans (level.seen.trans seen.symm)
  · intro none
    exact acknowledged.trans (level.blank (latest.symm.trans none))
  · exact latest.trans ((level.free (system.accept_phase arrival free)).trans acknowledged.symm)

theorem Level.tick (level : system.Level d) (faultless : ¬ surroundings.Faulty) :
    (system.call surroundings .tick).Level d := by
  obtain ⟨_, _, _, sound⟩ := level.stands.sound
  obtain ⟨pool, _, _, called⟩ := system.call_tick surroundings sound.producer.live
  have stands := level.stands.step faultless (.call .tick)
  have admitted := step_admitted surroundings (.call .tick) level.admitted
  simp only [System.step, called] at stands admitted ⊢
  obtain ⟨latest, acknowledged⟩ := level.stands.numbers stands rfl
  exact ⟨stands, level.idle, acknowledged.trans level.seen,
    fun none => acknowledged.trans (level.blank (latest.symm.trans none)),
    fun free => latest.trans ((level.free free).trans acknowledged.symm), admitted⟩

/-- A call after an acknowledge writes nothing. -/
theorem Stands.settles (stands : system.Stands d) (faultless : ¬ surroundings.Faulty)
    (busy : system.producer.1.phase = .waitForAcknowledge)
    (ready : system.latest = system.acknowledged) :
    (system.call surroundings .process).latest = system.latest := by
  obtain ⟨_, _, _, sound⟩ := stands.sound
  obtain ⟨published, acked, carries, _⟩ := sound.between.shown
  obtain ⟨latest, acknowledged⟩ := numbers_eq sound.producer.producing carries
  have settles := Producer.process_settles sound.producer carries busy
    (latest.symm.trans (ready.trans acknowledged))
  obtain ⟨result, left, world, called, ends⟩ :=
    system.produce_ends surroundings Producer.process
  have called : system.call surroundings .process = _ := called
  cases result with
  | error fault => exact (ends (settles.of_faultless faultless)).1.elim
  | ok value =>
    obtain ⟨producer, carries⟩ := (ends (settles.of_faultless faultless)).1
    rw [called, latest]
    exact Ledger.latest_eq producer.producing carries

theorem Level.process (level : system.Level d) (faultless : ¬ surroundings.Faulty)
    (large : headerSize + maxPayload ≤ d.size) :
    let next := system.call surroundings .process
    next.Level d ∧ next.producer.1.outstanding = system.outstanding - 1 := by
  intro next
  have stands : next.Stands d := level.stands.step faultless (.call .process)
  obtain ⟨_, _, _, sound⟩ := level.stands.sound
  obtain ⟨_, _, _, later⟩ := stands.sound
  obtain ⟨published, acked, left, world, further, called, carries, does, after⟩ :=
    level.stands.process faultless
  have called : next = { system with producer := left, world } := called
  obtain ⟨latest, acknowledged⟩ := numbers_eq sound.producer.producing carries
  have numbers : next.latest = .ofCount further.length ∧ next.acknowledged = acked :=
    numbers_eq later.producer.producing (by rwa [called])
  have free : system.producer.1.phase ≠ .waitForAcknowledge →
      Sequence.ofCount published.length = acked :=
    fun free => latest.symm.trans ((level.free free).trans acknowledged)
  constructor
  · refine ⟨stands, ?_, ?_, fun none => ?_, fun still => ?_,
      step_admitted surroundings (.call .process) level.admitted⟩
    · rw [called]
      exact level.idle
    · have seen : next.lastSeen = system.lastSeen := by
        rw [called]
        rfl
      rw [numbers.2, ← acknowledged, level.seen, seen]
    · rw [numbers.1, Sequence.ofCount_eq_zero_iff] at none
      have unwritten : published.length = 0 := by
        rcases does.extends with same | ⟨_, same⟩
        · rw [← same, none]
        · rw [same, List.length_append] at none
          exact (Nat.add_eq_zero_iff.mp none).1
      rw [numbers.2, ← acknowledged]
      exact level.blank (latest.trans ((Sequence.ofCount_eq_zero_iff _).mpr unwritten))
    · rw [numbers.1, numbers.2]
      rw [called] at still
      exact does.free free still
  · have fits : ∀ frame ∈ system.producer.1.queue.toList, ¬ Oversize d frame.payload := by
      intro frame queued
      rw [sound.producer.queue] at queued
      have short := level.admitted frame (List.mem_of_mem_drop queued)
      rw [oversize_iff short]
      omega
    have still : system.producer.1.phase = .waitForAcknowledge →
        Sequence.ofCount published.length = acked → further = published := by
      intro busy ready
      have unwritten : next.latest = system.latest :=
        level.stands.settles faultless busy (latest.trans (ready.trans acknowledged.symm))
      rw [numbers.1, latest] at unwritten
      refine does.extends.resolve_right fun ⟨_, same⟩ => ?_
      rw [same, List.length_append] at unwritten
      exact Sequence.ofCount_succ_ne _ unwritten
    have steps := does.outstanding level.stands.steady fits free still
    rw [called, outstanding, latest, acknowledged, steps]
    by_cases ready : Sequence.ofCount published.length = acked
    · rw [if_pos ready, if_pos ready, Nat.add_zero]
    · rw [if_neg ready, if_neg ready, Nat.sub_zero, Nat.add_sub_cancel]

/-- After a call of the application's end there is no acknowledge to come. -/
theorem Level.consume (level : system.Level d) (faultless : ¬ surroundings.Faulty) :
    let next := system.call surroundings .consume
    next.Level d ∧ next.latest = next.acknowledged := by
  intro next
  have stands : next.Stands d := level.stands.step faultless (.call .consume)
  obtain ⟨_, posted, taken, sound⟩ := level.stands.sound
  obtain ⟨published, acked, carries, tells⟩ := sound.between.shown
  obtain ⟨lastSeen, consuming⟩ := sound.between.consuming
  obtain ⟨latest, acknowledged⟩ := numbers_eq sound.producer.producing carries
  have seen : acked = lastSeen := by
    rw [← acknowledged, level.seen]
    exact consuming.seen
  obtain ⟨result, consumer, world, acted, ended⟩ := act_ends surroundings
    ((Consumer.process_takes consuming sound.between.numbered carries tells).of_faultless faultless)
  have took : Consumer.Took d system.accepted taken posted published acked lastSeen system.world consumer
      world := by
    cases result with
    | error fault => exact ended.elim
    | ok value => exact ended
  have called : next = { system with consumer, world } := by
    change system.call surroundings .consume = _
    simp only [System.call, level.idle, acted]
  have settled : next.acknowledged = next.lastSeen ∧ next.latest = next.acknowledged := by
    rw [called]
    rcases took with ⟨stale, _, consuming', carries, _⟩ | ⟨_, _, consuming', carries, _⟩
    · obtain ⟨latest', acknowledged'⟩ : System.latest { system with consumer, world } = _ ∧ _ :=
        numbers_eq sound.producer.producing carries
      refine ⟨acknowledged'.trans (seen.trans consuming'.seen.symm), ?_⟩
      rw [latest', acknowledged']
      by_cases none : Sequence.ofCount published.length = 0
      · rw [none, ← acknowledged, level.blank (latest.trans none)]
      · have same : Sequence.ofCount published.length = lastSeen := by
          simpa only [Sequence.isFresh, bne_iff_ne.mpr none, Bool.true_and, bne_eq_false_iff_eq]
            using stale
        exact same.trans seen.symm
    · obtain ⟨latest', acknowledged'⟩ : System.latest { system with consumer, world } = _ ∧ _ :=
        numbers_eq sound.producer.producing carries
      exact ⟨acknowledged'.trans consuming'.seen.symm, latest'.trans acknowledged'.symm⟩
  refine ⟨⟨stands, ?_, settled.1, fun none => settled.2.symm.trans none, fun _ => settled.2,
    step_admitted surroundings (.call .consume) level.admitted⟩, settled.2⟩
  rw [called]
  exact level.idle

theorem Level.call (level : system.Level d) (faultless : ¬ surroundings.Faulty)
    (large : headerSize + maxPayload ≤ d.size) (call : Call) :
    (system.call surroundings call).Level d := by
  cases call with
  | accept arrival => exact level.accept faultless arrival
  | process => exact (level.process faultless large).1
  | tick => exact level.tick faultless
  | consume => exact (level.consume faultless).1

theorem Level.after (level : system.Level d) (faultless : ¬ surroundings.Faulty)
    (large : headerSize + maxPayload ≤ d.size) (calls : List Call) :
    (system.after surroundings (calls.map .call)).Level d := by
  induction calls generalizing system with
  | nil => exact level
  | cons call rest ih => exact ih (level.call faultless large call)

/-- A call of each end. -/
def round : List Turn := [.call .process, .call .consume]

theorem Level.round (level : system.Level d) (faultless : ¬ surroundings.Faulty)
    (large : headerSize + maxPayload ≤ d.size) :
    let next := system.after surroundings round
    next.Level d ∧ next.outstanding = system.outstanding - 1 := by
  intro next
  obtain ⟨processed, steps⟩ := level.process faultless large
  obtain ⟨consumed, ready⟩ := processed.consume faultless
  have ready : next.latest = next.acknowledged := ready
  have same : next.producer = (system.call surroundings .process).producer := consume_producer _
  refine ⟨consumed, ?_⟩
  rw [outstanding, if_pos ready, same, steps, Nat.add_zero]

/-- Each round brings the ends one step on, until there is none left. -/
theorem Level.rounds (level : system.Level d) (faultless : ¬ surroundings.Faulty)
    (large : headerSize + maxPayload ≤ d.size) (count : Nat) :
    let next := system.after surroundings (List.replicate count System.round).flatten
    next.Level d ∧ next.outstanding = system.outstanding - count := by
  induction count generalizing system with
  | zero => exact ⟨level, rfl⟩
  | succ count ih =>
    obtain ⟨once, step⟩ := level.round faultless large
    obtain ⟨level, steps⟩ := ih once
    have split : system.after surroundings (List.replicate (count + 1) System.round).flatten =
        (system.after surroundings System.round).after surroundings
          (List.replicate count System.round).flatten := by
      rw [List.replicate_succ, List.flatten_cons]
      exact List.foldl_append
    rw [split]
    refine ⟨level, steps.trans ?_⟩
    omega

theorem Level.outstanding_le (level : system.Level d) :
    system.outstanding ≤ 2 * system.producer.1.queue.size + 4 := by
  have bound := system.producer.1.outstanding_le
  unfold outstanding
  by_cases busy : system.producer.1.phase = .waitForAcknowledge
  · rw [if_pos busy] at bound
    split <;> omega
  · rw [if_neg busy] at bound
    rwa [if_pos (level.free busy)]

theorem setUp_level {owner : Role} {channel : UInt8} {ackTimeout : Nat} {pool : TimerPool}
    (made : System.setUp owner d channel ackTimeout pool memory = .ok system) : system.Level d := by
  have fresh := setUp_fresh made
  obtain ⟨latest, acknowledged⟩ := numbers_eq fresh.producer.producing fresh.carries
  exact {
    stands := setUp_stands made
    idle := fresh.stage
    seen := acknowledged.trans fresh.consuming.seen.symm
    blank := fun _ => acknowledged
    free := fun _ => latest.trans acknowledged.symm
    admitted := fresh.admitted }

end System

/-- The channel cannot deadlock. Where slots have room for every frame that the network may send: from
whatever a run by whole calls without faults led to, with so many frames queued, twice that many rounds
of both ends and four more leave the producing end waiting for the network, with no frame queued and the
latest message acknowledged. -/
theorem queue_drained_in_rounds {system : System} {owner : Role} {channel : UInt8} {ackTimeout : Nat}
    {pool : TimerPool} (made : System.setUp owner d channel ackTimeout pool memory = .ok system)
    (faultless : ¬ surroundings.Faulty) (large : headerSize + maxPayload ≤ d.size)
    (calls : List Call) :
    let reached := system.after surroundings (calls.map .call)
    let last := reached.after surroundings
      (List.replicate (2 * reached.producer.1.queue.size + 4) System.round).flatten
    last.producer.1.phase = .waitForFrame ∧ last.producer.1.queue.toList = [] ∧
      last.ready surroundings = .ok true := by
  intro reached last
  have level : reached.Level d := (System.setUp_level made).after faultless large calls
  have bound := level.outstanding_le
  obtain ⟨ended, steps⟩ := level.rounds faultless large (2 * reached.producer.1.queue.size + 4)
  have ended : last.Level d := ended
  have none : last.producer.1.outstanding = 0 := by
    have all : last.outstanding = 0 := steps.trans (Nat.sub_eq_zero_of_le bound)
    exact (Nat.add_eq_zero_iff.mp all).1
  obtain ⟨waits, empty⟩ := ended.stands.steady.rest none
  obtain ⟨_, _, _, sound⟩ := ended.stands.sound
  obtain ⟨_, _, carries, _⟩ := sound.between.shown
  obtain ⟨latest, acknowledged⟩ := System.numbers_eq sound.producer.producing carries
  refine ⟨waits, empty, ?_⟩
  have settled := ended.free (waits ▸ nofun)
  rw [latest, acknowledged] at settled
  rw [System.ready_eq faultless sound.producer carries, beq_iff_eq.mpr settled]

/-- A frame went through and another one is queued. The first was asked for again and is written, nobody
took that message, and it is asked for once more. -/
def askedTwice : List Call := [.accept ⟨1, false, [10]⟩, .process, .consume, .process,
  .accept ⟨2, false, [20]⟩, .accept ⟨1, true, []⟩, .process, .accept ⟨1, true, []⟩]

theorem askedTwice_slow : (System.setUp .producer ⟨.ssdoReceive, 0, 262⟩ 0 1 .empty
    (.zeroed 0 211)).toOption.any (fun system =>
      let surroundings : Surroundings := ⟨fun _ => false, fun _ => Surroundings.plainAnswer⟩
      let reached := system.after surroundings (askedTwice.map .call)
      decide (reached.producer.1.queue.size = 1 ∧
        (reached.after surroundings (List.replicate 5 System.round).flatten).producer.1.phase =
          .waitForAcknowledge)) = true := by
  decide +kernel

/-- With one frame queued, all six rounds are needed. -/
theorem queue_drained_in_rounds_asked_twice :
    let surroundings : Surroundings := ⟨fun _ => false, fun _ => Surroundings.plainAnswer⟩
    ∃ system, System.setUp .producer ⟨.ssdoReceive, 0, 262⟩ 0 1 .empty (.zeroed 0 211) = .ok system ∧
      let reached := system.after surroundings (askedTwice.map .call)
      (reached.after surroundings (List.replicate 5 System.round).flatten).producer.1.phase =
        .waitForAcknowledge ∧
      (reached.after surroundings (List.replicate 6 System.round).flatten).producer.1.phase =
        .waitForFrame := by
  intro surroundings
  have faultless : ¬ surroundings.Faulty := fun ⟨_, fails⟩ => Bool.false_ne_true fails
  obtain ⟨system, made, facts⟩ := (Option.any_eq_true _ _).mp askedTwice_slow
  have made := eq_ok_of_toOption made
  obtain ⟨one, slow⟩ := of_decide_eq_true facts
  obtain ⟨waits, _⟩ := queue_drained_in_rounds made faultless (Nat.le_refl _) askedTwice
  rw [one] at waits
  exact ⟨system, made, slow, waits⟩

end NodeLink.Ssdo.Inbound

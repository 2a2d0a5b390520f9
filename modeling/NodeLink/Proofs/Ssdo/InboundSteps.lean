import NodeLink.Proofs.Ssdo.InboundDelivery

/-! What a call of `process` does when no access fails. An end then never stops between a write and
the wait for its acknowledge, and every frame that it may have to write again fits the buffer; so a
call takes one of a few steps, each in the states that call for it. -/
namespace NodeLink.Ssdo.Inbound

open Channel (number)
open Channel.Sender (Oversize)
open TripleBuffer (anyAccess)

variable {d : Descriptor} {memory : SharedMemory} {published : List Bytes} {acked : Sequence}
  {frames : List QueuedFrame} {settled posted taken : Nat} {surroundings : Surroundings}

namespace Producer

/-- The acknowledged frame is to be written again. -/
def Noted (producer : Producer) : Prop :=
  producer.phase = .repostFrame ∨ producer.repostRequested = true

instance (producer : Producer) : Decidable producer.Noted := inferInstanceAs (Decidable (_ ∨ _))

/-- How an end stands between calls if no access fails. -/
structure Steady (d : Descriptor) (producer : Producer) : Prop where
  awaits : producer.phase = .waitForAcknowledge ↔ producer.pending ≠ .nothing
  head : ∀ number, producer.pending = .head number →
    ∃ frame, producer.queue.head? = some frame ∧ ¬ Oversize d frame.payload
  kept : ∀ number frame, producer.acknowledged = some (number, frame) → ¬ Oversize d frame.payload
  asked : producer.Noted ∨ producer.pending = .acknowledged →
    ∃ number frame, producer.acknowledged = some (number, frame)

/-- The message that carries a frame. -/
def message (producer : Producer) (number : Channel.MessageNumber) (retry : Bool)
    (frame : QueuedFrame) : Bytes :=
  (producer.sender.header number retry format frame.payload).toBytes ++ frame.payload

/-- What a call of `process` makes of the end and of the messages if no access fails. -/
inductive Does (d : Descriptor) (acked : Sequence) (before : Producer) (published : List Bytes) :
    Producer → List Bytes → Prop where
  /-- No frame is queued, or the oldest one cannot be posted. -/
  | rests (idle : before.phase = .waitForFrame) (unasked : before.repostRequested = false)
      (blocked : ∀ frame, before.queue.head? = some frame →
        Sequence.ofCount published.length ≠ acked ∨ Oversize d frame.payload) :
      Does d acked before published before published
  | waits (busy : before.phase = .waitForAcknowledge)
      (unready : Sequence.ofCount published.length ≠ acked) :
      Does d acked before published before published
  /-- The oldest frame is written for the first time. -/
  | posts (frame : QueuedFrame) (idle : before.phase = .waitForFrame)
      (unasked : before.repostRequested = false) (queued : before.queue.head? = some frame)
      (ready : Sequence.ofCount published.length = acked) (fits : ¬ Oversize d frame.payload) :
      Does d acked before published
        { before with
          sender.next := before.sender.next.next
          pending := .head before.sender.next
          phase := .waitForAcknowledge }
        (published ++ [before.message before.sender.next false frame])
  /-- The frame that waits for its acknowledge is written again. -/
  | rewrites (number : Channel.MessageNumber) (frame : QueuedFrame)
      (busy : before.phase = .waitForAcknowledge)
      (unready : Sequence.ofCount published.length ≠ acked) (head : before.pending = .head number)
      (queued : before.queue.head? = some frame) :
      Does d acked before published before (published ++ [before.message number true frame])
  /-- The acknowledged frame is written again. -/
  | repeats (number : Channel.MessageNumber) (frame : QueuedFrame) (requested : Bool)
      (other : ∀ number, before.pending ≠ .head number)
      (asked : before.phase = .waitForFrame → before.repostRequested = true ∧ requested = false)
      (busy : before.phase ≠ .waitForFrame → requested = before.repostRequested)
      (kept : before.acknowledged = some (number, frame)) :
      Does d acked before published
        { before with
          repostRequested := requested
          pending := .acknowledged
          phase := .waitForAcknowledge }
        (published ++ [before.message number true frame])
  /-- The frame that waited for its acknowledge leaves the queue. -/
  | settles (number : Channel.MessageNumber) (frame : QueuedFrame)
      (busy : before.phase = .waitForAcknowledge)
      (ready : Sequence.ofCount published.length = acked) (head : before.pending = .head number)
      (queued : before.queue.head? = some frame) :
      Does d acked before published
        { before with
          queue := before.queue.tail
          acknowledged := some (number, frame)
          pending := .nothing
          phase := .waitForFrame } published
  | closes (busy : before.phase = .waitForAcknowledge)
      (ready : Sequence.ofCount published.length = acked) (again : before.pending = .acknowledged) :
      Does d acked before published { before with pending := .nothing, phase := .waitForFrame }
        published

section Process

variable {state : State}

/-- The end and the messages as a call of `process` leaves them. -/
def Ends (d : Descriptor) (acked : Sequence) (before : Producer) (published : List Bytes)
    (left : State) (after : SharedMemory) : Prop :=
  ∃ further, Does d acked before published left.1 further ∧ d.Carries after further acked

/-- Writing a frame again that fits. -/
theorem rewrite_then {frame : QueuedFrame} {number : Channel.MessageNumber}
    {next : Unit → Action Medium State Unit} {ok : Unit → State → SharedMemory → Prop}
    {failed : Fault → State → SharedMemory → Prop} (sound : Sound d frames settled posted state)
    (carries : d.Carries memory published acked) (fits : ¬ Oversize d frame.payload)
    (rest : ∀ after, d.Carries after (published ++ [state.1.message number true frame]) acked →
      (next ()).Ensures False anyAccess state after ok failed) :
    (onSender (Channel.Sender.repost number format frame.payload) >>= next).Ensures False anyAccess
      state memory ok failed := by
  refine Action.Ensures.bind (fun _ left after => left = state ∧
    d.Carries after (published ++ [state.1.message number true frame]) acked)
    (onSender_ensures ((Channel.Sender.write_ensures sound.producing carries).mono
      (fun _ granted => granted) ?_ ?_)) ?_
  · rintro _ _ after ⟨rfl, _, carries⟩
    exact ⟨rfl, carries⟩
  · rintro _ _ _ ⟨_, _, ⟨lost, _⟩ | ⟨large, _⟩⟩
    · exact lost.elim
    · exact absurd large fits
  · rintro _ _ after ⟨rfl, carries⟩
    exact rest after carries

theorem repost_head {frame : QueuedFrame} {number : Channel.MessageNumber}
    {ok : Unit → State → SharedMemory → Prop} {failed : Fault → State → SharedMemory → Prop}
    (sound : Sound d frames settled posted state) (carries : d.Carries memory published acked)
    (head : state.1.pending = .head number) (queued : state.1.queue.head? = some frame)
    (fits : ¬ Oversize d frame.payload)
    (ends : ∀ pool after, d.Carries after (published ++ [state.1.message number true frame]) acked →
      ok () ({ state.1 with phase := .waitForAcknowledge }, pool) after) :
    repost.Ensures False anyAccess state memory ok failed := by
  unfold repost
  apply Action.get_then
  simp only [head, queued]
  refine rewrite_then sound carries fits fun after carries => ?_
  exact await_ensures sound.live fun pool _ => ends pool after carries

theorem repost_acknowledged {frame : QueuedFrame} {number : Channel.MessageNumber}
    {ok : Unit → State → SharedMemory → Prop} {failed : Fault → State → SharedMemory → Prop}
    (sound : Sound d frames settled posted state) (carries : d.Carries memory published acked)
    (other : ∀ number, state.1.pending ≠ .head number)
    (kept : state.1.acknowledged = some (number, frame)) (fits : ¬ Oversize d frame.payload)
    (ends : ∀ pool after, d.Carries after (published ++ [state.1.message number true frame]) acked →
      ok () ({ state.1 with pending := .acknowledged, phase := .waitForAcknowledge }, pool) after) :
    repost.Ensures False anyAccess state memory ok failed := by
  unfold repost
  apply Action.get_then
  cases pending : state.1.pending with
  | head assigned => exact absurd pending (other assigned)
  | _ =>
    simp only [pending, kept]
    refine rewrite_then sound carries fits fun after carries => ?_
    exact Action.modify_then (await_ensures sound.live fun pool _ => ends pool after carries)

theorem postHead_does (sound : Sound d frames settled posted state)
    (idle : state.1.phase = .waitForFrame) (unasked : state.1.repostRequested = false)
    (carries : d.Carries memory published acked) :
    postHead.Ensures False anyAccess state memory (fun _ => Ends d acked state.1 published)
      fun _ => Ends d acked state.1 published := by
  unfold postHead
  apply Action.get_then
  cases queued : state.1.queue.head? with
  | none =>
    refine ⟨published, .rests idle unasked fun frame found => ?_, carries⟩
    rw [queued] at found
    contradiction
  | some frame =>
    refine Action.Ensures.bind (fun assigned left after => assigned = state.1.sender.next ∧
      left = ({ state.1 with sender.next := state.1.sender.next.next }, state.2) ∧
        Sequence.ofCount published.length = acked ∧ ¬ Oversize d frame.payload ∧
        d.Carries after (published ++ [state.1.message state.1.sender.next false frame]) acked)
      (onSender_ensures ((Channel.Sender.post_ensures sound.producing carries).mono
        (fun _ granted => granted) ?_ ?_)) ?_
    · rintro _ _ after ⟨rfl, rfl, ready, fits, carries⟩
      exact ⟨rfl, rfl, ready, fits, carries⟩
    · rintro _ _ after ⟨rfl, carries, ⟨lost, _⟩ | ⟨large, _⟩ | ⟨unready, _⟩⟩
      · exact lost.elim
      · exact ⟨published, .rests idle unasked fun other found =>
          .inr (Option.some.inj (queued.symm.trans found) ▸ large), carries⟩
      · exact ⟨published, .rests idle unasked fun _ _ => .inl unready, carries⟩
    · rintro _ _ after ⟨rfl, rfl, ready, fits, carries⟩
      refine Action.modify_then (await_ensures sound.live fun pool live => ?_)
      exact ⟨_, .posts frame idle unasked queued ready fits, carries⟩

theorem settle_does (sound : Sound d frames settled posted state) (steady : state.1.Steady d)
    (busy : state.1.phase = .waitForAcknowledge)
    (ready : Sequence.ofCount published.length = acked)
    (carries : d.Carries memory published acked) :
    settle.Ensures False anyAccess state memory (fun _ => Ends d acked state.1 published)
      fun _ _ _ => False := by
  obtain ⟨pool, stopped, live⟩ := sound.live.stop
  refine Action.Ensures.onTimer_then stopped (Action.get_then ?_)
  cases pending : state.1.pending with
  | nothing => exact absurd pending (steady.awaits.mp busy)
  | head assigned =>
    obtain ⟨frame, queued, _⟩ := steady.head assigned pending
    simp only [pending, queued]
    exact ⟨published, .settles assigned frame busy ready pending queued, carries⟩
  | acknowledged =>
    simp only [pending]
    exact ⟨published, .closes busy ready pending, carries⟩

/-- What waits for an acknowledge that does not come is written again. -/
theorem repost_waiting (sound : Sound d frames settled posted state) (steady : state.1.Steady d)
    (busy : state.1.phase = .waitForAcknowledge)
    (unready : Sequence.ofCount published.length ≠ acked)
    (carries : d.Carries memory published acked) :
    repost.Ensures False anyAccess ({ state.1 with phase := .repostFrame }, state.2) memory
      (fun _ => Ends d acked state.1 published) fun _ => Ends d acked state.1 published := by
  have entered : Sound d frames settled posted ({ state.1 with phase := .repostFrame }, state.2) :=
    sound.enter nofun sound.live
  cases pending : state.1.pending with
  | nothing => exact absurd pending (steady.awaits.mp busy)
  | head assigned =>
    obtain ⟨frame, queued, fits⟩ := steady.head assigned pending
    have same : { state.1 with phase := .waitForAcknowledge } = state.1 := by rw [← busy]
    have rewrites : Does d acked state.1 published { state.1 with phase := .waitForAcknowledge }
        (published ++ [state.1.message assigned true frame]) := by
      rw [same]
      exact .rewrites assigned frame busy unready pending queued
    refine repost_head entered carries pending queued fits fun pool after carries => ?_
    exact ⟨_, rewrites, carries⟩
  | acknowledged =>
    obtain ⟨assigned, frame, kept⟩ := steady.asked (.inr pending)
    have other : ∀ number, state.1.pending ≠ .head number := by
      rw [pending]
      exact nofun
    refine repost_acknowledged entered carries other kept (steady.kept assigned frame kept) ?_
    intro pool after carries
    exact ⟨_, .repeats assigned frame _ other (fun idle => nomatch busy.symm.trans idle)
      (fun _ => rfl) kept, carries⟩

theorem awaitAcknowledge_does (sound : Sound d frames settled posted state)
    (steady : state.1.Steady d) (busy : state.1.phase = .waitForAcknowledge)
    (carries : d.Carries memory published acked) :
    awaitAcknowledge.Ensures False anyAccess state memory (fun _ => Ends d acked state.1 published)
      fun _ => Ends d acked state.1 published := by
  refine ready_then sound carries ?_ False.elim
  by_cases ready : Sequence.ofCount published.length = acked
  · rw [if_pos (beq_iff_eq.mpr ready)]
    exact (settle_does sound steady busy ready carries).mono (fun _ granted => granted)
      (fun _ _ _ ended => ended) fun _ _ _ => False.elim
  · rw [if_neg fun same => ready (beq_iff_eq.mp same)]
    obtain ⟨expiry, found⟩ := sound.live.phase
    refine Action.get_then (Action.ofExcept_then (fun expiry _ => ?_) fun error lost => ?_)
    · cases expiry with
      | expired => exact Action.modify_then (repost_waiting sound steady busy ready carries)
      | _ => exact ⟨published, .waits busy ready, carries⟩
    · rw [found] at lost
      contradiction

theorem process_does (sound : Sound d frames settled posted state) (steady : state.1.Steady d)
    (carries : d.Carries memory published acked) :
    process.Ensures False anyAccess state memory (fun _ => Ends d acked state.1 published)
      fun _ => Ends d acked state.1 published := by
  unfold process
  apply Action.get_then
  cases phase : state.1.phase with
  | waitForFrame =>
    simp only [phase]
    have other := sound.waiting phase
    split
    · rename_i requested
      obtain ⟨assigned, frame, kept⟩ := steady.asked (.inl (.inr requested))
      have entered : Sound d frames settled posted
          ({ state.1 with repostRequested := false, phase := .repostFrame }, state.2) :=
        { sound with waiting := nofun }
      refine Action.modify_then (Action.modify_then ?_)
      refine repost_acknowledged entered carries other kept (steady.kept assigned frame kept) ?_
      intro pool after carries
      exact ⟨_, .repeats assigned frame false other (fun _ => ⟨requested, rfl⟩)
        (fun busy => absurd phase busy) kept, carries⟩
    · rename_i unasked
      exact postHead_does sound phase (Bool.eq_false_iff.mpr unasked) carries
  | waitForAcknowledge =>
    simp only [phase]
    exact awaitAcknowledge_does sound steady phase carries
  | repostFrame =>
    simp only [phase]
    obtain ⟨assigned, frame, kept⟩ := steady.asked (.inl (.inl phase))
    -- A frame in flight would be waited for.
    have none : state.1.pending = .nothing := by
      refine Decidable.not_not.mp fun pending => ?_
      have busy := steady.awaits.mpr pending
      rw [phase] at busy
      contradiction
    have other : ∀ number, state.1.pending ≠ .head number := by
      rw [none]
      exact nofun
    refine repost_acknowledged sound carries other kept (steady.kept assigned frame kept) ?_
    intro pool after carries
    exact ⟨_, .repeats assigned frame _ other (fun idle => nomatch phase.symm.trans idle)
      (fun _ => rfl) kept, carries⟩

end Process

variable {before left : Producer} {further : List Bytes}

/-- A call keeps an end steady: the frame that was acknowledged is one that was posted. -/
theorem Does.steady (does : Does d acked before published left further) (steady : before.Steady d) :
    left.Steady d := by
  cases does with
  | rests => exact steady
  | waits => exact steady
  | rewrites => exact steady
  | posts frame idle unasked queued ready fits =>
    refine { steady with awaits := ⟨fun _ => nofun, fun _ => rfl⟩, head := ?_, asked := ?_ }
    · rintro _ ⟨⟩
      exact ⟨frame, queued, fits⟩
    · rintro ((⟨⟨⟩⟩ | requested) | ⟨⟨⟩⟩)
      rw [unasked] at requested
      contradiction
  | repeats number frame requested other asked busy kept =>
    exact { steady with
      awaits := ⟨fun _ => nofun, fun _ => rfl⟩
      head := nofun
      asked := fun _ => ⟨number, frame, kept⟩ }
  | settles number frame busy ready head queued =>
    refine { awaits := ⟨nofun, fun some => absurd rfl some⟩, head := nofun, kept := ?_, asked := ?_ }
    · rintro _ _ ⟨⟩
      obtain ⟨other, found, fits⟩ := steady.head number head
      exact Option.some.inj (found.symm.trans queued) ▸ fits
    · exact fun _ => ⟨number, frame, rfl⟩
  | closes busy ready again =>
    exact { steady with
      awaits := ⟨nofun, fun some => absurd rfl some⟩
      head := nofun
      asked := fun _ => steady.asked (.inr again) }

/-- What an arrival that is taken makes of the end. -/
inductive Accepts (arrival : Arrival) (before : Producer) : Producer → Prop where
  | ignores : Accepts arrival before before
  | notes (number : Channel.MessageNumber) (frame : QueuedFrame)
      (kept : before.acknowledged = some (number, frame)) :
      Accepts arrival before before.requestRepost
  | enqueues (queue : Queue QueuedFrame queueDepth)
      (grown : queue.toList = before.queue.toList ++ [⟨arrival.seq, arrival.payload⟩]) :
      Accepts arrival before { before with queue, lastSeq := some arrival.seq }

variable {arrival : Arrival}

theorem accepts_of_accept (accepted : before.accept arrival = .ok left) :
    Accepts arrival before left := by
  unfold accept at accepted
  split at accepted
  · contradiction
  split at accepted
  · split at accepted
    · rename_i known
      cases accepted
      obtain ⟨⟨number, frame⟩, kept, _⟩ := (Option.any_eq_true _ _).mp known
      exact .notes number frame kept
    · cases accepted
      exact .ignores
  split at accepted
  · cases accepted
    exact .ignores
  · unfold enqueue at accepted
    split at accepted
    · contradiction
    · rename_i queue pushed
      cases accepted
      exact .enqueues queue ((Queue.push?_eq_some _ _ _).mp pushed).2

theorem requestRepost_steady {number : Channel.MessageNumber} {frame : QueuedFrame}
    (steady : before.Steady d) (kept : before.acknowledged = some (number, frame)) :
    before.requestRepost.Steady d := by
  unfold requestRepost
  split
  · rename_i idle
    refine { steady with awaits := ⟨nofun, fun pending => ?_⟩, asked := fun _ => ⟨number, frame, kept⟩ }
    exact nomatch (steady.awaits.mpr pending).symm.trans idle
  · exact { steady with asked := fun _ => ⟨number, frame, kept⟩ }

theorem Accepts.head (accepts : Accepts arrival before left) {frame : QueuedFrame}
    (queued : before.queue.head? = some frame) : left.queue.head? = some frame := by
  cases accepts with
  | ignores => exact queued
  | notes number frame kept =>
    unfold requestRepost
    split <;> exact queued
  | enqueues queue grown =>
    rw [Queue.head?] at queued ⊢
    rw [grown, List.head?_append, queued, Option.some_or]

/-- What is taken from the network keeps an end steady. -/
theorem Accepts.steady (accepts : Accepts arrival before left) (steady : before.Steady d) :
    left.Steady d := by
  have queued := @accepts.head
  cases accepts with
  | ignores => exact steady
  | notes number frame kept => exact requestRepost_steady steady kept
  | enqueues queue grown =>
    refine { steady with head := fun number pending => ?_ }
    obtain ⟨frame, found, fits⟩ := steady.head number pending
    exact ⟨frame, queued found, fits⟩

theorem new_steady {buffer : TripleBuffer} {channel : UInt8} {ackTimeout : Nat} {pool : TimerPool}
    {state : State} (made : new buffer channel ackTimeout pool = .ok state) : state.1.Steady d := by
  unfold new at made
  cases sender : Channel.Sender.new buffer channel with
  | error error =>
    rw [sender] at made
    contradiction
  | ok sender' =>
    rw [sender] at made
    cases created : pool.create ackTimeout with
    | error error =>
      rw [created] at made
      contradiction
    | ok place =>
      rw [created] at made
      cases made
      exact {
        awaits := ⟨nofun, fun some => absurd rfl some⟩
        head := nofun
        kept := nofun
        asked := by rintro ((⟨⟨⟩⟩ | ⟨⟨⟩⟩) | ⟨⟨⟩⟩) }

/-- What a turn makes of the producing end if no access fails. -/
inductive Turns (d : Descriptor) (before : Producer) : Turn → Producer → Prop where
  | stays (turn : Turn) : Turns d before turn before
  | accepts {arrival : Arrival} {left : Producer} (accepts : Accepts arrival before left) :
      Turns d before (.call (.accept arrival)) left
  | does {acked : Sequence} {published further : List Bytes} {left : Producer}
      (does : Does d acked before published left further) : Turns d before (.call .process) left

theorem Turns.steady {turn : Turn} (turns : Turns d before turn left) (steady : before.Steady d) :
    left.Steady d := by
  cases turns with
  | stays => exact steady
  | accepts accepts => exact accepts.steady steady
  | does does => exact does.steady steady

end Producer

namespace System

variable {system : System} {turn : Turn}

theorem consume_producer (system : System) :
    (system.call surroundings .consume).producer = system.producer := by
  simp only [call]
  split <;> rfl

theorem poll_producer (system : System) :
    (system.step surroundings .poll).producer = system.producer := by
  have same : (system.act surroundings Consumer.poll).2.producer = system.producer := rfl
  simp only [step]
  split
  · split
    · rename_i acted
      rwa [acted] at same
    · rename_i acted
      rwa [acted] at same
  · rfl

theorem hand_producer (system : System) :
    (system.step surroundings .hand).producer = system.producer := by
  simp only [step]
  split <;> rfl

theorem acknowledge_producer (system : System) :
    (system.step surroundings .acknowledge).producer = system.producer := by
  simp only [step]
  split <;> rfl

theorem accept_producer (system : System) (arrival : Arrival) :
    (system.accept arrival).producer.1 = system.producer.1 ∨
      Producer.Accepts arrival system.producer.1 (system.accept arrival).producer.1 := by
  unfold accept
  split
  · exact .inl rfl
  · rename_i producer accepted
    exact .inr (Producer.accepts_of_accept accepted)

/-- What holds between two turns if no access fails. -/
structure Stands (d : Descriptor) (system : System) : Prop where
  sound : ∃ settled posted taken, system.Sound d settled posted taken
  steady : system.producer.1.Steady d

/-- What a call of `process` does to both sides of the memory. -/
theorem Stands.process (stands : system.Stands d) (faultless : ¬ surroundings.Faulty) :
    ∃ published acked left world further,
      system.call surroundings .process = { system with producer := left, world } ∧
        d.Carries system.world.memory published acked ∧
        Producer.Does d acked system.producer.1 published left.1 further ∧
        d.Carries world.memory further acked := by
  obtain ⟨settled, posted, taken, sound⟩ := stands.sound
  obtain ⟨published, acked, carries, _⟩ := sound.between.shown
  obtain ⟨result, left, world, produced, ends⟩ := system.produce_ends surroundings Producer.process
  have does := Producer.process_does sound.producer stands.steady carries
  have ended : Producer.Ends d acked system.producer.1 published left world.memory := by
    cases result with
    | error fault => exact (ends (does.of_faultless faultless)).1
    | ok value => exact (ends (does.of_faultless faultless)).1
  obtain ⟨further, does, after⟩ := ended
  exact ⟨published, acked, left, world, further, produced, carries, does, after⟩

theorem Stands.turns (stands : system.Stands d) (faultless : ¬ surroundings.Faulty) (turn : Turn) :
    Producer.Turns d system.producer.1 turn (system.step surroundings turn).producer.1 := by
  cases turn with
  | call call =>
    cases call with
    | accept arrival =>
      rcases system.accept_producer arrival with same | accepts
      · exact same ▸ .stays _
      · exact .accepts accepts
    | process =>
      obtain ⟨_, _, left, world, _, called, _, does, _⟩ := stands.process faultless
      change Producer.Turns _ _ _ (system.call surroundings .process).producer.1
      rw [called]
      exact .does does
    | tick =>
      obtain ⟨_, _, _, sound⟩ := stands.sound
      obtain ⟨pool, _, _, called⟩ := system.call_tick surroundings sound.producer.live
      change Producer.Turns _ _ _ (system.call surroundings .tick).producer.1
      rw [called]
      exact .stays _
    | consume => exact congrArg Prod.fst system.consume_producer ▸ .stays _
  | poll => exact congrArg Prod.fst system.poll_producer ▸ .stays _
  | hand => exact congrArg Prod.fst system.hand_producer ▸ .stays _
  | acknowledge => exact congrArg Prod.fst system.acknowledge_producer ▸ .stays _

theorem Stands.step (stands : system.Stands d) (faultless : ¬ surroundings.Faulty) (turn : Turn) :
    (system.step surroundings turn).Stands d := by
  obtain ⟨_, _, _, sound⟩ := stands.sound
  exact ⟨step_keeps surroundings turn sound, (stands.turns faultless turn).steady stands.steady⟩

theorem Stands.after (stands : system.Stands d) (faultless : ¬ surroundings.Faulty)
    (turns : List Turn) : (system.after surroundings turns).Stands d := by
  induction turns generalizing system with
  | nil => exact stands
  | cons turn rest ih => exact ih (stands.step faultless turn)

theorem setUp_stands {owner : Role} {channel : UInt8} {ackTimeout : Nat} {pool : TimerPool}
    (made : System.setUp owner d channel ackTimeout pool memory = .ok system) : system.Stands d := by
  refine ⟨⟨0, 0, 0, (setUp_fresh made).sound⟩, ?_⟩
  unfold System.setUp at made
  split at made
  · contradiction
  split at made
  · rename_i ended _
    cases made
    exact Producer.new_steady ended
  · contradiction
  · contradiction

end System

end NodeLink.Ssdo.Inbound

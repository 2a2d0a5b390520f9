import NodeLink.Proofs.Channel
import NodeLink.Proofs.Ssdo.OutboundLife
import NodeLink.Proofs.Timer.Shared
import NodeLink.Ssdo.Outbound

/-! The communication processor's end for frames to the network, when no access fails. Whatever the
network answers, a call of `process` moves the frame posted last one step on its way. -/
namespace NodeLink.Ssdo.Outbound

open Channel (number)

/-- The offers among what the collaborators were asked. -/
def offersIn (events : List Host.Event) : List Offer := events.filterMap fun event =>
  match event with
  | ⟨.transmit channel payload, answer⟩ => some ⟨channel, payload, answer⟩
  | _ => none

/-- How far the frame posted last has come, if one was posted. -/
abbrev Position := Option (Bytes × Progress)

/-- What may be seen next. A frame is posted when the one before is over. -/
inductive Moves (channel : UInt8) : Position → Sight → Position → Prop where
  | idle : Moves channel none (.processed [] (.ok ())) none
  | turn {payload : Bytes} {before after : Progress} {sight : Sight} :
      Turn channel payload before sight after →
        Moves channel (some (payload, before)) sight (some (payload, after))
  | post {position : Position} (closed : ∀ frame ∈ position, frame.2.Over) (payload : Bytes) :
      Moves channel position (.posted payload) (some (payload, .waiting))

namespace Consumer

/-- All messages so far were acknowledged. -/
structure Rests (d : Descriptor) (count : Nat) (consumer : Consumer) (memory : SharedMemory) : Prop where
  phase : consumer.phase = .waitForFrame
  consuming : consumer.receiver.buffer.Consumes d (.ofCount count)
  numbered : consumer.receiver.delivered = number count
  carries : ∃ published, published.length = count ∧ d.Carries memory published (.ofCount count)

/-- The latest message was not polled. -/
structure Faces (d : Descriptor) (channel : UInt8) (payload : Bytes) (count : Nat)
    (consumer : Consumer) (memory : SharedMemory) : Prop where
  phase : consumer.phase = .waitForFrame
  consuming : consumer.receiver.buffer.Consumes d (.ofCount count)
  numbered : consumer.receiver.delivered = number count
  carries : ∃ published header, d.Carries memory (published ++ [Channel.Header.toBytes header ++ payload])
    (.ofCount count) ∧ published.length = count ∧ header.channel = channel ∧
    header.number = number (count + 1) ∧ header.Heads payload

/-- The latest message was polled and not acknowledged. -/
structure Holds (d : Descriptor) (channel : UInt8) (payload : Bytes) (count : Nat)
    (consumer : Consumer) (memory : SharedMemory) : Prop where
  frame : ∃ message, consumer.frame = some message ∧ message.header.channel = channel ∧
    message.payload = payload ∧ message.header.number = number (count + 1) ∧
    message.write = Sequence.ofCount (count + 1)
  consuming : consumer.receiver.buffer.Consumes d (.ofCount (count + 1))
  carries : ∃ published, published.length = count + 1 ∧ d.Carries memory published (.ofCount count)

/-- The end and the buffer agree with how far the frame posted last has come. -/
inductive At (d : Descriptor) (channel : UInt8) (consumer : Consumer) (memory : SharedMemory) :
    Nat → Position → Prop where
  | idle : Rests d 0 consumer memory → At d channel consumer memory 0 none
  | closed {payload : Bytes} {progress : Progress} {count : Nat} : progress.Over →
      Rests d (count + 1) consumer memory →
        At d channel consumer memory (count + 1) (some (payload, progress))
  | faced {payload : Bytes} {count : Nat} : Faces d channel payload count consumer memory →
      At d channel consumer memory (count + 1) (some (payload, .waiting))
  | pending {payload : Bytes} {count : Nat} : consumer.phase = .waitForRetry →
      Holds d channel payload count consumer memory →
        At d channel consumer memory (count + 1) (some (payload, .waiting))
  | queued {payload : Bytes} {count : Nat} : consumer.phase = .waitUntilSent →
      Holds d channel payload count consumer memory →
        At d channel consumer memory (count + 1) (some (payload, .queued))
  | sent {payload : Bytes} {count : Nat} : consumer.phase = .sent →
      Holds d channel payload count consumer memory →
        At d channel consumer memory (count + 1) (some (payload, .sent))

variable {d : Descriptor} {channel : UInt8} {payload : Bytes} {count : Nat} {state : State}
  {world : World}

theorem onReceiver_meets {α : Type} {faults : Prop} {operation : Channel.Receiver.Operation α}
    {may : Words.Request → Prop} {ok : α → State → World → Prop}
    {failed : Fault → State → World → Prop}
    (holds : operation.Ensures faults may state.1.receiver world.memory
      (fun value receiver memory => ∀ after : World, after.memory = memory →
        after.events = world.events → ok value ({ state.1 with receiver }, state.2) after)
      fun fault receiver memory => ∀ after : World, after.memory = memory →
        after.events = world.events → failed fault ({ state.1 with receiver }, state.2) after) :
    (onReceiver operation).Meets faults state world ok failed := Action.Ensures.part_onHost holds

theorem release_meets (holds : Holds d channel payload count state.1 world.memory)
    (live : state.2.Live state.1.timer) :
    release.Meets False state world
      (fun _ left after => Rests d (count + 1) left.1 after.memory ∧ left.2.Live left.1.timer ∧
        after.events = world.events)
      fun _ _ _ => False := by
  obtain ⟨message, taken, _, _, named, written⟩ := holds.frame
  obtain ⟨published, length, carries⟩ := holds.carries
  obtain ⟨pool, stopped, live⟩ := live.stop
  unfold release
  apply Action.Meets.get_then
  apply Action.Meets.modify_then
  simp only [taken]
  apply Action.Meets.bind (fun _ left after => left = ({ state.1 with
    frame := none
    receiver := { state.1.receiver with delivered := message.header.number } }, state.2) ∧
    d.Carries after.memory published message.write ∧ after.events = world.events)
  · apply onReceiver_meets
    apply (Channel.Receiver.acknowledge_ensures holds.consuming carries).mono (fun _ granted => granted)
    · rintro _ _ _ ⟨rfl, carries⟩ after rfl quiet
      exact ⟨rfl, carries, quiet⟩
    · rintro _ _ _ ⟨_, _, lost, _⟩
      exact lost.elim
  · rintro _ _ after ⟨rfl, carries, quiet⟩
    apply Action.Meets.modify_then
    refine Action.Meets.onTimer_then stopped ?_
    exact ⟨⟨rfl, holds.consuming, named, published, length, written ▸ carries⟩, live, quiet⟩

/-- What an answer of the network to an offer leads to. -/
def Answered (d : Descriptor) (channel : UInt8) (payload : Bytes) (count : Nat)
    (answer : Except Error Handoff) (events : List Host.Event) (result : Except Fault Unit)
    (left : State) (after : World) : Prop :=
  left.2.Live left.1.timer ∧ after.events = events ∧ ∃ progress,
    Turn channel payload .waiting (.processed [⟨channel, payload, answer⟩] result) progress ∧
      At d channel left.1 after.memory (count + 1) (some (payload, progress))

theorem settle_meets (answer : Except Error Handoff)
    (holds : Holds d channel payload count state.1 world.memory)
    (live : state.2.Live state.1.timer) :
    (settle answer).Meets False state world
      (fun _ => Answered d channel payload count answer world.events (.ok ()))
      fun fault => Answered d channel payload count answer world.events (.error fault) := by
  have dropped (error : Error) (refused : answer ≠ .ok .queued) :
      (release >>= fun _ => Action.fail (.error error)).Meets False state world
        (fun (_ : Unit) => Answered d channel payload count answer world.events (.ok ()))
        fun fault => Answered d channel payload count answer world.events (.error fault) := by
    apply Action.Meets.bind _ ((release_meets holds live).mono (fun _ _ _ released => released) _)
    · rintro _ left after ⟨rests, live, quiet⟩
      exact ⟨live, quiet, .dropped, .drop answer error refused, .closed .dropped rests⟩
    · intro _ _ _ lost
      exact lost.elim
  unfold settle
  cases answer with
  | error error => exact dropped error nofun
  | ok handoff =>
    cases handoff with
    | queued =>
      obtain ⟨pool, stopped, live⟩ := live.stop
      refine Action.Meets.onTimer_then stopped ?_
      exact ⟨live, rfl, .queued, .queue, .queued rfl ⟨holds.frame, holds.consuming, holds.carries⟩⟩
    | addressPending =>
      apply Action.Meets.get_then
      split
      · obtain ⟨pool, started, live⟩ := live.start
        apply Action.Meets.modify_then
        refine Action.Meets.onTimer_then started ?_
        apply Action.Meets.modify_then
        exact ⟨live, rfl, .waiting, .pending, .pending rfl ⟨holds.frame, holds.consuming, holds.carries⟩⟩
      · exact dropped .transport nofun

/-- What a call of `process` leads to. -/
def Processed (d : Descriptor) (channel : UInt8) (count : Nat) (position : Position)
    (events : List Host.Event) (result : Except Fault Unit) (left : State) (after : World) : Prop :=
  left.2.Live left.1.timer ∧ ∃ more next, after.events = events ++ more ∧
    Moves channel position (.processed (offersIn more) result) next ∧
      At d channel left.1 after.memory count next

theorem offer_meets (holds : Holds d channel payload count state.1 world.memory)
    (live : state.2.Live state.1.timer) :
    offer.Meets False state world
      (fun _ => Processed d channel (count + 1) (some (payload, .waiting)) world.events (.ok ()))
      fun fault => Processed d channel (count + 1) (some (payload, .waiting)) world.events (.error fault) := by
  obtain ⟨message, taken, rfl, rfl, _⟩ := holds.frame
  unfold offer
  apply Action.Meets.get_then
  simp only [taken]
  apply Action.Meets.ask_then
  · intro access same
    cases same
  · intro answer after memory events
    rw [← memory] at holds
    apply (settle_meets answer holds live).mono
    · rintro _ left final ⟨live, quiet, progress, turn, stands⟩
      exact ⟨live, _, _, quiet.trans events, .turn turn, stands⟩
    · rintro fault left final ⟨live, quiet, progress, turn, stands⟩
      exact ⟨live, _, _, quiet.trans events, .turn turn, stands⟩

/-- A fresh frame is taken and offered at once. -/
theorem takeFrame_faced (faces : Faces d channel payload count state.1 world.memory)
    (live : state.2.Live state.1.timer) :
    takeFrame.Meets False state world
      (fun _ => Processed d channel (count + 1) (some (payload, .waiting)) world.events (.ok ()))
      fun fault =>
        Processed d channel (count + 1) (some (payload, .waiting)) world.events (.error fault) := by
  obtain ⟨published, header, carries, rfl, rfl, named, heads⟩ := faces.carries
  have told : Channel.Told (published ++ [Channel.Header.toBytes header ++ payload]) := by
    intro bytes last
    rw [List.getLast?_concat, Option.some.injEq] at last
    exact ⟨header, payload, last.symm, heads⟩
  have length : (published ++ [Channel.Header.toBytes header ++ payload]).length =
      published.length + 1 := List.length_append
  have fresh : (Sequence.ofCount (published.length + 1)).isFresh (.ofCount published.length) = true := by
    have new := Sequence.ofCount_succ_ne published.length
    have some := Sequence.next_ne_zero (.ofCount published.length)
    simp only [Sequence.isFresh, Bool.and_eq_true, bne_iff_ne]
    exact ⟨some, new⟩
  unfold takeFrame
  apply Action.Meets.bind (fun polled left after => ∃ message, polled = some message ∧
    message.duplicate = false ∧ after.events = world.events ∧ left.2.Live left.1.timer ∧
    Holds d header.channel payload published.length
      { left.1 with frame := some message, phase := .offerFrame } after.memory)
  · apply onReceiver_meets
    apply (Channel.Receiver.poll_ensures faces.consuming carries fun _ => told).mono (fun _ granted => granted)
    · rintro polled left memory ⟨found, _, carries⟩ after rfl quiet
      cases polled with
      | none =>
        obtain ⟨stale, _⟩ := found
        rw [length, fresh] at stale
        contradiction
      | some message =>
        obtain ⟨_, consuming, last, heads', written, duplicate⟩ := found
        rw [length] at consuming written
        rw [List.getLast?_concat, Option.some.injEq] at last
        obtain ⟨rfl, rfl⟩ := heads.unique heads' last
        refine ⟨message, rfl, ?_, quiet, live, ⟨message, rfl, rfl, rfl, named, written⟩, consuming, ?_⟩
        · rw [duplicate, named, faces.numbered]
          exact beq_false_of_ne (Channel.number_succ_ne _)
        · exact ⟨_, length, carries⟩
    · rintro _ _ _ ⟨_, _, _, lost, _⟩
      exact lost.elim
  · rintro _ left after ⟨message, rfl, new, quiet, live, holds⟩
    simp only [new]
    apply Action.Meets.modify_then
    apply Action.Meets.modify_then
    rw [← quiet]
    exact offer_meets holds live

theorem takeFrame_rests (rests : Rests d count state.1 world.memory)
    (live : state.2.Live state.1.timer) :
    takeFrame.Meets False state world
      (fun _ left after => left.2.Live left.1.timer ∧ after.events = world.events ∧
        Rests d count left.1 after.memory)
      fun _ _ _ => False := by
  obtain ⟨published, rfl, carries⟩ := rests.carries
  have stale : (Sequence.ofCount published.length).isFresh (.ofCount published.length) = false := by
    simp only [Sequence.isFresh, bne_self_eq_false, Bool.and_false]
  unfold takeFrame
  apply Action.Meets.bind (fun polled left after => polled = none ∧ left.2.Live left.1.timer ∧
    after.events = world.events ∧ Rests d published.length left.1 after.memory)
  · apply onReceiver_meets
    apply (Channel.Receiver.poll_ensures rests.consuming carries _).mono (fun _ granted => granted)
    · rintro polled left memory ⟨found, delivered, carries⟩ after rfl quiet
      cases polled with
      | none =>
        exact ⟨rfl, live, quiet, rests.phase, found.2, delivered.trans rests.numbered, _, rfl, carries⟩
      | some message =>
        rw [found.1] at stale
        contradiction
    · rintro _ _ _ ⟨_, _, _, lost, _⟩
      exact lost.elim
    · intro fresh
      rw [fresh] at stale
      contradiction
  · rintro _ left after ⟨rfl, left', quiet, rests⟩
    exact ⟨left', quiet, rests⟩

/-- A call that asks nothing of the network. -/
theorem Processed.still {position next : Position} {events : List Host.Event}
    {result : Except Fault Unit} {left : State} {after : World} (live : left.2.Live left.1.timer)
    (quiet : after.events = events) (moves : Moves channel position (.processed [] result) next)
    (stands : At d channel left.1 after.memory count next) :
    Processed d channel count position events result left after :=
  ⟨live, [], next, quiet.trans (List.append_nil _).symm, moves, stands⟩

theorem process_meets {position : Position} (stands : At d channel state.1 world.memory count position)
    (live : state.2.Live state.1.timer) :
    process.Meets False state world
      (fun _ => Processed d channel count position world.events (.ok ()))
      fun fault => Processed d channel count position world.events (.error fault) := by
  unfold process
  apply Action.Meets.get_then
  cases stands with
  | idle rests =>
    simp only [rests.phase]
    apply (takeFrame_rests rests live).mono
    · rintro _ left after ⟨live, quiet, rests⟩
      exact .still live quiet .idle (.idle rests)
    · intro _ _ _ lost
      exact lost.elim
  | closed closed rests =>
    simp only [rests.phase]
    apply (takeFrame_rests rests live).mono
    · rintro _ left after ⟨live, quiet, rests⟩
      exact .still live quiet (.turn (.rest closed)) (.closed closed rests)
    · intro _ _ _ lost
      exact lost.elim
  | faced faces =>
    simp only [faces.phase]
    exact takeFrame_faced faces live
  | pending phase holds =>
    simp only [phase]
    obtain ⟨expiry, found⟩ := live.phase
    apply Action.Meets.ofExcept_then found
    cases expiry with
    | expired =>
      apply Action.Meets.modify_then
      exact offer_meets ⟨holds.frame, holds.consuming, holds.carries⟩ live
    | stopped | running => exact .still live rfl (.turn .wait) (.pending phase holds)
  | queued phase holds =>
    simp only [phase]
    exact .still live rfl (.turn .busy) (.queued phase holds)
  | sent phase holds =>
    simp only [phase]
    apply (release_meets holds live).mono
    · rintro _ left after ⟨rests, live, quiet⟩
      exact .still live quiet (.turn .complete) (.closed .completed rests)
    · intro _ _ _ lost
      exact lost.elim

/-- What the end promises depends on what the buffer carries alone. -/
theorem Rests.shown {consumer : Consumer} {memory : SharedMemory}
    (rests : Rests d count consumer memory) :
    ∃ published, published.length = count ∧ d.Carries memory published (.ofCount count) ∧
      ∀ after, d.Carries after published (.ofCount count) → Rests d count consumer after := by
  obtain ⟨published, length, carries⟩ := rests.carries
  exact ⟨published, length, carries, fun after carries =>
    { rests with carries := ⟨published, length, carries⟩ }⟩

theorem Holds.shown {consumer : Consumer} {memory : SharedMemory}
    (holds : Holds d channel payload count consumer memory) :
    ∃ published acked, published.length = count + 1 ∧ d.Carries memory published acked ∧
      Sequence.ofCount (count + 1) ≠ acked ∧
      ∀ after, d.Carries after published acked → Holds d channel payload count consumer after := by
  obtain ⟨published, length, carries⟩ := holds.carries
  exact ⟨published, _, length, carries, Sequence.ofCount_succ_ne count, fun after carries =>
    { holds with carries := ⟨published, length, carries⟩ }⟩

theorem Faces.shown {consumer : Consumer} {memory : SharedMemory}
    (faces : Faces d channel payload count consumer memory) :
    ∃ published acked, published.length = count + 1 ∧ d.Carries memory published acked ∧
      Sequence.ofCount (count + 1) ≠ acked ∧
      ∀ after, d.Carries after published acked → Faces d channel payload count consumer after := by
  obtain ⟨published, header, carries, length, rest⟩ := faces.carries
  refine ⟨_, _, ?_, carries, Sequence.ofCount_succ_ne count, fun after carries =>
    { faces with carries := ⟨published, header, carries, length, rest⟩ }⟩
  rw [List.length_append, length]
  rfl

/-- A new message may be posted when the end rests. -/
theorem At.shown {position : Position} {consumer : Consumer} {memory : SharedMemory}
    (stands : At d channel consumer memory count position) :
    ∃ published acked, published.length = count ∧ d.Carries memory published acked ∧
      (∀ after, d.Carries after published acked → At d channel consumer after count position) ∧
      (Sequence.ofCount count = acked →
        Rests d count consumer memory ∧ ∀ frame ∈ position, frame.2.Over) := by
  cases stands with
  | idle rests =>
    obtain ⟨published, length, carries, keeps⟩ := rests.shown
    exact ⟨published, _, length, carries, fun after carries => .idle (keeps after carries),
      fun _ => ⟨rests, nofun⟩⟩
  | closed closed rests =>
    obtain ⟨published, length, carries, keeps⟩ := rests.shown
    refine ⟨published, _, length, carries, fun after carries => .closed closed (keeps after carries),
      fun _ => ⟨rests, ?_⟩⟩
    rintro _ ⟨⟩
    exact closed
  | faced faces =>
    obtain ⟨published, acked, length, carries, unready, keeps⟩ := faces.shown
    exact ⟨published, acked, length, carries, fun after carries => .faced (keeps after carries),
      fun ready => absurd ready unready⟩
  | pending phase holds =>
    obtain ⟨published, acked, length, carries, unready, keeps⟩ := holds.shown
    exact ⟨published, acked, length, carries, fun after carries => .pending phase (keeps after carries),
      fun ready => absurd ready unready⟩
  | queued phase holds =>
    obtain ⟨published, acked, length, carries, unready, keeps⟩ := holds.shown
    exact ⟨published, acked, length, carries, fun after carries => .queued phase (keeps after carries),
      fun ready => absurd ready unready⟩
  | sent phase holds =>
    obtain ⟨published, acked, length, carries, unready, keeps⟩ := holds.shown
    exact ⟨published, acked, length, carries, fun after carries => .sent phase (keeps after carries),
      fun ready => absurd ready unready⟩

/-- The frame in the network's hands is sent. -/
theorem finish_moves {position : Position} {consumer after : Consumer} {memory : SharedMemory}
    (stands : At d channel consumer memory count position) (finished : consumer.finish = .ok after) :
    ∃ next, Moves channel position .finished next ∧ At d channel after memory count next ∧
      after.timer = consumer.timer := by
  unfold finish at finished
  split at finished
  · rename_i waiting
    cases finished
    cases stands with
    | queued phase holds =>
      exact ⟨_, .turn .finish, .sent rfl ⟨holds.frame, holds.consuming, holds.carries⟩, rfl⟩
    | idle rests | closed closed rests =>
      rw [rests.phase] at waiting
      contradiction
    | faced faces =>
      rw [faces.phase] at waiting
      contradiction
    | pending phase holds | sent phase holds =>
      rw [phase] at waiting
      contradiction
  · contradiction

end Consumer

end NodeLink.Ssdo.Outbound

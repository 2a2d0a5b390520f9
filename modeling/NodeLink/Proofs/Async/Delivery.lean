import NodeLink.Proofs.Async
import NodeLink.Proofs.Safety.Builder

/-! Frames from a builder to the handlers of their channels, where no access fails and both ends have the
same checksums. Who makes the calls knows from their results what waits to be processed: the messages
whose post succeeded, in their order, one at a time. The next call of `process` takes it. -/
namespace NodeLink.Async

open Channel (Custody Keeps)
open TripleBuffer (anyAccess)

/-- What a frame is built from, but for the timebase. -/
structure Posting where
  format : Channel.Format
  slim : Bool
  address : UInt16
  id : UInt8
  data : Bytes

def Posting.frame (posting : Posting) (timebase : UInt64) : Safety.Frame :=
  ⟨posting.format, posting.slim, timebase, posting.address % 1024, posting.id % 64, posting.data⟩

/-- A message under way: its channel and its frame. -/
structure Item where
  channel : UInt8
  frame : Safety.Frame

/-- A call of the builder or of either end. -/
inductive Call where
  | setTimebase (timebase : UInt64)
  | setChannel (channel : UInt8)
  | post (posting : Posting)
  | ready
  | register (channel : UInt8)
  | process

/-- What is seen of a call. -/
inductive Sight where
  | timed (timebase : UInt64)
  | addressed (channel : UInt8)
  | posted (posting : Posting) (result : Except Fault Unit)
  | asked (answer : Except Fault Bool)
  | registered (channel : UInt8) (result : Except Error Unit)
  | processed (events : List Host.Event) (result : Except Fault Bool)

/-- What becomes of a message: it is given to the handler of its channel and to no other one, or there
is none and this is reported. -/
inductive Takes (registered : List UInt8) (item : Item) :
    List Host.Event → Except Fault Bool → Prop where
  | delivered (known : item.channel ∈ registered) : Takes registered item
      [⟨.serves item.channel, true⟩, ⟨.deliverFrame item.channel item.frame, ()⟩] (.ok true)
  | unserved (known : item.channel ∈ registered) : Takes registered item
      [⟨.serves item.channel, false⟩] (.error (.error (.unknownChannel item.channel)))
  | unregistered (unknown : item.channel ∉ registered) : Takes registered item
      [] (.error (.error (.unknownChannel item.channel)))

/-- What the sights so far tell. -/
structure View where
  /-- The timebase given last. -/
  timebase : Option UInt64
  channel : UInt8
  registered : List UInt8
  /-- The messages that were posted and are to be processed, the oldest first. -/
  waiting : List Item

namespace View

def start (channel : UInt8) : View := ⟨none, channel, [], []⟩

def see (view : View) : Sight → View
  | .timed timebase => { view with timebase := some timebase }
  | .addressed channel => { view with channel }
  | .posted posting (.ok ()) =>
    let item := view.timebase.map fun timebase => ⟨view.channel, posting.frame timebase⟩
    { view with waiting := view.waiting ++ item.toList }
  | .registered channel (.ok ()) => { view with registered := channel :: view.registered }
  | .processed _ _ => { view with waiting := view.waiting.tail }
  | _ => view

/-- What is to be seen next, if it is of that kind. -/
def Expects (view : View) : Sight → Prop
  | .posted _ (.ok ()) => view.waiting = [] ∧ view.timebase ≠ none
  | .asked answer => answer = .ok view.waiting.isEmpty
  | .processed events result =>
    match view.waiting with
    | [] => events = [] ∧ result = .ok false
    | item :: _ => Takes view.registered item events result
  | _ => True

/-- Each sight is as those before it let expect. -/
inductive Admits : View → List Sight → Prop where
  | nil (view : View) : Admits view []
  | cons {view : View} {sight : Sight} {rest : List Sight} (expected : view.Expects sight)
      (others : (view.see sight).Admits rest) : Admits view (sight :: rest)

theorem Admits.append {view : View} {log : List Sight} {sight : Sight} (admitted : view.Admits log)
    (expected : (log.foldl see view).Expects sight) : view.Admits (log ++ [sight]) := by
  induction admitted with
  | nil => exact .cons expected (.nil _)
  | cons first others ih => exact .cons first (ih expected)

end View

variable {faults : Prop} {d : Descriptor} {count : Nat} {custody : Custody}
  {inner : Channel.Receiver} {memory : SharedMemory} {sender : Sender} {receiver : Receiver}
  {world : World} {header : Channel.Header} {payload : Bytes} {message : Channel.Message} {item : Item}
  {view : View}

theorem Takes.congr {known listed : List UInt8} {events : List Host.Event} {result : Except Fault Bool}
    (same : ∀ channel, channel ∈ known ↔ channel ∈ listed) (takes : Takes known item events result) :
    Takes listed item events result := by
  cases takes with
  | delivered member => exact .delivered ((same _).mp member)
  | unserved member => exact .unserved ((same _).mp member)
  | unregistered absent => exact .unregistered fun member => absent ((same _).mpr member)

theorem Receiver.register_ok {channel : UInt8} {left : Receiver}
    (accepted : receiver.register channel = .ok left) : left.receiver = receiver.receiver ∧
      ∀ other, other ∈ left.channels ↔ other = channel ∨ other ∈ receiver.channels := by
  unfold register at accepted
  split at accepted
  · rename_i known
    cases accepted
    exact ⟨rfl, fun other => ⟨.inr, Or.rec (fun same => same ▸ known) id⟩⟩
  · split at accepted
    · contradiction
    · cases accepted
      refine ⟨rfl, fun other => ?_⟩
      rw [List.mem_append, List.mem_singleton]
      exact Or.comm

theorem setUp_starts {owner : Role} {channel : UInt8} {system : Acyclic.System acyclic}
    (made : Acyclic.System.setUp acyclic owner d channel memory = .ok system) :
    system.producer.sender.channel = channel ∧ system.consumer.channels = [] := by
  unfold Acyclic.System.setUp at made
  split at made
  · contradiction
  rename_i producing consuming after connected
  obtain ⟨produces, consumes, -⟩ := TripleBuffer.connected_shows connected
  split at made
  · rename_i producer consumer opened linked
    cases made
    change Sender.new producing channel = .ok producer at opened
    change Receiver.new consuming = .ok consumer at linked
    unfold Sender.new Channel.Sender.new at opened
    unfold Receiver.new at linked
    rw [if_pos produces.role] at opened
    rw [Channel.Receiver.new_of_consumes consumes] at linked
    cases opened
    cases linked
    exact ⟨rfl, rfl⟩
  · contradiction
  · contradiction

/-- A message that is sent waits in the buffer. One that is refused leaves the sender as it was. -/
theorem Sender.post_waits (format : Channel.Format) (message : Bytes)
    (offers : Channel.Offers d (custody.posted count) sender.sender)
    (keeps : Keeps d count custody inner memory) :
    (post format message).Ensures faults anyAccess sender memory
      (fun _ left after => custody = .settled ∧ left.sender.channel = sender.sender.channel ∧
        Channel.Offers d (count + 1) left.sender ∧ ∃ header, header.format = format.toByte ∧
          header.channel = sender.sender.channel ∧ Keeps d count (.waiting header message) inner after)
      fun _ left after => left = sender ∧ Keeps d count custody inner after := by
  refine Action.Ensures.bind _ (Action.ensures_part ?_) fun _ left after posted => posted
  apply (keeps.post offers).mono (fun _ granted => granted)
  · intro _ left after posted
    obtain ⟨rfl, rfl, keeps⟩ := posted
    exact ⟨rfl, rfl, offers.next, _, rfl, rfl, keeps⟩
  · intro fault left after refused
    obtain ⟨rfl, keeps⟩ := refused
    exact ⟨rfl, keeps⟩

section Lines

variable [Checksums]

/-- The builder, both ends and the world they work in. -/
structure Line where
  builder : Safety.Builder
  sender : Sender
  receiver : Receiver
  world : World
  log : List Sight

namespace Line

/-- Start a channel over memory without faults. -/
def setUp (owner : Role) (d : Descriptor) (channel : UInt8) (memory : SharedMemory) :
    Except Fault Line :=
  match Acyclic.System.setUp acyclic owner d channel memory with
  | .error fault => .error fault
  | .ok system => .ok ⟨.new, system.producer, system.consumer, system.world, []⟩

def post (surroundings : Surroundings) (line : Line) (posting : Posting) : Line :=
  match line.builder.build posting.format posting.slim posting.address posting.id posting.data with
  | (.error error, builder) =>
    { line with builder, log := line.log ++ [.posted posting (.error (.error error))] }
  | (.ok message, builder) =>
    let ((result, sender), world) :=
      (Sender.transmit message).onHost.run surroundings.onHost line.sender line.world
    { line with builder, sender, world, log := line.log ++ [.posted posting result] }

def ready (surroundings : Surroundings) (line : Line) : Line :=
  let ((answer, sender), world) :=
    Sender.ready.onHost.run surroundings.onHost line.sender line.world
  { line with sender, world, log := line.log ++ [.asked answer] }

def register (line : Line) (channel : UInt8) : Line :=
  match line.receiver.register channel with
  | .error error => { line with log := line.log ++ [.registered channel (.error error)] }
  | .ok receiver => { line with receiver, log := line.log ++ [.registered channel (.ok ())] }

def process (surroundings : Surroundings) (line : Line) : Line :=
  let ((result, receiver), world) :=
    Receiver.process.run surroundings.onHost line.receiver line.world
  let events := world.events.drop line.world.events.length
  { line with receiver, world, log := line.log ++ [.processed events result] }

def call (surroundings : Surroundings) (line : Line) : Call → Line
  | .setTimebase timebase =>
    { line with
      builder := line.builder.withTimebase timebase, log := line.log ++ [.timed timebase] }
  | .setChannel channel =>
    { line with
      sender := line.sender.onChannel channel, log := line.log ++ [.addressed channel] }
  | .post posting => line.post surroundings posting
  | .ready => line.ready surroundings
  | .register channel => line.register channel
  | .process => line.process surroundings

def after (surroundings : Surroundings) (line : Line) (calls : List Call) : Line :=
  calls.foldl (call surroundings) line

end Line

variable {line : Line} {start : UInt8}

/-- A message holds an item: its header names the channel and the format, and the reader finds the
frame. -/
structure Item.Held (item : Item) (header : Channel.Header) (payload : Bytes) : Prop where
  format : header.format = item.frame.format.toByte
  channel : header.channel = item.channel
  reads : Safety.Frame.ofMessage payload = .ok item.frame

theorem Sender.transmit_toMessage (frame : Safety.Frame) :
    transmit frame.toMessage = post frame.format frame.toMessage := by
  have first : frame.toMessage = frame.format.toByte :: frame.toMessage.tail := rfl
  rw [first]
  simp only [transmit, Channel.Format.ofByte_toByte]
  rfl

theorem Item.Held.frameOf (held : item.Held message.header message.payload) :
    Receiver.frameOf message = .ok item.frame := by
  unfold Receiver.frameOf
  rw [held.reads, held.format]
  exact if_pos rfl

/-- What a call has done with a message, from what it asked and what it returned. -/
def Took (receiver : Receiver) (world : World) (item : Item) (result : Except Fault Bool)
    (after : World) : Prop :=
  ∃ more, after.events = world.events ++ more ∧ Takes receiver.channels item more result

theorem Receiver.dispatch_takes (held : item.Held message.header message.payload) :
    (dispatch message).Meets faults receiver world
      (fun _ left after => left = receiver ∧ after.memory = world.memory ∧
        Took receiver world item (.ok true) after)
      fun fault left after => left = receiver ∧ after.memory = world.memory ∧
        Took receiver world item (.error fault) after := by
  unfold dispatch
  simp only [held.channel]
  apply Action.Meets.get_then
  split
  · rename_i known
    apply Action.Meets.ask_then
    · intro access same
      cases same
    · intro serves asked memory told
      cases serves with
      | false => exact ⟨rfl, memory, _, told, .unserved known⟩
      | true =>
        apply Action.Meets.ofExcept_then held.frameOf
        apply Action.Meets.ask
        · intro access same
          cases same
        · intro answer after quiet given
          rw [told, List.append_assoc] at given
          exact ⟨rfl, quiet.trans memory, _, given, .delivered known⟩
  · rename_i unknown
    exact ⟨rfl, rfl, [], (List.append_nil _).symm, .unregistered unknown⟩

/-- Where no access fails, the message that waits is dealt with and settled. -/
theorem Receiver.process_takes (held : item.Held header payload)
    (keeps : Keeps d count (.waiting header payload) receiver.receiver world.memory) :
    Receiver.process.Meets False receiver world
      (fun report left after => left.channels = receiver.channels ∧
        Keeps d (count + 1) .settled left.receiver after.memory ∧
        Took receiver world item (.ok report) after)
      fun fault left after => left.channels = receiver.channels ∧
        Keeps d (count + 1) .settled left.receiver after.memory ∧
        Took receiver world item (.error fault) after := by
  apply keeps.poll_some_then
  · intro message inner after headed same single due owed quiet
    rw [← headed, ← same] at held
    simp only [single]
    apply Action.Meets.bind (fun result left next => left.channels = receiver.channels ∧
      Keeps d count .owed left.receiver next.memory ∧
      Took receiver world item (result.map fun _ => true) next)
    · apply Action.Meets.outcome
      apply (dispatch_takes held).mono
      · intro _ left next ended
        obtain ⟨rfl, memory, more, told, takes⟩ := ended
        exact ⟨rfl, memory ▸ owed, more, quiet ▸ told, takes⟩
      · intro fault left next ended
        obtain ⟨rfl, memory, more, told, takes⟩ := ended
        exact ⟨rfl, memory ▸ owed, more, quiet ▸ told, takes⟩
    · intro result left next judged
      obtain ⟨channels, owed, took⟩ := judged
      apply owed.acknowledge_then due
      · intro inner last settled same
        have took : Took receiver world item (result.map fun _ => true) last := by
          unfold Took at took ⊢
          rwa [same]
        cases result with
        | error fault => exact ⟨channels, settled, took⟩
        | ok done => exact ⟨channels, settled, took⟩
      · exact fun _ _ lost _ => lost.elim
  · exact fun _ _ lost _ => lost.elim

/-- Where no access fails, a call with nothing to take does nothing. -/
theorem Receiver.process_rests (keeps : Keeps d count .settled receiver.receiver world.memory) :
    Receiver.process.Meets False receiver world
      (fun report left after => report = false ∧ left.channels = receiver.channels ∧
        Keeps d count .settled left.receiver after.memory ∧ after.events = world.events)
      fun _ _ _ => False := by
  apply keeps.poll_none_then .settled
  · intro inner after kept quiet
    exact ⟨rfl, rfl, kept, quiet⟩
  · exact fun _ _ lost _ => lost

/-- The items that are to be processed are in the buffer. -/
inductive Occupies : Custody → List Item → Prop where
  | settled : Occupies .settled []
  | waiting {header : Channel.Header} {payload : Bytes} {item : Item}
      (held : item.Held header payload) : Occupies (.waiting header payload) [item]

theorem Occupies.eq_nil {waiting : List Item} (occupies : Occupies .settled waiting) : waiting = [] := by
  cases occupies
  rfl

theorem Occupies.isEmpty_iff {waiting : List Item} (occupies : Occupies custody waiting) :
    waiting.isEmpty = true ↔ custody = .settled := by
  cases occupies with
  | settled => exact iff_of_true rfl rfl
  | waiting held => exact iff_of_false nofun nofun

/-- The view agrees with the ends and with what is between them. -/
structure Line.Stands (d : Descriptor) (line : Line) (view : View) (count : Nat) (custody : Custody) :
    Prop where
  offers : Channel.Offers d (custody.posted count) line.sender.sender
  keeps : Keeps d count custody line.receiver.receiver line.world.memory
  timed : ∀ timebase, line.builder.timebase = some timebase → view.timebase = some timebase
  addressed : line.sender.sender.channel = view.channel
  registered : ∀ channel, channel ∈ line.receiver.channels ↔ channel ∈ view.registered
  occupies : Occupies custody view.waiting

/-- What a call has come to, when one more sight was seen. -/
def Line.Shows (d : Descriptor) (view : View) (before after : Line) : Prop :=
  ∃ sight, after.log = before.log ++ [sight] ∧ view.Expects sight ∧
    ∃ count custody, after.Stands d (view.see sight) count custody

/-- A builder has no timebase but the one it was given. -/
theorem build_timebase (builder : Safety.Builder) (posting : Posting) {timebase : UInt64}
    (left : (builder.build posting.format posting.slim posting.address posting.id
      posting.data).2.timebase = some timebase) : builder.timebase = some timebase := by
  unfold Safety.Builder.build at left
  split at left
  · exact left
  · split at left
    · exact left
    · contradiction

namespace Line.Stands

/-- A frame that was built and sent waits; else all is as it was. -/
theorem post (surroundings : Surroundings) (stands : line.Stands d view count custody)
    (posting : Posting) : Shows d view line (line.post surroundings posting) := by
  obtain ⟨offers, keeps, timed, addressed, registered, occupies⟩ := stands
  have still (timebase : UInt64) (left : _ = some timebase) : view.timebase = some timebase :=
    timed timebase (build_timebase line.builder posting left)
  unfold Line.post
  generalize built : line.builder.build posting.format posting.slim posting.address posting.id
    posting.data = outcome at still
  obtain ⟨error | message, builder⟩ := outcome
  · exact ⟨_, rfl, trivial, count, custody, offers, keeps, still, addressed, registered, occupies⟩
  obtain ⟨short, timebase, given, rfl⟩ := Safety.Builder.build_eq_ok_iff.mp (congrArg Prod.fst built)
  generalize framed : (⟨posting.format, posting.slim, timebase, posting.address, posting.id,
    posting.data⟩ : Safety.Frame) = frame
  dsimp only
  have posts : (Sender.transmit frame.toMessage).Ensures surroundings.Faulty anyAccess line.sender
      line.world.memory _ _ := Sender.transmit_toMessage frame ▸ Sender.post_waits _ _ offers keeps
  have ended := posts.onHost.run surroundings
  generalize (Sender.transmit frame.toMessage).onHost.run surroundings.onHost line.sender line.world =
    outcome at ended
  obtain ⟨⟨fault | done, sender⟩, world⟩ := outcome
  · obtain ⟨⟨rfl, keeps⟩, -⟩ := ended
    exact ⟨_, rfl, trivial, count, custody, offers, keeps, still, addressed, registered, occupies⟩
  · obtain ⟨⟨rfl, same, offers, header, format, channel, keeps⟩, -⟩ := ended
    have free : view.waiting = [] := occupies.eq_nil
    have reads : Safety.Frame.ofMessage (frame.toMessage ++ []) = .ok frame.onWire :=
      Safety.Frame.ofMessage_toMessage (framed ▸ short) []
    have held : Item.Held ⟨view.channel, posting.frame timebase⟩ header frame.toMessage := by
      rw [List.append_nil] at reads
      subst framed
      exact ⟨format, channel.trans addressed, reads⟩
    have taken : (view.see (.posted posting (.ok ()))).waiting =
        [⟨view.channel, posting.frame timebase⟩] := by
      simp only [View.see, free, timed timebase given]
      rfl
    refine ⟨.posted posting (.ok ()), rfl, ⟨free, ?_⟩, count, .waiting header frame.toMessage, offers,
      keeps, still, same.trans addressed, registered, taken ▸ .waiting held⟩
    rw [timed timebase given]
    exact nofun

theorem ready {surroundings : Surroundings} (calm : ¬ surroundings.Faulty)
    (stands : line.Stands d view count custody) : Shows d view line (line.ready surroundings) := by
  obtain ⟨offers, keeps, timed, addressed, registered, occupies⟩ := stands
  have answers : Sender.ready.Ensures surroundings.Faulty anyAccess line.sender line.world.memory _ _ :=
    Sender.ready_ensures offers keeps
  have ended := answers.onHost.run surroundings
  unfold Line.ready
  generalize Sender.ready.onHost.run surroundings.onHost line.sender line.world = outcome at ended
  obtain ⟨⟨fault | answer, sender⟩, world⟩ := outcome
  · exact absurd ended.1.1 calm
  · obtain ⟨⟨able, rfl, same⟩, -⟩ := ended
    have told : answer = view.waiting.isEmpty :=
      Bool.eq_iff_iff.mpr (able.trans occupies.isEmpty_iff.symm)
    exact ⟨_, rfl, congrArg Except.ok told, count, custody, offers, same ▸ keeps, timed, addressed,
      registered, occupies⟩

theorem register (stands : line.Stands d view count custody) (channel : UInt8) :
    Shows d view line (line.register channel) := by
  obtain ⟨offers, keeps, timed, addressed, registered, occupies⟩ := stands
  unfold Line.register
  cases result : line.receiver.register channel with
  | error error =>
    exact ⟨_, rfl, trivial, count, custody, offers, keeps, timed, addressed, registered, occupies⟩
  | ok receiver =>
    obtain ⟨same, members⟩ := Receiver.register_ok result
    refine ⟨_, rfl, trivial, count, custody, offers, same ▸ keeps, timed, addressed, ?_, occupies⟩
    intro other
    rw [members, registered]
    exact List.mem_cons.symm

/-- The oldest message is dealt with, if there is one. -/
theorem process {surroundings : Surroundings} (calm : ¬ surroundings.Faulty)
    (stands : line.Stands d view count custody) : Shows d view line (line.process surroundings) := by
  obtain ⟨offers, keeps, timed, addressed, registered, occupies⟩ := stands
  unfold Line.process
  generalize waits : view.waiting = waiting at occupies
  cases occupies with
  | settled =>
    have ended := (Action.Meets.of_faultless calm (Receiver.process_rests keeps)).run surroundings
    generalize Receiver.process.run surroundings.onHost line.receiver line.world = outcome at ended
    obtain ⟨⟨fault | report, receiver⟩, world⟩ := outcome
    · exact ended.elim
    · obtain ⟨rfl, channels, keeps, quiet⟩ := ended
      change world.events = _ at quiet
      have expected : view.Expects (.processed (world.events.drop line.world.events.length) (.ok false)) := by
        simp only [View.Expects, waits, quiet, List.drop_length, and_self]
      refine ⟨_, rfl, expected, count, .settled, offers, keeps, timed, addressed, channels ▸ registered, ?_⟩
      simp only [View.see, waits, List.tail_nil]
      exact .settled
  | waiting held =>
    have ended := (Action.Meets.of_faultless calm (Receiver.process_takes held keeps)).run surroundings
    generalize Receiver.process.run surroundings.onHost line.receiver line.world = outcome at ended
    obtain ⟨⟨result, receiver⟩, world⟩ := outcome
    obtain ⟨channels, keeps, more, told, takes⟩ : receiver.channels = line.receiver.channels ∧
        Keeps d (count + 1) .settled receiver.receiver world.memory ∧
        Took line.receiver line.world _ result world := by
      cases result <;> exact ended
    have expected : view.Expects (.processed (world.events.drop line.world.events.length) result) := by
      simp only [View.Expects, waits, told, List.drop_left]
      exact takes.congr registered
    refine ⟨_, rfl, expected, count + 1, .settled, offers, keeps, timed, addressed,
      channels ▸ registered, ?_⟩
    simp only [View.see, waits, List.tail_cons]
    exact .settled

theorem call {surroundings : Surroundings} (calm : ¬ surroundings.Faulty)
    (stands : line.Stands d view count custody) (call : Call) :
    Shows d view line (line.call surroundings call) := by
  cases call with
  | setTimebase timebase =>
    obtain ⟨offers, keeps, timed, addressed, registered, occupies⟩ := stands
    exact ⟨_, rfl, trivial, count, custody, offers, keeps, fun _ => id, addressed, registered, occupies⟩
  | setChannel channel =>
    obtain ⟨offers, keeps, timed, addressed, registered, occupies⟩ := stands
    exact ⟨_, rfl, trivial, count, custody, ⟨offers.producing, offers.numbered⟩, keeps, timed, rfl,
      registered, occupies⟩
  | post posting => exact stands.post surroundings posting
  | ready => exact stands.ready calm
  | register channel => exact stands.register channel
  | process => exact stands.process calm

/-- The sights of a run are as each lets expect the next. -/
theorem after {surroundings : Surroundings} (calm : ¬ surroundings.Faulty)
    (stands : line.Stands d (line.log.foldl View.see (.start start)) count custody)
    (admitted : (View.start start).Admits line.log) (calls : List Call) :
    (View.start start).Admits (line.after surroundings calls).log := by
  induction calls generalizing line count custody with
  | nil => exact admitted
  | cons call rest ih =>
    obtain ⟨sight, logged, expected, next, moved, stands⟩ := stands.call calm call
    have stands : (line.call surroundings call).Stands d
        ((line.call surroundings call).log.foldl View.see (.start start)) next moved := by
      rw [logged, List.foldl_append]
      exact stands
    apply ih stands
    rw [logged]
    exact admitted.append expected

end Line.Stands

theorem Line.setUp_stands {owner : Role} (made : Line.setUp owner d start memory = .ok line) :
    line.log = [] ∧ line.Stands d (.start start) 0 .settled := by
  unfold Line.setUp at made
  split at made
  · contradiction
  rename_i system started
  cases made
  have stands := Acyclic.System.setUp_stands lawful started
  obtain ⟨channel, empty⟩ := setUp_starts started
  refine ⟨rfl, stands.offers, stands.keeps, nofun, channel, ?_, .settled⟩
  intro channel
  rw [empty]
  rfl

/-- Where no access fails, each frame whose post succeeded is processed once, by the next call of
`process` and in the order of the posts: the handler that serves its channel gets the frame that was
posted, if the channel is registered and served by then, else the channel is reported as unknown. The
sender is ready when none is to be processed. -/
theorem posted_frames_processed_in_order {owner : Role} {d : Descriptor} {start : UInt8}
    {memory : SharedMemory} {line : Line} (made : Line.setUp owner d start memory = .ok line)
    (surroundings : Surroundings) (calls : List Call) :
    (View.start start).Admits (line.after surroundings.calm calls).log := by
  obtain ⟨empty, stands⟩ := Line.setUp_stands made
  have stands : line.Stands d (line.log.foldl View.see (.start start)) 0 .settled := by
    rw [empty]
    exact stands
  apply stands.after surroundings.not_faulty_calm
  rw [empty]
  exact .nil _

end Lines

/-- The frames that handlers were given, each with its channel. -/
def given (events : List Host.Event) : List (UInt8 × Safety.Frame) :=
  events.filterMap fun
    | ⟨.deliverFrame channel frame, _⟩ => some (channel, frame)
    | _ => none

/-- The handlers get two frames. A third post was refused, for the first frame still waited, and a fourth
frame was for a channel that was registered only later. -/
theorem posted_frames_processed_in_order_twice :
    let surroundings : Surroundings := ⟨fun _ => true, fun _ => Surroundings.plainAnswer⟩
    let full : Posting := ⟨.processData, false, 0x410, 0x45, [9, 8, 7]⟩
    let slim : Posting := ⟨.serviceData, true, 0x3FF, 63, [1]⟩
    let calls : List Call := [.register 1, .setTimebase 42, .post full, .setTimebase 43, .post full,
      .process, .ready, .setChannel 2, .setTimebase 43, .post slim, .process, .register 2,
      .setTimebase 44, .post slim, .process, .process]
    ∃ line, Line.setUp .producer ⟨.asyncReceive, 0, 40⟩ 1 (.zeroed 0 43) = .ok line ∧
      let last := line.after surroundings.calm calls
      given last.world.events = [(1, ⟨.processData, false, 42, 0x10, 5, [9, 8, 7]⟩),
        (2, ⟨.serviceData, true, 44, 0x3FF, 63, [1]⟩)] ∧
      (View.start 1).Admits last.log := by
  intro surroundings full slim calls
  have frames : (Line.setUp .producer ⟨.asyncReceive, 0, 40⟩ 1 (.zeroed 0 43)).toOption.map
      (fun line => given (line.after surroundings.calm calls).world.events) =
        some [(1, ⟨.processData, false, 42, 0x10, 5, [9, 8, 7]⟩),
          (2, ⟨.serviceData, true, 44, 0x3FF, 63, [1]⟩)] := by decide +kernel
  cases made : Line.setUp .producer ⟨.asyncReceive, 0, 40⟩ 1 (.zeroed 0 43) with
  | error fault =>
    rw [made] at frames
    cases frames
  | ok line =>
    rw [made, Except.toOption, Option.map_some, Option.some_inj] at frames
    exact ⟨line, rfl, frames, posted_frames_processed_in_order made surroundings calls⟩

end NodeLink.Async

import NodeLink.Proofs.Ssdo.OutboundConsumer
import NodeLink.Proofs.TripleBuffer.Connection

/-! Frames from the application to the network, over any run of the two ends in which no access fails.
The network answers as it likes and calls come in any order: frames are settled one after the other, and
the next one is posted after that. -/
namespace NodeLink.Ssdo.Outbound

open Channel (number)
open TripleBuffer (anyAccess)

/-- The two ends on one buffer, with what was seen of the frames. -/
structure System where
  world : World
  producer : Producer
  consumer : Consumer.State
  log : List Sight

inductive Call where
  | post (payload : Bytes)
  | process
  | finish
  | tick
  deriving DecidableEq, Repr

namespace System

/-- The ends right after the buffer was made, on the processor that owns its memory. -/
def setUp (owner : Role) (d : Descriptor) (channel : UInt8) (retryCycles : Nat) (pool : TimerPool)
    (memory : SharedMemory) : Except Fault System :=
  match (TripleBuffer.connect owner d).inWords.run SharedMemory.onWords memory with
  | (.error fault, _) => .error fault
  | (.ok (producing, consuming), memory) =>
    match Producer.new producing channel, Consumer.new consuming retryCycles pool with
    | .ok producer, .ok consumer => .ok ⟨⟨memory, 0, []⟩, producer, consumer, []⟩
    | .error error, _ | _, .error error => .error (.error error)

def post (surroundings : Surroundings) (system : System) (payload : Bytes) : System :=
  let outcome := (Producer.post payload).onHost.run surroundings.onHost system.producer system.world
  { system with
    producer := outcome.1.2
    world := outcome.2
    log := system.log ++
      match outcome.1.1 with
      | .ok _ => [.posted payload]
      | .error _ => [] }

def process (surroundings : Surroundings) (system : System) : System :=
  let outcome := Consumer.process.run surroundings.onHost system.consumer system.world
  let asked := outcome.2.events.drop system.world.events.length
  { system with
    consumer := outcome.1.2
    world := outcome.2
    log := system.log ++ [.processed (offersIn asked) outcome.1.1] }

def finish (system : System) : System :=
  match system.consumer.1.finish with
  | .error _ => system
  | .ok consumer =>
    { system with consumer := (consumer, system.consumer.2), log := system.log ++ [.finished] }

def tick (surroundings : Surroundings) (system : System) : System :=
  let outcome := Consumer.tick.run surroundings.onHost system.consumer system.world
  { system with consumer := outcome.1.2, world := outcome.2 }

def call (surroundings : Surroundings) (system : System) : Call → System
  | .post payload => system.post surroundings payload
  | .process => system.process surroundings
  | .finish => system.finish
  | .tick => system.tick surroundings

def after (surroundings : Surroundings) (system : System) (calls : List Call) : System :=
  calls.foldl (call surroundings) system

end System

/-- The lives of the frames so far, with the one of the frame posted last. -/
def Recorded (channel : UInt8) (log : List Sight) : Position → Prop
  | none => ∃ idle, log = List.replicate idle (.processed [] (.ok ()))
  | some (payload, progress) => ∃ (idle : Nat) (settled : List (Bytes × List Sight)) (life : List Sight),
    log = List.replicate idle (.processed [] (.ok ())) ++ settled.flatMap Prod.snd ++ life ∧
    (∀ frame ∈ settled, Settled channel frame.1 frame.2) ∧ Life channel payload life progress

variable {d : Descriptor} {channel : UInt8} {log : List Sight} {sight : Sight}
  {position next : Position} {count : Nat} {system : System} {surroundings : Surroundings}

theorem Recorded.moves (recorded : Recorded channel log position)
    (moves : Moves channel position sight next) : Recorded channel (log ++ [sight]) next := by
  cases moves with
  | idle =>
    obtain ⟨idle, rfl⟩ := recorded
    exact ⟨idle + 1, List.replicate_succ'.symm⟩
  | turn turn =>
    obtain ⟨idle, settled, life, rfl, all, lives⟩ := recorded
    exact ⟨idle, settled, _, List.append_assoc _ _ _, all, lives.turn turn⟩
  | post closed payload =>
    cases position with
    | none =>
      obtain ⟨idle, rfl⟩ := recorded
      refine ⟨idle, [], _, ?_, nofun, .posted⟩
      rw [List.flatMap_nil, List.append_nil]
    | some frame =>
      obtain ⟨idle, settled, life, rfl, all, lives⟩ := recorded
      refine ⟨idle, settled ++ [(frame.1, life)], _, ?_, ?_, .posted⟩
      · simp only [List.flatMap_append, List.flatMap_cons, List.flatMap_nil, List.append_nil,
          List.append_assoc]
      · intro other member
        cases List.mem_append.mp member with
        | inl earlier => exact all other earlier
        | inr last =>
          cases List.mem_singleton.mp last
          exact lives.settled (closed frame rfl)

theorem Recorded.orderly (recorded : Recorded channel log position) : Orderly channel log := by
  cases position with
  | none =>
    obtain ⟨idle, rfl⟩ := recorded
    refine ⟨idle, [], none, ?_, nofun, nofun⟩
    simp only [List.flatMap_nil, List.append_nil, Option.map_none, Option.getD_none]
  | some frame =>
    obtain ⟨idle, settled, life, rfl, all, lives⟩ := recorded
    refine ⟨idle, settled, some (frame.1, life), rfl, all, ?_⟩
    rintro _ ⟨⟩
    exact lives.faithful

/-- What holds between two calls. -/
structure System.Sound (d : Descriptor) (channel : UInt8) (system : System) (count : Nat)
    (position : Position) : Prop where
  producing : system.producer.sender.buffer.Produces d
  channelled : system.producer.sender.channel = channel
  numbered : system.producer.sender.next = number (count + 1)
  live : system.consumer.2.Live system.consumer.1.timer
  stands : Consumer.At d channel system.consumer.1 system.world.memory count position
  recorded : Recorded channel system.log position

/-- A call leaves no more to see than the next step of a frame. -/
def System.Leads (d : Descriptor) (channel : UInt8) (before : System) (position : Position)
    (after : System) : Prop :=
  (after.log = before.log ∧ ∃ count, after.Sound d channel count position) ∨
    ∃ sight count next, after.log = before.log ++ [sight] ∧ Moves channel position sight next ∧
      after.Sound d channel count next

theorem Producer.post_ensures {producer : Producer} {memory : SharedMemory} (payload : Bytes)
    {published : List Bytes} {acked : Sequence} (producing : producer.sender.buffer.Produces d)
    (carries : d.Carries memory published acked) :
    (Producer.post payload).Ensures False anyAccess producer memory
      (fun _ left after => left = { producer with
          sender := { producer.sender with next := producer.sender.next.next } } ∧
        Sequence.ofCount published.length = acked ∧
        ∃ header, header.channel = producer.sender.channel ∧ header.number = producer.sender.next ∧
          (producer.sender.next ≠ 0 → header.Heads payload) ∧
          d.Carries after (published ++ [Channel.Header.toBytes header ++ payload]) acked)
      fun _ left after => left = producer ∧ d.Carries after published acked := by
  unfold Producer.post
  split
  · exact ⟨rfl, carries⟩
  · apply Action.Ensures.bind _ (Action.ensures_part ((Channel.Sender.post_ensures producing
      carries).mono (fun _ granted => granted) _ _))
    · intro _ left after posted
      exact posted
    · rintro _ _ after ⟨_, rfl, ready, fits, carries⟩
      exact ⟨rfl, ready, _, rfl, rfl, fun numbered => Channel.Sender.header_heads numbered fits, carries⟩
    · rintro _ _ after ⟨rfl, carries, _⟩
      exact ⟨rfl, carries⟩

theorem post_leads (payload : Bytes) (faultless : ¬ surroundings.Faulty)
    (sound : system.Sound d channel count position) :
    System.Leads d channel system position (system.post surroundings payload) := by
  obtain ⟨published, acked, length, carries, keeps, rests⟩ := sound.stands.shown
  have posts := Producer.post_ensures payload sound.producing carries
  have ended := (posts.of_faultless faultless).onHost.run surroundings
  unfold System.post
  generalize (Producer.post payload).onHost.run surroundings.onHost system.producer system.world =
    outcome at ended
  obtain ⟨⟨fault | _, left⟩, world⟩ := outcome
  · obtain ⟨⟨rfl, carries⟩, _⟩ := ended
    simp only [List.append_nil]
    exact .inl ⟨rfl, count, { sound with stands := keeps _ carries }⟩
  · obtain ⟨⟨rfl, ready, header, named, numbered, heads, carries⟩, _⟩ := ended
    rw [length] at ready
    obtain ⟨rests, closed⟩ := rests ready
    have some : system.producer.sender.next ≠ 0 := by
      rw [sound.numbered]
      exact Channel.number_succ_ne_zero count
    have moves : Moves channel position (.posted payload) _ := .post closed payload
    refine .inr ⟨_, count + 1, _, rfl, moves, ?_⟩
    exact {
      producing := sound.producing
      channelled := sound.channelled
      numbered := congrArg Channel.MessageNumber.next sound.numbered
      live := sound.live
      stands := .faced ⟨rests.phase, rests.consuming, rests.numbered, published, header,
        ready ▸ carries, length, named.trans sound.channelled, numbered.trans sound.numbered,
        heads some⟩
      recorded := sound.recorded.moves moves }

theorem process_leads (faultless : ¬ surroundings.Faulty)
    (sound : system.Sound d channel count position) :
    System.Leads d channel system position (system.process surroundings) := by
  have meets := Consumer.process_meets sound.stands sound.live
  have ended := (meets.of_faultless faultless).run surroundings
  unfold System.process
  generalize Consumer.process.run surroundings.onHost system.consumer system.world = outcome at ended
  obtain ⟨⟨result, left⟩, world⟩ := outcome
  have processed : Consumer.Processed d channel count position system.world.events result left world := by
    cases result <;> exact ended
  obtain ⟨live, more, next, events, moves, stands⟩ := processed
  have asked : world.events.drop system.world.events.length = more := by
    rw [events, List.drop_left]
  simp only [asked]
  exact .inr ⟨_, count, next, rfl, moves, { sound with
    live, stands
    recorded := sound.recorded.moves moves }⟩

theorem finish_leads (sound : system.Sound d channel count position) :
    System.Leads d channel system position system.finish := by
  unfold System.finish
  split
  · exact .inl ⟨rfl, count, sound⟩
  · rename_i consumer finished
    obtain ⟨next, moves, stands, timer⟩ := Consumer.finish_moves sound.stands finished
    exact .inr ⟨_, count, next, rfl, moves, { sound with
      live := timer.symm ▸ sound.live
      stands
      recorded := sound.recorded.moves moves }⟩

theorem tick_leads (sound : system.Sound d channel count position) :
    System.Leads d channel system position (system.tick surroundings) := by
  obtain ⟨pool, ticked, live⟩ := sound.live.tick
  have called : system.tick surroundings = { system with consumer := (system.consumer.1, pool) } := by
    simp only [System.tick, Consumer.tick, Action.run_onTimer _ _ ticked]
  rw [called]
  exact .inl ⟨rfl, count, { sound with live }⟩

theorem call_leads (faultless : ¬ surroundings.Faulty) (sound : system.Sound d channel count position)
    (call : Call) : System.Leads d channel system position (system.call surroundings call) := by
  cases call with
  | post payload => exact post_leads payload faultless sound
  | process => exact process_leads faultless sound
  | finish => exact finish_leads sound
  | tick => exact tick_leads sound

theorem after_sound (faultless : ¬ surroundings.Faulty)
    (sound : system.Sound d channel count position) (calls : List Call) :
    ∃ count position, (system.after surroundings calls).Sound d channel count position := by
  induction calls generalizing system count position with
  | nil => exact ⟨count, position, sound⟩
  | cons call rest ih =>
    cases call_leads faultless sound call with
    | inl same =>
      obtain ⟨_, _, sound⟩ := same
      exact ih sound
    | inr seen =>
      obtain ⟨_, _, _, _, _, sound⟩ := seen
      exact ih sound

theorem setUp_sound {owner : Role} {retryCycles : Nat} {pool : TimerPool} {memory : SharedMemory}
    (made : System.setUp owner d channel retryCycles pool memory = .ok system) :
    system.Sound d channel 0 none := by
  unfold System.setUp at made
  split at made
  · contradiction
  rename_i producing consuming after connected
  obtain ⟨produces, consumes, shows⟩ := TripleBuffer.connected_shows connected
  have sender : Producer.new producing channel = .ok ⟨⟨producing, channel, .first⟩⟩ := by
    simp only [Producer.new, Channel.Sender.new, if_pos produces.role]
    rfl
  have receiver : Channel.Receiver.new consuming = .ok ⟨consuming, .none⟩ := if_pos consumes.role
  unfold Consumer.new at made
  rw [sender, receiver] at made
  cases created : pool.create retryCycles with
  | error error =>
    rw [created] at made
    contradiction
  | ok place =>
    obtain ⟨timer, pool⟩ := place
    rw [created] at made
    cases made
    exact {
      producing := produces
      channelled := rfl
      numbered := rfl
      live := TimerPool.live_of_create created
      stands := .idle ⟨rfl, consumes, rfl, [], rfl, _, _, shows⟩
      recorded := ⟨0, rfl⟩ }

/-- Nothing is offered while the network has a frame. -/
theorem System.Sound.holds (faultless : ¬ surroundings.Faulty)
    (sound : system.Sound d channel count position) (waiting : system.consumer.1.phase = .waitUntilSent)
    (call : Call) : offered (system.call surroundings call).log = offered system.log := by
  obtain ⟨payload, rfl⟩ : ∃ payload, position = some (payload, .queued) := by
    cases sound.stands with
    | queued phase holds => exact ⟨_, rfl⟩
    | idle rests | closed closed rests =>
      rw [rests.phase] at waiting
      contradiction
    | faced faces =>
      rw [faces.phase] at waiting
      contradiction
    | pending phase holds | sent phase holds =>
      rw [phase] at waiting
      contradiction
  cases call_leads faultless sound call with
  | inl same => rw [same.1]
  | inr seen =>
    obtain ⟨sight, _, _, log, moves, _⟩ := seen
    have silent : sight.offers = [] := by
      cases moves with
      | turn turn => exact (turn.quiet nofun).1
      | post closed => rfl
    rw [log, offered_append, offered_singleton, silent, List.append_nil]

/-- Frames are settled one after the other in the order of their posts, and none is offered while the
network has one. -/
theorem frames_settle_in_order {owner : Role} {retryCycles : Nat} {pool : TimerPool}
    {memory : SharedMemory}
    (made : System.setUp owner d channel retryCycles pool memory = .ok system)
    (faultless : ¬ surroundings.Faulty) (calls : List Call) :
    Orderly channel (system.after surroundings calls).log ∧
      ((system.after surroundings calls).consumer.1.phase = .waitUntilSent → ∀ call,
        offered ((system.after surroundings calls).call surroundings call).log =
          offered (system.after surroundings calls).log) := by
  obtain ⟨count, position, sound⟩ := after_sound faultless (setUp_sound made) calls
  constructor
  · exact sound.recorded.orderly
  · intro waiting call
    exact sound.holds faultless waiting call

/-- A network that has to look for the peer of the first frame and refuses the second. -/
def hesitant : Nat → (request : Host.Request) → Host.Answer request
  | 0, .transmit _ _ => .ok .addressPending
  | 1, .transmit _ _ => .ok .queued
  | _, .transmit _ _ => .error .transport
  | _, request => Surroundings.plainAnswer request

/-- A frame that is queued at the second attempt, one that is dropped and one that waits. -/
theorem frames_settle_in_order_hesitant :
    let surroundings : Surroundings := ⟨fun _ => false, hesitant⟩
    let calls : List Call := [.process, .post [10], .process, .process, .tick, .process, .post [20],
      .finish, .process, .post [20], .process, .process, .post [30]]
    ∃ system, System.setUp .consumer ⟨.ssdoTransmit, 0, 16⟩ 2 1 .empty (.zeroed 0 25) = .ok system ∧
      (system.after surroundings calls).log = [.processed [] (.ok ()), .posted [10],
        .processed [⟨2, [10], .ok .addressPending⟩] (.error .busy), .processed [] (.error .busy),
        .processed [⟨2, [10], .ok .queued⟩] (.ok ()), .finished, .processed [] (.ok ()), .posted [20],
        .processed [⟨2, [20], .error .transport⟩] (.error (.error .transport)), .processed [] (.ok ()),
        .posted [30]] ∧
      (system.after surroundings (calls.take 6)).consumer.1.phase = .waitUntilSent ∧
      Orderly 2 (system.after surroundings calls).log :=
  ⟨_, rfl, by decide +kernel, by decide +kernel, (@frames_settle_in_order ⟨.ssdoTransmit, 0, 16⟩ 2
    _ _ .consumer 1 .empty (.zeroed 0 25) rfl (fun ⟨_, fails⟩ => Bool.false_ne_true fails) _).1⟩

end NodeLink.Ssdo.Outbound

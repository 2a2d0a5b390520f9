import NodeLink.Proofs.Ssdo.InboundDelivery

/-! Runs by whole calls in which no access fails, with the counts of writes that their numbers do not
tell. As long as the producing end does not take the number of another round for an acknowledge, a
frame leaves the queue after it was given to the application. -/
namespace NodeLink.Ssdo.Inbound

open Channel (number)
open TripleBuffer (anyAccess)

variable {d : Descriptor} {memory : SharedMemory} {published : List Bytes} {acked : Sequence}
  {frames : List QueuedFrame} {settled posted : Nat}

/-- The frame written last fits the buffer. -/
theorem Tells.fits (tells : Tells frames posted published) (carries : d.Carries memory published acked)
    (written : published ≠ []) : ∃ index frame, posted = index + 1 ∧ frames[index]? = some frame ∧
      ¬ Channel.Sender.Oversize d frame.payload := by
  obtain ⟨_, _, shows⟩ := carries
  obtain ⟨bytes, last⟩ := Option.ne_none_iff_exists'.mp (mt List.getLast?_eq_none_iff.mp written)
  obtain ⟨index, header, frame, count, found, rfl, _, heads⟩ := tells bytes last
  have inside := (shows.holds _ last).fits
  rw [List.length_append, Channel.Header.length_toBytes] at inside
  refine ⟨index, frame, count, found, ?_⟩
  rintro (large | large)
  · exact Nat.not_lt.mpr heads.fits large
  · exact Nat.not_lt.mpr inside large

namespace Producer

/-- A frame that was posted waits for its acknowledge. -/
def Awaits (producer : Producer) : Prop :=
  ∀ assigned, producer.pending = .head assigned → producer.phase = .waitForAcknowledge

variable {state : State}

/-- An operation leaves every posted frame waiting, whether it fails or not. -/
abbrev LeavesAwaiting (action : Action Medium State Unit) (state : State) (memory : SharedMemory) :
    Prop :=
  action.Ensures False anyAccess state memory (fun _ left _ => Awaits left.1)
    fun _ left _ => Awaits left.1

/-- A frame that went through the channel goes through it again. -/
theorem rewrite_awaits {number : Channel.MessageNumber} {payload : Bytes}
    {next : Unit → Action Medium State Unit} (producing : state.1.sender.buffer.Produces d)
    (carries : d.Carries memory published acked)
    (possible : ¬ Channel.Sender.Oversize d payload ∨ Awaits state.1)
    (rest : ∀ after, LeavesAwaiting (next ()) state after) :
    LeavesAwaiting (onSender (Channel.Sender.repost number format payload) >>= next) state memory := by
  refine Action.Ensures.bind (fun _ left _ => left = state)
    (onSender_ensures ((Channel.Sender.write_ensures producing carries).mono
      (fun _ granted => granted) ?_ ?_)) ?_
  · rintro _ _ _ ⟨rfl, _⟩
    rfl
  · rintro _ _ _ ⟨rfl, _, ⟨lost, _⟩ | ⟨large, _⟩⟩
    · exact lost.elim
    · exact possible.resolve_left fun fits => fits large
  · rintro _ _ after rfl
    exact rest after

theorem repost_awaits (sound : Sound d frames settled posted state)
    (carries : d.Carries memory published acked) (tells : Tells frames posted published)
    (written : posted ≤ published.length) : LeavesAwaiting repost state memory := by
  have waits {pending : Pending} (after : SharedMemory) :
      LeavesAwaiting await ({ state.1 with pending }, state.2) after :=
    await_ensures sound.live fun _ _ _ _ => rfl
  unfold repost
  apply Action.get_then
  cases pending : state.1.pending with
  | head assigned =>
    obtain ⟨frame, queued, found⟩ := sound.headFrame pending
    obtain ⟨_, rfl⟩ := sound.head assigned pending
    simp only [pending, queued]
    refine rewrite_awaits sound.producing carries (.inl ?_) fun after => waits after
    obtain ⟨_, _, ⟨⟩, found', fits⟩ := tells.fits carries (List.ne_nil_of_length_pos (by omega))
    obtain rfl := Option.some.inj (found.symm.trans found')
    exact fits
  | _ =>
    have awaits : Awaits state.1 := by
      intro assigned head
      rw [pending] at head
      contradiction
    cases kept : state.1.acknowledged with
    | none =>
      simp only [pending, kept]
      intro assigned head
      exact absurd (pending.symm.trans head) nofun
    | some snapshot =>
      simp only [pending, kept]
      refine rewrite_awaits sound.producing carries (.inr awaits) fun after => ?_
      exact Action.modify_then (waits after)

theorem postHead_awaits (sound : Sound d frames settled posted state) (awaits : Awaits state.1)
    (carries : d.Carries memory published acked) : LeavesAwaiting postHead state memory := by
  unfold postHead
  apply Action.get_then
  cases queued : state.1.queue.head? with
  | none => exact awaits
  | some frame =>
    refine Action.Ensures.bind (fun _ left _ => left.2.Live left.1.timer)
      (onSender_ensures ((Channel.Sender.post_ensures sound.producing carries).mono
        (fun _ granted => granted) ?_ ?_)) ?_
    · intro _ _ _ _
      exact sound.live
    · rintro _ _ _ ⟨rfl, _⟩
      exact awaits
    · intro assigned left after live
      exact Action.modify_then (await_ensures live fun _ _ _ _ => rfl)

theorem process_awaits (sound : Sound d frames settled posted state) (awaits : Awaits state.1)
    (carries : d.Carries memory published acked) (tells : Tells frames posted published)
    (written : posted ≤ published.length) : LeavesAwaiting process state memory := by
  unfold process
  apply Action.get_then
  cases phase : state.1.phase with
  | waitForFrame =>
    simp only [phase]
    split
    · have changed : Sound d frames settled posted
          ({ state.1 with repostRequested := false, phase := .repostFrame }, state.2) :=
        { sound with waiting := nofun }
      exact Action.modify_then (Action.modify_then (repost_awaits changed carries tells written))
    · exact postHead_awaits sound awaits carries
  | waitForAcknowledge =>
    simp only [phase]
    refine ready_then sound carries ?_ False.elim
    split
    · refine (settle_leaves sound carries).mono (fun _ granted => granted) ?_ fun _ _ _ => False.elim
      rintro _ left _ ⟨left', _⟩ assigned head
      have last := (left'.head assigned head).2
      omega
    · obtain ⟨expiry, found⟩ := sound.live.phase
      refine Action.get_then (Action.ofExcept_then (fun expiry _ => ?_) fun error lost => ?_)
      · cases expiry with
        | expired =>
          exact Action.modify_then (repost_awaits (sound.enter nofun sound.live) carries tells written)
        | _ => exact awaits
      · rw [found] at lost
        contradiction
  | repostFrame =>
    simp only [phase]
    exact repost_awaits sound carries tells written

theorem accept_awaits {arrival : Arrival} {after : Producer}
    (sound : Sound d frames settled posted state) (awaits : Awaits state.1)
    (accepted : state.1.accept arrival = .ok after) : Awaits after := by
  unfold accept at accepted
  split at accepted
  · contradiction
  split at accepted
  · split at accepted
    · cases accepted
      unfold requestRepost
      split
      · rename_i idle
        intro assigned head
        exact absurd head (sound.waiting idle assigned)
      · exact awaits
    · cases accepted
      exact awaits
  split at accepted
  · cases accepted
    exact awaits
  · unfold enqueue at accepted
    split at accepted
    · contradiction
    · cases accepted
      exact awaits

end Producer

section Consume

variable {given : Nat} {lastSeen : Sequence} {consumer : Consumer} {world : World}

/-- What a whole call of the application's end does: it takes the latest message if that is fresh, and
leaves all as it was otherwise. -/
def Consumer.Took (d : Descriptor) (frames : List QueuedFrame) (given posted : Nat)
    (published : List Bytes) (acked lastSeen : Sequence) (before : World) (left : Consumer)
    (after : World) : Prop :=
  (Sequence.ofCount published.length).isFresh lastSeen = false ∧
      left.receiver.delivered = number given ∧ left.receiver.buffer.Consumes d lastSeen ∧
      d.Carries after.memory published acked ∧ deliveries after.events = deliveries before.events ∨
    (Sequence.ofCount published.length).isFresh lastSeen = true ∧
      left.receiver.delivered = number posted ∧
      left.receiver.buffer.Consumes d (.ofCount published.length) ∧
      d.Carries after.memory published (.ofCount published.length) ∧
      ∃ index message, posted = index + 1 ∧ Consumer.Carried frames given index message ∧
        deliveries after.events = deliveries before.events ++
          if message.duplicate then [] else [message.payload]

theorem Consumer.process_takes (consuming : consumer.receiver.buffer.Consumes d lastSeen)
    (numbered : consumer.receiver.delivered = number given)
    (carries : d.Carries world.memory published acked) (tells : Tells frames posted published) :
    Consumer.process.Meets False consumer world
      (fun _ => Took d frames given posted published acked lastSeen world) fun _ _ _ => False := by
  rw [process_eq]
  refine Action.Meets.bind _ ((poll_meets consuming numbered carries tells).mono
    (fun _ _ _ polled => polled) ?_) ?_
  · rintro _ _ _ ⟨_, _, _, _, lost, _⟩
    exact lost
  rintro polled left after ⟨numbered, carries, quiet, found⟩
  cases polled with
  | none => exact .inl ⟨found.1, numbered, found.2, carries, congrArg deliveries quiet⟩
  | some message =>
    obtain ⟨fresh, consuming, write, index, rfl, carried⟩ := found
    apply Action.Meets.bind _ (hand_meets.mono (fun _ _ _ handed => handed) fun _ _ _ => id)
    rintro _ _ handed ⟨rfl, same, given⟩
    refine Action.Meets.bind _ ((acknowledge_meets consuming (same ▸ carries)).mono
      (fun _ _ _ ended => ended) ?_) ?_
    · rintro _ _ _ ⟨_, _, _, _, lost⟩
      exact lost
    · rintro _ left after ⟨named, consuming, still, carries⟩
      rw [quiet] at given
      refine .inr ⟨fresh, named.trans carried.number, consuming, write ▸ carries, index, message, rfl,
        carried, ?_⟩
      rw [still, given]

end Consume

namespace System

/-- The payloads of the frames that left the queue. -/
def moved (system : System) : List Bytes :=
  (system.accepted.take (system.accepted.length - system.producer.1.queue.size)).map
    QueuedFrame.payload

/-- The number in the producing end's word. -/
def latest (system : System) : Sequence :=
  match system.world.memory.load
      (system.producer.1.sender.buffer.base + Layout.producerOffset) with
  | .ok word => (ControlWord.ofWord word).seq
  | .error _ => 0

def lastSeen (system : System) : Sequence := system.consumer.receiver.buffer.lastSeen

end System

/-- A run by whole calls with what the numbers of writes do not tell. -/
structure Ledger where
  system : System
  /-- How many messages were written. -/
  writes : Nat
  /-- How many there were when the application's end took one last. -/
  taken : Nat

namespace Ledger

def start (system : System) : Ledger := ⟨system, 0, 0⟩

/-- A write changes the number in the producing end's word, and a message that is taken the number
that the application's end saw last. -/
def call (surroundings : Surroundings) (ledger : Ledger) (call : Call) : Ledger :=
  let system := ledger.system.call surroundings call
  let writes := if system.latest = ledger.system.latest then ledger.writes else ledger.writes + 1
  { system, writes
    taken := if system.lastSeen = ledger.system.lastSeen then ledger.taken else writes }

def after (surroundings : Surroundings) (ledger : Ledger) (calls : List Call) : Ledger :=
  calls.foldl (call surroundings) ledger

/-- A frame waits for its acknowledge, the application's end took none of its messages, and the latest
one has the number of the message taken last, whole rounds of numbers before. -/
def Lapped (ledger : Ledger) : Prop :=
  ledger.system.producer.1.phase = .waitForAcknowledge ∧
    (∃ assigned, ledger.system.producer.1.pending = .head assigned) ∧
    0 < ledger.taken ∧ ledger.taken < ledger.writes ∧ 255 ∣ ledger.writes - ledger.taken

/-- What holds between two calls as long as no frame was lost. -/
structure Sound (d : Descriptor) (ledger : Ledger) (settled given posted : Nat) : Prop where
  producer : Producer.Sound d ledger.system.accepted settled posted ledger.system.producer
  awaits : ledger.system.producer.1.Awaits
  shown : ∃ published, published.length = ledger.writes ∧
    d.Carries ledger.system.world.memory published (.ofCount ledger.taken) ∧
    Tells ledger.system.accepted posted published
  consuming : ledger.system.consumer.receiver.buffer.Consumes d (.ofCount ledger.taken)
  numbered : ledger.system.consumer.receiver.delivered = number given
  stage : ledger.system.stage = .idle
  delivered : ledger.system.delivered = (ledger.system.accepted.map QueuedFrame.payload).take given
  kept : settled ≤ given
  upto : given ≤ posted
  written : posted ≤ ledger.writes
  before : ledger.taken ≤ ledger.writes
  /-- A frame that was not given to the application was written after the message taken last, -/
  new : given < posted → ledger.taken < ledger.writes
  /-- and one that was given is the latest message until it leaves the queue. -/
  last : settled < given → ledger.taken = ledger.writes

variable {ledger : Ledger} {settled given posted : Nat} {surroundings : Surroundings}

theorem latest_eq {system : System} (producing : system.producer.1.sender.buffer.Produces d)
    (carries : d.Carries system.world.memory published acked) :
    system.latest = .ofCount published.length := by
  obtain ⟨_, _, shows⟩ := carries
  have base : system.producer.1.sender.buffer.base = d.base := congrArg Descriptor.base producing.region
  have word := shows.producer
  unfold System.latest
  rw [Descriptor.producerAddress, ← base] at word
  rw [word]
  simp only [ControlWord.ofWord_toWord]

theorem call_quiet {made : Call}
    (unwritten : (ledger.system.call surroundings made).latest = ledger.system.latest)
    (unseen : (ledger.system.call surroundings made).lastSeen = ledger.system.lastSeen) :
    ledger.call surroundings made =
      { ledger with system := ledger.system.call surroundings made } := by
  simp only [call, if_pos unwritten, if_pos unseen]

theorem call_writes {made : Call}
    (written : (ledger.system.call surroundings made).latest ≠ ledger.system.latest)
    (unseen : (ledger.system.call surroundings made).lastSeen = ledger.system.lastSeen) :
    ledger.call surroundings made =
      ⟨ledger.system.call surroundings made, ledger.writes + 1, ledger.taken⟩ := by
  simp only [call, if_neg written, if_pos unseen]

theorem call_takes {made : Call}
    (unwritten : (ledger.system.call surroundings made).latest = ledger.system.latest)
    (seen : (ledger.system.call surroundings made).lastSeen ≠ ledger.system.lastSeen) :
    ledger.call surroundings made =
      ⟨ledger.system.call surroundings made, ledger.writes, ledger.writes⟩ := by
  simp only [call, if_pos unwritten, if_neg seen]

theorem moved_eq {system : System}
    (sound : Producer.Sound d system.accepted settled posted system.producer) :
    system.moved = (system.accepted.map QueuedFrame.payload).take settled := by
  have upto := sound.settled_upto
  have size : system.accepted.length - system.producer.1.queue.size = settled := by
    rw [Queue.size, sound.queue, List.length_drop]
    omega
  rw [System.moved, size, List.map_take]

theorem Sound.moved_delivered (sound : ledger.Sound d settled given posted) :
    ledger.system.moved <+: ledger.system.delivered := by
  rw [moved_eq sound.producer, sound.delivered]
  exact List.take_prefix_take_left sound.kept

/-- What is known of a call of `process` when no access fails. -/
structure Processed (d : Descriptor) (ledger : Ledger) (settled posted : Nat) (published : List Bytes)
    (left : Producer.State) (world : World) : Prop where
  quiet : world.events = ledger.system.world.events
  awaits : left.1.Awaits
  effect : Producer.Effect d ledger.system.accepted settled posted published (.ofCount ledger.taken)
    left world.memory
  settles : ledger.system.producer.1.phase = .waitForAcknowledge →
    Sequence.ofCount published.length = .ofCount ledger.taken →
      Producer.Sound d ledger.system.accepted posted posted left ∧
        d.Carries world.memory published (.ofCount ledger.taken)

theorem Sound.processed (faultless : ¬ surroundings.Faulty)
    (sound : ledger.Sound d settled given posted)
    (carries : d.Carries ledger.system.world.memory published (.ofCount ledger.taken))
    (tells : Tells ledger.system.accepted posted published) (count : published.length = ledger.writes) :
    ∃ left world, ledger.system.call surroundings .process =
        { ledger.system with producer := left, world } ∧
      Processed d ledger settled posted published left world := by
  obtain ⟨result, left, world, produced, ends⟩ :=
    ledger.system.produce_ends surroundings Producer.process
  have waits := Producer.process_awaits sound.producer sound.awaits carries tells
    (count ▸ sound.written)
  obtain ⟨effect, quiet⟩ := ends (Producer.process_leaves sound.producer carries)
  refine ⟨left, world, produced, quiet, ?_, ?_, fun waiting ready => ?_⟩
  · cases result <;> exact (ends (Action.Ensures.of_faultless faultless waits)).1
  · cases result <;> exact effect
  · have settles := Producer.process_settles sound.producer carries waiting ready
    cases result with
    | error fault => exact (ends (settles.of_faultless faultless)).1.elim
    | ok value => exact (ends (settles.of_faultless faultless)).1

theorem pending_of_lt {state : Producer.State} (sound : Producer.Sound d frames settled posted state)
    (unsettled : settled < posted) : ∃ assigned, state.1.pending = .head assigned := by
  refine Classical.byContradiction fun none => ?_
  have all := sound.other fun assigned head => none ⟨assigned, head⟩
  omega

theorem settled_unique {state : Producer.State} {other : Nat}
    (sound : Producer.Sound d frames settled posted state)
    (others : Producer.Sound d frames other posted state) : settled = other := by
  have upto := sound.settled_upto
  have upto' := others.settled_upto
  have length := congrArg List.length (sound.queue.symm.trans others.queue)
  rw [List.length_drop, List.length_drop] at length
  omega

theorem Sound.lapped (sound : ledger.Sound d settled given posted) (unsettled : settled < posted)
    (after : ledger.taken < ledger.writes)
    (same : Sequence.ofCount ledger.writes = .ofCount ledger.taken) : ledger.Lapped := by
  obtain ⟨assigned, head⟩ := pending_of_lt sound.producer unsettled
  obtain ⟨some, rounds⟩ := (Sequence.ofCount_eq_iff_of_lt after).mp same
  exact ⟨sound.awaits assigned head, ⟨assigned, head⟩, some, after, rounds⟩

/-- A frame that was given to the application leaves the queue in the next call. -/
theorem Sound.settles {left : Producer.State} {world : World}
    (sound : ledger.Sound d settled given posted) (count : published.length = ledger.writes)
    (processed : Processed d ledger settled posted published left world) (taken : settled < given) :
    Producer.Sound d ledger.system.accepted posted posted left := by
  obtain ⟨assigned, head⟩ := pending_of_lt sound.producer (Nat.lt_of_lt_of_le taken sound.upto)
  refine (processed.settles (sound.awaits assigned head) ?_).1
  rw [count, sound.last taken]

theorem Sound.process (faultless : ¬ surroundings.Faulty) (sound : ledger.Sound d settled given posted)
    (apart : ¬ ledger.Lapped) :
    ∃ settled given posted, (ledger.call surroundings .process).Sound d settled given posted := by
  obtain ⟨published, count, carries, tells⟩ := sound.shown
  obtain ⟨left, world, called, processed⟩ := sound.processed faultless carries tells count
  have latest := latest_eq sound.producer.producing carries
  have unseen : (ledger.system.call surroundings .process).lastSeen = ledger.system.lastSeen := by
    rw [called]
    rfl
  have delivered : deliveries world.events = _ :=
    (congrArg deliveries processed.quiet).trans sound.delivered
  have unwritten (producing : left.1.sender.buffer.Produces d)
      (carries : d.Carries world.memory published (.ofCount ledger.taken)) :
      (ledger.system.call surroundings .process).latest = ledger.system.latest := by
    rw [called, latest]
    exact latest_eq producing carries
  have written {bytes : Bytes} (producing : left.1.sender.buffer.Produces d)
      (carries : d.Carries world.memory (published ++ [bytes]) (.ofCount ledger.taken)) :
      (ledger.system.call surroundings .process).latest ≠ ledger.system.latest := by
    rw [called, latest, latest_eq producing carries, List.length_append]
    exact Sequence.ofCount_succ_ne _
  have more (bytes : Bytes) : (published ++ [bytes]).length = ledger.writes + 1 := by
    rw [List.length_append, count]
    rfl
  cases processed.effect with
  | quiet producer carries =>
    rw [call_quiet (unwritten producer.producing carries) unseen, called]
    exact ⟨_, _, _, { sound with
      producer, delivered
      awaits := processed.awaits
      shown := ⟨published, count, carries, tells⟩ }⟩
  | reposted bytes producer carries tells =>
    rw [call_writes (written producer.producing carries) unseen, called]
    refine ⟨_, _, _, { sound with
      producer, delivered
      awaits := processed.awaits
      shown := ⟨_, more bytes, carries, tells⟩
      written := Nat.le_succ_of_le sound.written
      before := Nat.le_succ_of_le sound.before
      new := fun _ => Nat.lt_succ_of_le sound.before
      last := fun taken => ?_ }⟩
    have same := settled_unique producer (sound.settles count processed taken)
    have upto := sound.upto
    omega
  | posted bytes idle ready producer carries tells =>
    have kept := sound.kept
    have upto := sound.upto
    rw [call_writes (written producer.producing carries) unseen, called]
    exact ⟨settled, given, posted + 1, { sound with
      producer, delivered
      awaits := processed.awaits
      shown := ⟨_, more bytes, carries, tells⟩
      upto := Nat.le_succ_of_le upto
      written := Nat.succ_le_succ sound.written
      before := Nat.le_succ_of_le sound.before
      new := fun _ => Nat.lt_succ_of_le sound.before
      last := fun taken => by omega }⟩
  | settled ready producer carries =>
    have all : posted ≤ given := by
      refine Nat.not_lt.mp fun unsettled => apart ?_
      apply sound.lapped (Nat.lt_of_le_of_lt sound.kept unsettled) (sound.new unsettled)
      rw [← count, ready]
    rw [call_quiet (unwritten producer.producing carries) unseen, called]
    exact ⟨posted, given, posted, { sound with
      producer, delivered
      awaits := processed.awaits
      shown := ⟨published, count, carries, tells⟩
      kept := all
      last := fun taken => absurd sound.upto (Nat.not_le.mpr taken) }⟩

/-- A call in a lapped state drops a frame that the application was not given. -/
theorem Sound.process_loses (faultless : ¬ surroundings.Faulty)
    (sound : ledger.Sound d settled given posted) (lapped : ledger.Lapped) :
    ¬ (ledger.call surroundings .process).system.moved <+:
      (ledger.call surroundings .process).system.delivered := by
  obtain ⟨waiting, ⟨assigned, head⟩, some, after, rounds⟩ := lapped
  obtain ⟨published, count, carries, tells⟩ := sound.shown
  obtain ⟨left, world, called, processed⟩ := sound.processed faultless carries tells count
  have ready : Sequence.ofCount published.length = .ofCount ledger.taken := by
    rw [count]
    exact (Sequence.ofCount_eq_iff_of_lt after).mpr ⟨some, rounds⟩
  have settles := (processed.settles waiting ready).1
  obtain ⟨_, last⟩ := sound.producer.head assigned head
  have kept := sound.kept
  have missing : given < posted := by
    refine Nat.not_le.mp fun all => ?_
    exact absurd (sound.last (by omega)) (Nat.ne_of_lt after)
  have delivered : deliveries world.events = _ :=
    (congrArg deliveries processed.quiet).trans sound.delivered
  intro moved
  have short := moved.length_le
  change (ledger.system.call surroundings .process).moved.length ≤
    (ledger.system.call surroundings .process).delivered.length at short
  rw [called, moved_eq settles] at short
  change _ ≤ (deliveries world.events).length at short
  have upto := sound.producer.upto
  rw [delivered, List.length_take, List.length_take, List.length_map] at short
  change min posted ledger.system.accepted.length ≤ min given ledger.system.accepted.length at short
  omega

theorem Sound.accept {arrival : Arrival} (sound : ledger.Sound d settled given posted) :
    (ledger.call surroundings (.accept arrival)).Sound d settled given posted := by
  have unwritten : (ledger.system.accept arrival).latest = ledger.system.latest ∧
      (ledger.system.accept arrival).lastSeen = ledger.system.lastSeen ∧
      ({ ledger with system := ledger.system.accept arrival } : Ledger).Sound d settled given
        posted := by
    unfold System.accept
    split
    · exact ⟨rfl, rfl, sound⟩
    · rename_i producer accepted
      obtain ⟨more, queue, grown⟩ := Producer.accept_sound sound.producer accepted
      obtain ⟨published, count, carries, tells⟩ := sound.shown
      have latest := latest_eq sound.producer.producing carries
      have inside := sound.upto
      have fits := sound.producer.upto
      have new : producer.queue.toList.drop ledger.system.producer.1.queue.toList.length = more := by
        rw [queue, List.drop_left]
      rw [new]
      refine ⟨?_, rfl, { sound with
        producer := grown
        awaits := Producer.accept_awaits sound.producer sound.awaits accepted
        shown := ⟨published, count, carries, tells.grow⟩
        delivered := sound.delivered.trans ?_ }⟩
      · rw [latest]
        exact latest_eq grown.producing carries
      · rw [List.map_append, List.take_append_of_le_length]
        rw [List.length_map]
        omega
  have quiet : ledger.call surroundings (.accept arrival) = _ :=
    call_quiet unwritten.1 unwritten.2.1
  rw [quiet]
  exact unwritten.2.2

theorem call_tick (ledger : Ledger) (live : ledger.system.producer.2.Live ledger.system.producer.1.timer) :
    ∃ pool, ledger.system.producer.2.tick ledger.system.producer.1.timer = .ok pool ∧
      pool.Live ledger.system.producer.1.timer ∧ ledger.call surroundings .tick =
        { ledger with system := { ledger.system with producer := (ledger.system.producer.1, pool) } } := by
  obtain ⟨pool, ticked, live, called⟩ := ledger.system.call_tick surroundings live
  refine ⟨pool, ticked, live, ?_⟩
  have quiet : ledger.call surroundings .tick = _ :=
    call_quiet (by rw [called]; rfl) (by rw [called]; rfl)
  rw [quiet, called]

theorem Sound.tick (sound : ledger.Sound d settled given posted) :
    (ledger.call surroundings .tick).Sound d settled given posted := by
  obtain ⟨pool, _, live, called⟩ := ledger.call_tick sound.producer.live
  rw [called]
  exact { sound with producer := { sound.producer with live } }

/-- The application has the frame at a place in full with the next message that it takes. -/
theorem Sound.handed {index : Nat} {message : Channel.Message}
    (sound : ledger.Sound d settled given (index + 1))
    (carried : Consumer.Carried ledger.system.accepted given index message) :
    ledger.system.delivered ++ (if message.duplicate then [] else [message.payload]) =
      (ledger.system.accepted.map QueuedFrame.payload).take (index + 1) := by
  rw [sound.delivered, carried.duplicate]
  rcases Nat.lt_or_eq_of_le sound.upto with unsettled | rfl
  · obtain ⟨assigned, head⟩ := pending_of_lt sound.producer (Nat.lt_of_le_of_lt sound.kept unsettled)
    obtain ⟨_, last⟩ := sound.producer.head assigned head
    have kept := sound.kept
    obtain rfl : given = index := by omega
    rw [if_neg (by simpa only [beq_iff_eq] using Channel.number_succ_ne given), List.take_add_one,
      carried.payload]
    rfl
  · rw [if_pos (beq_self_eq_true _), List.append_nil]

theorem Sound.consume (faultless : ¬ surroundings.Faulty)
    (sound : ledger.Sound d settled given posted) :
    ∃ given, (ledger.call surroundings .consume).Sound d settled given posted := by
  obtain ⟨published, count, carries, tells⟩ := sound.shown
  have latest := latest_eq sound.producer.producing carries
  have takes := Consumer.process_takes sound.consuming sound.numbered carries tells
  obtain ⟨result, consumer, world, acted, ended⟩ :=
    act_ends surroundings (takes.of_faultless faultless)
  have called : ledger.system.call surroundings .consume =
      { ledger.system with consumer, world } := by
    simp only [System.call, sound.stage, acted]
  have took : Consumer.Took d ledger.system.accepted given posted published (.ofCount ledger.taken)
      (.ofCount ledger.taken) ledger.system.world consumer world := by
    cases result with
    | error fault => exact ended.elim
    | ok value => exact ended
  have unwritten {acked : Sequence} (carries : d.Carries world.memory published acked) :
      (ledger.system.call surroundings .consume).latest = ledger.system.latest := by
    rw [called, latest]
    exact latest_eq sound.producer.producing carries
  rcases took with ⟨stale, numbered, consuming, carries, quiet⟩ |
    ⟨fresh, numbered, consuming, carries, index, message, last, carried, handed⟩
  · have unseen : (ledger.system.call surroundings .consume).lastSeen = ledger.system.lastSeen := by
      rw [called]
      exact consuming.seen.trans sound.consuming.seen.symm
    rw [call_quiet (unwritten carries) unseen, called]
    exact ⟨given, { sound with
      consuming, numbered
      shown := ⟨published, count, carries, tells⟩
      delivered := quiet.trans sound.delivered }⟩
  · have seen : (ledger.system.call surroundings .consume).lastSeen ≠ ledger.system.lastSeen := by
      rw [called]
      intro same
      have numbers := consuming.seen.symm.trans (Eq.trans same sound.consuming.seen)
      rw [numbers] at fresh
      exact absurd fresh (by simp only [Sequence.isFresh, bne_self_eq_false, Bool.and_false,
        Bool.false_eq_true, not_false_eq_true])
    subst last
    rw [call_takes (unwritten carries) seen, called]
    exact ⟨index + 1, { sound with
      consuming := count ▸ consuming
      numbered
      shown := ⟨published, count, count ▸ carries, tells⟩
      delivered := handed.trans (sound.handed carried)
      kept := Nat.le_trans sound.kept sound.upto
      upto := Nat.le_refl _
      before := Nat.le_refl _
      new := fun unsettled => absurd unsettled (Nat.lt_irrefl _)
      last := fun _ => rfl }⟩

theorem Sound.call (faultless : ¬ surroundings.Faulty) (sound : ledger.Sound d settled given posted)
    (made : Call) (apart : ¬ (made = .process ∧ ledger.Lapped)) :
    ∃ settled given posted, (ledger.call surroundings made).Sound d settled given posted := by
  cases made with
  | accept arrival => exact ⟨_, _, _, sound.accept⟩
  | process => exact sound.process faultless fun lapped => apart ⟨rfl, lapped⟩
  | tick => exact ⟨_, _, _, sound.tick⟩
  | consume =>
    obtain ⟨given, sound⟩ := sound.consume faultless
    exact ⟨_, _, _, sound⟩

theorem start_sound {system : System} (fresh : system.Fresh d) : (start system).Sound d 0 0 0 where
  producer := fresh.accepted.symm ▸ fresh.producer
  awaits assigned head := absurd (fresh.producer.head assigned head).2 nofun
  shown := ⟨[], rfl, fresh.carries, nofun⟩
  consuming := fresh.consuming
  numbered := fresh.numbered
  stage := fresh.stage
  delivered := fresh.delivered
  kept := Nat.le_refl _
  upto := Nat.le_refl _
  written := Nat.le_refl _
  before := Nat.le_refl _
  new := nofun
  last := nofun

theorem after_system (ledger : Ledger) (calls : List Call) :
    (ledger.after surroundings calls).system =
      ledger.system.after surroundings (calls.map .call) := by
  induction calls generalizing ledger with
  | nil => rfl
  | cons made rest ih => exact ih (ledger.call surroundings made)

theorem Sound.unlapped (faultless : ¬ surroundings.Faulty)
    (sound : ledger.Sound d settled given posted) (calls : List Call)
    (apart : ∀ earlier, earlier ++ [.process] <+: calls → ¬ (ledger.after surroundings earlier).Lapped) :
    ∃ settled given posted, (ledger.after surroundings calls).Sound d settled given posted := by
  induction calls generalizing ledger settled given posted with
  | nil => exact ⟨_, _, _, sound⟩
  | cons made rest ih =>
    obtain ⟨_, _, _, next⟩ := sound.call faultless made fun ⟨same, lapped⟩ =>
      apart [] ⟨rest, same ▸ rfl⟩ lapped
    exact ih next fun earlier inside =>
      apart (made :: earlier) (List.cons_prefix_cons.mpr ⟨rfl, inside⟩)

theorem writes_le (ledger : Ledger) (calls : List Call) :
    (ledger.after surroundings calls).writes ≤ ledger.writes + calls.length := by
  induction calls generalizing ledger with
  | nil => exact Nat.le_refl _
  | cons made rest ih =>
    have rest := ih (ledger.call surroundings made)
    have first : (ledger.call surroundings made).writes ≤ ledger.writes + 1 := by
      simp only [Ledger.call]
      split <;> omega
    simp only [List.length_cons]
    exact Nat.le_trans rest (by omega)

/-- A round takes 255 writes, each in a call of its own. -/
theorem Lapped.long {system : System} {calls : List Call}
    (lapped : ((start system).after surroundings calls).Lapped) : 255 < calls.length := by
  obtain ⟨_, _, some, behind, rounds⟩ := lapped
  have bound : ((start system).after surroundings calls).writes ≤ 0 + calls.length :=
    writes_le (start system) calls
  omega

/-- Up to the first call of `process` in a lapped state nothing is lost, and that call loses a frame. -/
theorem Sound.after (faultless : ¬ surroundings.Faulty) (sound : ledger.Sound d settled given posted)
    (calls : List Call) :
    (∀ earlier, earlier <+: calls → (ledger.after surroundings earlier).system.moved <+:
        (ledger.after surroundings earlier).system.delivered) ↔
      ∀ earlier, earlier ++ [.process] <+: calls →
        ¬ (ledger.after surroundings earlier).Lapped := by
  induction calls generalizing ledger settled given posted with
  | nil =>
    refine ⟨fun _ earlier whole => ?_, fun _ earlier whole => ?_⟩
    · exact absurd (List.prefix_nil.mp whole) (List.append_ne_nil_of_right_ne_nil _ nofun)
    · rw [List.prefix_nil.mp whole]
      exact sound.moved_delivered
  | cons made rest ih =>
    by_cases lapsed : made = .process ∧ ledger.Lapped
    · obtain ⟨rfl, lapped⟩ := lapsed
      refine iff_of_false (fun all => ?_) fun none => none [] ⟨rest, rfl⟩ lapped
      exact sound.process_loses faultless lapped (all [.process] ⟨rest, rfl⟩)
    · obtain ⟨_, _, _, next⟩ := sound.call faultless made lapsed
      refine ⟨fun all earlier whole => ?_, fun none earlier whole => ?_⟩
      · cases earlier with
        | nil =>
          obtain ⟨rfl, _⟩ := List.cons_prefix_cons.mp whole
          intro lapped
          exact lapsed ⟨rfl, lapped⟩
        | cons first earlier =>
          obtain ⟨rfl, inside⟩ := List.cons_prefix_cons.mp whole
          refine (ih next).mp (fun earlier whole => ?_) earlier inside
          exact all (first :: earlier) (List.cons_prefix_cons.mpr ⟨rfl, whole⟩)
      · cases earlier with
        | nil => exact sound.moved_delivered
        | cons first earlier =>
          obtain ⟨rfl, inside⟩ := List.cons_prefix_cons.mp whole
          refine (ih next).mpr (fun earlier whole => ?_) earlier inside
          exact none (first :: earlier) (List.cons_prefix_cons.mpr ⟨rfl, whole⟩)

end Ledger

end NodeLink.Ssdo.Inbound

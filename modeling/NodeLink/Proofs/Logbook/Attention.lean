import NodeLink.Proofs.Logbook
import NodeLink.Proofs.TripleBuffer.SharedCalls

/-! The logbook's producing end while a consumer is at work. The consumer may claim slots and acknowledge
the latest record before any access of the producer; each look at its word is kept. -/
namespace NodeLink.Logbook

open TripleBuffer Shared

/-- What a consumer stores in its word: it claims a slot, or acknowledges the latest record. -/
inductive Touch where
  | claim (slot : UInt8)
  | acknowledge (slot : UInt8)
  deriving DecidableEq, Repr

/-- The consumer's word after a touch. -/
def Touch.control (latest answered : ControlWord) : Touch → ControlWord
  | claim slot => ⟨answered.seq, slot⟩
  | acknowledge slot => ⟨latest.seq, slot⟩

/-- The words of the producer and the consumer. -/
def controls (d : Descriptor) (memory : SharedMemory) : Except Error (ControlWord × ControlWord) := do
  return (.ofWord (← memory.load d.producerAddress), .ofWord (← memory.load d.consumerAddress))

def Touch.on (d : Descriptor) (memory : SharedMemory) (touch : Touch) : SharedMemory :=
  match controls d memory with
  | .error _ => memory
  | .ok (latest, answered) => (memory.store d.consumerAddress (touch.control latest answered).toWord).2

/-- The latest record was acknowledged. -/
def settled (d : Descriptor) (memory : SharedMemory) : Bool :=
  match controls d memory with
  | .error _ => false
  | .ok (latest, answered) => latest.seq == answered.seq

/-- What a look at the consumer's word tells. -/
def look (d : Descriptor) (memory : SharedMemory) : Words.Request → List Bool
  | .load address => if address = d.consumerAddress then [settled d memory] else []
  | .store _ _ => []

/-- The memory, how often the producer accessed it, and what its looks told. -/
structure Table where
  memory : SharedMemory
  moment : Nat
  looks : List Bool

/-- Before each access of the producer the consumer touches its word as it likes. -/
def Table.onWords (d : Descriptor) (touches : Nat → List Touch) : Handler Words Table
  | request, table =>
    let memory := (touches table.moment).foldl (Touch.on d) table.memory
    let (answer, after) := SharedMemory.onWords request memory
    (answer, ⟨after, table.moment + 1, table.looks ++ look d memory request⟩)

variable {d : Descriptor} {touches : Nat → List Touch}

section Sharing

variable {before after shared : Shared d}

/-- What the consumer of a channel may do in the meantime: it acknowledges no record but the latest. -/
structure ByReader (before after : Shared d) : Prop extends ByConsumer before after where
  acked : after.control.seq = before.control.seq ∨ after.control.seq = .ofCount before.published.length

def Acked (shared : Shared d) : Prop := shared.control.seq = .ofCount shared.published.length

theorem byReader_interference : Interference (ByReader (d := d)) where
  refl shared := ⟨byConsumer_interference.refl shared, .inl rfl⟩
  trans {first second third} start rest := by
    refine ⟨byConsumer_interference.trans start.toByConsumer rest.toByConsumer, ?_⟩
    rcases rest.acked with kept | latest
    · rw [kept]
      exact start.acked
    · rw [latest, start.published]
      exact .inr rfl

/-- A record stays acknowledged. -/
theorem ByReader.lasts (changed : ByReader before after) (acked : Acked before) : Acked after := by
  unfold Acked at acked ⊢
  rw [changed.published]
  exact changed.acked.elim (fun kept => kept.trans acked) id

theorem controls_shared (shared : Shared d) :
    controls d shared.memory =
      .ok (⟨.ofCount shared.published.length, shared.latest⟩, shared.control) := by
  unfold controls
  rw [shared.shows.producer, shared.shows.consumer]
  change Except.ok (ControlWord.ofWord _, ControlWord.ofWord _) = _
  rw [ControlWord.ofWord_toWord, ControlWord.ofWord_toWord]

theorem settled_iff (shared : Shared d) : settled d shared.memory = true ↔ Acked shared := by
  simp only [settled, controls_shared, beq_iff_eq]
  exact eq_comm

/-- The record stays as it is, and acknowledged if it was. -/
theorem ByReader.keeps (changed : ByReader before after) :
    SharedMemory.SameOutside (· = d.consumerAddress) before.memory after.memory ∧
      (settled d before.memory = true → settled d after.memory = true) := by
  refine ⟨changed.same, fun was => ?_⟩
  rw [settled_iff] at was ⊢
  exact changed.lasts was

theorem touch_shared (shared : Shared d) (touch : Touch) :
    ∃ later, ByReader shared later ∧ later.memory = touch.on d shared.memory := by
  let control := touch.control ⟨.ofCount shared.published.length, shared.latest⟩ shared.control
  refine ⟨shared.register control, ⟨consumer_register.relied, ?_⟩, ?_⟩
  · cases touch with
    | claim slot => exact .inl rfl
    | acknowledge slot => exact .inr rfl
  · simp only [Touch.on, controls_shared]
    rfl

/-- A consumer that stores its word makes a touch, as long as it names no record but the latest. -/
theorem storeConsumer_touches {buffer : TripleBuffer} (region : buffer.region = d) (shared : Shared d)
    (touch : Touch) :
    (storeConsumer (touch.control ⟨.ofCount shared.published.length, shared.latest⟩ shared.control)
        buffer).inWords.run SharedMemory.onWords shared.memory =
      ((.ok (), buffer), touch.on d shared.memory) := by
  subst region
  let word := (touch.control ⟨.ofCount shared.published.length, shared.latest⟩ shared.control).toWord
  change (((shared.memory.store buffer.region.consumerAddress word).1.mapError Fault.error, buffer),
    (shared.memory.store buffer.region.consumerAddress word).2) = _
  rw [SharedMemory.store_result_of_mapped shared.shows.laid.consumer]
  simp only [Touch.on, controls_shared]
  rfl

theorem acknowledge_touches {buffer : TripleBuffer} {lastSeen : Sequence}
    (consuming : buffer.Consumes d lastSeen) (shared : Shared d) :
    (acknowledge (.ofCount shared.published.length) buffer).inWords.run SharedMemory.onWords shared.memory =
      ((.ok (), buffer), Touch.on d shared.memory (.acknowledge buffer.reading)) := by
  unfold acknowledge
  rw [requireRole_of_eq consuming.role]
  exact storeConsumer_touches consuming.region shared (.acknowledge buffer.reading)

theorem touches_shared (shared : Shared d) (touches : List Touch) :
    ∃ later, ByReader shared later ∧ later.memory = touches.foldl (Touch.on d) shared.memory := by
  induction touches generalizing shared with
  | nil => exact ⟨shared, byReader_interference.refl shared, rfl⟩
  | cons touch rest ih =>
    obtain ⟨touched, changed, same⟩ := touch_shared shared touch
    obtain ⟨later, further, last⟩ := ih touched
    refine ⟨later, byReader_interference.trans changed further, ?_⟩
    rw [last, same, List.foldl_cons]

end Sharing

/-- What the ends share, with what the producer's looks told. -/
structure Scene (d : Descriptor) where
  shared : Shared d
  looks : List Bool

namespace Scene

variable {scene : Scene d} {buffer : TripleBuffer} {payload : Bytes}

def Others (before after : Scene d) : Prop :=
  ByReader before.shared after.shared ∧ after.looks = before.looks

def Access (d : Descriptor) (request : Words.Request) (before : Scene d) (answer : Words.Answer request)
    (after : Scene d) : Prop :=
  (∃ call, ProducerAccess d call request before.shared answer after.shared) ∧
    after.looks = before.looks ++ look d before.shared.memory request

def Sees (scene : Scene d) (table : Table) : Prop :=
  scene.shared.memory = table.memory ∧ scene.looks = table.looks

theorem others_interference : Interference (Others (d := d)) where
  refl _ := ⟨byReader_interference.refl _, rfl⟩
  trans start rest := ⟨byReader_interference.trans start.1 rest.1, rest.2.trans start.2⟩

/-- An operation runs into what it guarantees, whatever the consumer does meanwhile. -/
theorem run_among {α : Type} {program : Prog Words α} {post : α → Scene d → Prop} {table : Table}
    (sees : scene.Sees table) (holds : program.Guarantees Others (Access d) scene post) :
    ∃ final, final.Sees (program.run (Table.onWords d touches) table).2 ∧
      post (program.run (Table.onWords d touches) table).1 final := by
  refine holds.run _ Sees others_interference ?_ sees
  rintro request state table ⟨memory, looks⟩
  obtain ⟨later, changed, same⟩ := touches_shared state.shared (touches table.moment)
  refine ⟨⟨later, state.looks⟩, ⟨changed, rfl⟩, ?_⟩
  rintro answer after ⟨⟨_, accessed⟩, looked⟩
  have made := accessed.made
  rw [memory] at same
  simp only [same] at made looked
  refine ⟨congrArg Prod.fst made, congrArg Prod.snd made, ?_⟩
  rw [looked, looks]
  rfl

theorem access_load {address : Nat} {word : UInt32}
    (loaded : scene.shared.memory.load address = .ok word) :
    Access d (.load address) scene (.ok word)
      ⟨scene.shared, scene.looks ++ look d scene.shared.memory (.load address)⟩ :=
  ⟨⟨.acknowledged, producer_load loaded⟩, rfl⟩

/-- A look tells whether the record was acknowledged then. -/
theorem acknowledged_among (producing : buffer.Produces d) :
    acknowledged.Guarantees Others (Access d) buffer scene
      (fun answer left after => left = buffer ∧ ByReader scene.shared after.shared ∧
        after.looks = scene.looks ++ [answer] ∧ (answer = true → Acked after.shared) ∧
        (Acked scene.shared → answer = true))
      fun _ _ _ => False := by
  obtain ⟨role, rfl⟩ := producing
  refine requireRole_among (fun _ => ?_) fun wrong => absurd role wrong
  refine load_among fun named before => ⟨_, _, access_load named.shared.shows.producer, ?_⟩
  refine load_among fun found during => ⟨_, _, access_load found.shared.shows.consumer, ?_⟩
  simp only [ControlWord.ofWord_toWord]
  intro later changed
  have answer : (Sequence.ofCount named.shared.published.length == found.shared.control.seq) =
      settled buffer.region found.shared.memory := by
    rw [← during.1.published]
    simp only [settled, controls_shared]
  have early : look buffer.region named.shared.memory (.load (buffer.base + Layout.producerOffset)) = [] :=
    if_neg (Descriptor.producerAddress_ne (d := buffer.region))
  have late : look buffer.region found.shared.memory (.load (buffer.base + Layout.consumerOffset)) =
      [settled buffer.region found.shared.memory] := if_pos rfl
  have until_found := byReader_interference.trans before.1 during.1
  rw [answer]
  refine ⟨rfl, byReader_interference.trans until_found changed.1, ?_, fun acked => ?_, fun acked => ?_⟩
  · rw [changed.2, late, during.2, early, List.append_nil, before.2]
  · exact changed.1.lasts ((settled_iff _).mp acked)
  · exact (settled_iff _).mpr (until_found.lasts acked)

theorem write_among (producing : buffer.Produces d) (fits : payload.length ≤ buffer.slotSize) :
    (write payload).Guarantees Others (Access d) buffer scene (fun _ left _ => left = buffer)
      fun _ _ _ => False := by
  have publishes : (write payload).Guarantees ByConsumer _ buffer scene.shared _ _ :=
    write_publishes producing fits
  refine (Prog.Guarantees.lift Scene.shared ?_ ?_ publishes).mono ?_
  · exact fun _ _ changed => changed.1.toByConsumer
  · intro request before answer after accessed
    exact ⟨⟨after, _⟩, rfl, ⟨_, accessed⟩, rfl⟩
  · rintro ⟨fault | _, left⟩ after ended
    · exact ended
    · exact ended.1

theorem message_among {sender : Channel.Sender} {number : Channel.MessageNumber} {retry : Bool}
    {format : UInt8} {failed : Fault → Channel.Sender → Scene d → Prop}
    (producing : sender.buffer.Produces d)
    (small : Channel.headerSize + payload.length ≤ Channel.maxMessage)
    (fits : Channel.headerSize + payload.length ≤ sender.buffer.slotSize) :
    (Channel.Sender.write number retry format payload).Guarantees Others (Access d) sender scene
      (fun _ left _ => left.buffer = sender.buffer) failed := by
  unfold Channel.Sender.write
  apply Action.Guarantees.get_then
  simp only
  rw [if_neg (not_or.mpr ⟨Nat.not_lt.mpr small, Nat.not_lt.mpr fits⟩)]
  apply Action.Guarantees.bind others_interference fun _ left _ => left.buffer = sender.buffer
  · unfold Channel.Sender.onBuffer
    apply Action.Guarantees.part others_interference
    apply (write_among producing ?_).mono
    · rintro _ _ _ rfl
      rfl
    · intro _ _ _ lost
      exact lost.elim
    · rw [List.length_append, Channel.Header.length_toBytes]
      exact fits
  · intro _ left _ same _ _
    exact same

/-- A message is posted, or the one before is found unacknowledged. -/
theorem post_among {sender : Channel.Sender} {format : UInt8} (producing : sender.buffer.Produces d)
    (small : Channel.headerSize + payload.length ≤ Channel.maxMessage)
    (fits : Channel.headerSize + payload.length ≤ sender.buffer.slotSize) :
    (Channel.Sender.post format payload).Guarantees Others (Access d) sender scene
      (fun _ left _ => left.buffer = sender.buffer)
      fun fault left after => fault = .busy ∧ left = sender ∧ ByReader scene.shared after.shared := by
  unfold Channel.Sender.post
  apply Action.Guarantees.bind others_interference (fun _ left after => left = sender ∧
    ByReader scene.shared after.shared)
  · unfold Channel.Sender.ready Channel.Sender.onBuffer
    apply Action.Guarantees.part others_interference
    apply (acknowledged_among producing).mono
    · rintro answer left after ⟨rfl, changed, _⟩
      exact ⟨rfl, changed⟩
    · intro _ _ _ lost
      exact lost.elim
  · rintro answer left after ⟨same, changed⟩
    subst same
    split
    · apply Action.Guarantees.get_then
      apply Action.Guarantees.bind others_interference fun _ sender _ => sender.buffer = left.buffer
      · exact message_among producing small fits
      · rintro _ sender after same
        apply Action.Guarantees.modify_then
        intro _ _
        exact same
    · intro later further
      exact ⟨rfl, rfl, byReader_interference.trans changed further.1⟩

end Scene

namespace Producer

open Scene

variable {state : State} {scene : Scene d} {timer : Timer}

/-- The producing end of a buffer with room for records. -/
structure Equipped (d : Descriptor) (producer : Producer) : Prop where
  producing : producer.sender.buffer.Produces d
  roomy : Channel.headerSize + entrySize ≤ producer.sender.buffer.slotSize

abbrev Clock : Timer → State → Prop := Timer.Clock Producer.timer

theorem phase_among (clock : Clock timer state) :
    phase.Guarantees Others (Access d) state scene
      (fun found left after => found = timer.phase ∧ left = state ∧ scene.Others after)
      fun _ _ _ => False := by
  apply Action.Guarantees.get_then
  intro later changed
  rw [Action.Ended.eq_def, clock.phase]
  exact ⟨rfl, rfl, changed⟩

theorem ready_among (producing : state.1.sender.buffer.Produces d) :
    ready.Guarantees Others (Access d) state scene
      (fun answer left after => left = state ∧ ByReader scene.shared after.shared ∧
        after.looks = scene.looks ++ [answer] ∧ (answer = true → Acked after.shared) ∧
        (Acked scene.shared → answer = true))
      fun _ _ _ => False := by
  unfold ready onSender
  apply Action.Guarantees.part others_interference
  unfold Channel.Sender.ready Channel.Sender.onBuffer
  apply Action.Guarantees.part others_interference
  apply (acknowledged_among producing).mono
  · rintro answer _ after ⟨rfl, told⟩
    exact ⟨rfl, told⟩
  · intro _ _ _ lost
    exact lost

/-- How a tick ends. -/
inductive Ticked (timer : Timer) (before : Scene d) : Except Fault Unit → State → Scene d → Prop where
  | rests {left : State} {after : Scene d} : timer.phase = .stopped → Clock timer left →
      after.looks = before.looks → Ticked timer before (.ok ()) left after
  | stops {left : State} {after : Scene d} : Acked after.shared → after.looks = before.looks ++ [true] →
      Clock timer.stop left → Ticked timer before (.ok ()) left after
  | counts {left : State} {after : Scene d} : ¬ Acked before.shared →
      after.looks = before.looks ++ [false] → Clock timer.tick left → timer.tick.phase ≠ .expired →
      Ticked timer before (.ok ()) left after
  | expires {left : State} {after : Scene d} : ¬ Acked before.shared →
      after.looks = before.looks ++ [false] → Clock timer.tick.start left →
      timer.tick.phase = .expired → Ticked timer before (.error (.error .timeout)) left after

/-- A tick touches neither the record nor what is sent. -/
def TickEnds (timer : Timer) (state : State) (before : Scene d) (result : Except Fault Unit) (left : State)
    (after : Scene d) : Prop :=
  left.1 = state.1 ∧ ByReader before.shared after.shared ∧ Ticked timer before result left after

theorem tick_ends (clock : Clock timer state) (equipped : Equipped d state.1) :
    tick.Guarantees Others (Access d) state scene (fun _ => TickEnds timer state scene (.ok ()))
      fun fault => TickEnds timer state scene (.error fault) := by
  apply Action.Guarantees.bind_sure others_interference (phase_among clock)
  rintro _ _ begun ⟨rfl, rfl, start⟩
  split
  · rename_i stopped
    intro later changed
    have changed := others_interference.trans start changed
    exact ⟨rfl, changed.1, .rests stopped clock changed.2⟩
  apply Action.Guarantees.bind_sure others_interference (ready_among equipped.producing)
  rintro answer _ seen ⟨rfl, changed, looks, noticed, due⟩
  have changed := byReader_interference.trans start.1 changed
  rw [start.2] at looks
  split
  · rename_i answered
    subst answered
    obtain ⟨pool, stopped, clock⟩ := clock.stop
    refine .onTimer stopped fun later further => ⟨rfl, byReader_interference.trans changed further.1, ?_⟩
    exact .stops (further.1.lasts (noticed rfl)) (further.2.trans looks) clock
  · rename_i unanswered
    rw [Bool.not_eq_true] at unanswered
    subst unanswered
    have unsettled : ¬ Acked scene.shared := fun acked => by cases due (start.1.lasts acked)
    obtain ⟨pool, ticked, clock⟩ := clock.tick
    refine .onTimer_then ticked ?_
    apply Action.Guarantees.bind_sure others_interference (phase_among clock)
    rintro _ _ checked ⟨rfl, rfl, further⟩
    have changed := byReader_interference.trans changed further.1
    have looks := further.2.trans looks
    split
    · rename_i expired
      obtain ⟨pool, started, clock⟩ := clock.start
      rw [← Timer.start_eq] at clock
      refine .onTimer_then started fun later last => ?_
      exact ⟨rfl, byReader_interference.trans changed last.1,
        .expires unsettled (last.2.trans looks) clock expired⟩
    · rename_i running
      intro later last
      refine ⟨rfl, byReader_interference.trans changed last.1, ?_⟩
      exact .counts unsettled (last.2.trans looks) clock running

/-- A post starts the timer, or leaves all as it is. -/
theorem post_ends (entry : Entry) (clock : Clock timer state) (equipped : Equipped d state.1) :
    (post entry).Guarantees Others (Access d) state scene
      (fun _ left _ => Equipped d left.1 ∧ Clock (Timer.after timer.limit 0) left)
      fun fault left after => fault = .busy ∧ left = state ∧ ByReader scene.shared after.shared := by
  have small : Channel.headerSize + entry.toBytes.length ≤ Channel.maxMessage := by
    rw [Entry.length_toBytes]
    decide
  have fits : Channel.headerSize + entry.toBytes.length ≤ state.1.sender.buffer.slotSize := by
    rw [Entry.length_toBytes]
    exact equipped.roomy
  apply Action.Guarantees.bind others_interference fun _ left _ => Equipped d left.1 ∧ Clock timer left
  · unfold onSender
    apply Action.Guarantees.part others_interference
    apply (post_among equipped.producing small fits).mono
    · intro _ sender _ same
      exact ⟨⟨same ▸ equipped.producing, same ▸ equipped.roomy⟩, clock⟩
    · rintro fault _ after ⟨rfl, rfl, changed⟩
      exact ⟨rfl, rfl, changed⟩
  · rintro _ left posted ⟨equipped, clock⟩
    obtain ⟨pool, started, clock⟩ := clock.start
    exact .onTimer started fun _ _ => ⟨equipped, clock⟩

end Producer

end NodeLink.Logbook

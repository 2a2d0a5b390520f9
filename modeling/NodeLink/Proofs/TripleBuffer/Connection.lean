import NodeLink.Proofs.TripleBuffer.Exchange

/-! How a buffer comes into use: one processor creates it, and the other one attaches to it. Both ends
then work on memory that shows no write. -/
namespace NodeLink

def Role.other : Role → Role
  | .producer => .consumer
  | .consumer => .producer

namespace Descriptor

variable {d : Descriptor} {memory after : SharedMemory} {address : Nat}

/-- The control words of a buffer without a write. -/
structure Blank (d : Descriptor) (memory : SharedMemory) : Prop where
  start : memory.Mapped d.base
  producer : memory.load d.producerAddress = .ok (ControlWord.toWord ⟨0, 0⟩)
  consumer : memory.load d.consumerAddress = .ok (ControlWord.toWord ⟨0, ControlWord.noSlot⟩)

theorem Blank.store (blank : d.Blank memory)
    (same : SharedMemory.SameOutside (· = address) memory after)
    (apart : address ≠ d.producerAddress ∧ address ≠ d.consumerAddress) : d.Blank after where
  start := (same.1 _).mpr blank.start
  producer := (same.2 _ (Ne.symm apart.1)).trans blank.producer
  consumer := (same.2 _ (Ne.symm apart.2)).trans blank.consumer

/-- The words from the first to the last one of a region are mapped if these two are. -/
theorem laid_of_mapped (aligned : d.base % 4 = 0) (small : d.size ≤ 65535)
    (first : memory.Mapped d.base) (last : memory.Mapped (d.endAddress 2)) : d.Laid memory where
  aligned := aligned
  small := small
  mapped address whole above below := by
    obtain ⟨_, low, _⟩ := first
    obtain ⟨wholeLast, _, high⟩ := last
    have two : UInt8.toNat 2 = 2 := rfl
    simp only [endAddress, slotAddress, Layout.slotAddress, Layout.endOffset, Layout.dataOffset,
      regionSize, Layout.regionSize, Layout.slotCount, Layout.slotStride, two] at *
    refine ⟨whole, Nat.le_trans low above, Nat.lt_of_le_of_lt (Nat.div_le_div_right ?_) high⟩
    omega

theorem Blank.shows (blank : d.Blank memory) (aligned : d.base % 4 = 0) (small : d.size ≤ 65535)
    (last : memory.Mapped (d.endAddress 2)) :
    d.Shows memory [] 0 ⟨0, ControlWord.noSlot⟩ where
  laid := laid_of_mapped aligned small blank.start last
  valid := by decide
  producer := blank.producer
  consumer := blank.consumer
  holds _ none := nomatch none

end Descriptor

namespace TripleBuffer

variable {faults : Prop} {buffer : TripleBuffer} {memory : SharedMemory} {d : Descriptor}
  {slot : UInt8}

theorem clearSlot_ensures (blank : buffer.region.Blank memory) :
    (clearSlot slot).Ensures faults anyAccess buffer memory
      (fun _ left after => left = buffer ∧ buffer.region.Blank after ∧
        after.Mapped (buffer.region.endAddress slot))
      fun _ _ _ => True := by
  unfold clearSlot
  refine store_anywhere_then trivial (fun begun _ _ same => ?_) trivial
  have blank := blank.store same (Descriptor.control_ne_of_inSlot Descriptor.inSlot_begin)
  refine store_anywhere_then trivial (fun sized _ _ same => ?_) trivial
  have blank := blank.store same (Descriptor.control_ne_of_inSlot Descriptor.inSlot_length)
  refine store_anywhere trivial (fun ended mapped _ same => ?_) trivial
  have blank := blank.store same (Descriptor.control_ne_of_inSlot Descriptor.inSlot_end)
  exact ⟨rfl, blank, (same.1 _).mpr mapped⟩

theorem initialise_ensures (aligned : buffer.base % 4 = 0) (small : buffer.slotSize ≤ 65535) :
    initialise.Ensures faults anyAccess buffer memory
      (fun _ left after => left = buffer ∧
        buffer.region.Shows after [] 0 ⟨0, ControlWord.noSlot⟩)
      fun _ _ _ => True := by
  have others (offset : Nat) (apart : offset = 0 ∨ offset = 12) :
      buffer.base + offset ≠ buffer.region.producerAddress ∧
        buffer.base + offset ≠ buffer.region.consumerAddress := by
    simp only [Descriptor.producerAddress, Descriptor.consumerAddress, region,
      Layout.producerOffset, Layout.consumerOffset]
    omega
  unfold initialise
  refine store_anywhere_then trivial (fun closed start _ same => ?_) trivial
  have start := (same.1 _).mpr start
  refine store_anywhere_then trivial (fun named _ producer same => ?_) trivial
  have start := (same.1 _).mpr start
  refine store_anywhere_then trivial (fun shown _ consumer same => ?_) trivial
  have blank : buffer.region.Blank shown :=
    ⟨(same.1 _).mpr start, (same.2 _ Descriptor.producerAddress_ne).trans producer, consumer⟩
  refine store_anywhere_then trivial (fun flagged _ _ same => ?_) trivial
  have blank := blank.store same (others 12 (.inr rfl))
  apply Action.Ensures.bind _ (clearSlot_ensures blank)
  rintro _ _ _ ⟨rfl, blank, _⟩
  apply Action.Ensures.bind _ (clearSlot_ensures blank)
  rintro _ _ _ ⟨rfl, blank, _⟩
  apply Action.Ensures.bind _ (clearSlot_ensures blank)
  rintro _ left _ ⟨rfl, blank, last⟩
  apply Action.get_then
  refine store_anywhere trivial (fun after _ _ same => ⟨rfl, ?_⟩) trivial
  exact (blank.store same (others 0 (.inl rfl))).shows aligned small ((same.1 _).mpr last)

theorem checkDescriptor_ok (passed : checkDescriptor d = .ok ()) :
    d.base % 4 = 0 ∧ d.size ≤ 65535 := by
  unfold checkDescriptor at passed
  split at passed
  · contradiction
  · split at passed
    · contradiction
    · omega

theorem prepare_ensures {operation : Operation Unit} {post : TripleBuffer → SharedMemory → Prop}
    (holds : operation.Ensures faults anyAccess buffer memory (fun _ => post) fun _ _ _ => True) :
    (prepare operation buffer).inWords.Ensures (SharedMemory.Answers faults) anyAccess memory
      fun result after => ∀ own, result = .ok own → post own after := by
  change ((operation buffer).bind _).inWords.Ensures _ _ _ _
  rw [Prog.inWords_bind]
  refine (Prog.ensures_bind _ _ _).mpr (Prog.Ensures.mono holds (fun _ granted => granted) ?_)
  rintro ⟨fault | done, left⟩ after ended own result
  · contradiction
  · cases result
    exact ended

theorem create_ensures {role : Role} :
    (create role d).inWords.Ensures (SharedMemory.Answers faults) anyAccess memory
      fun result after => ∀ own, result = .ok own →
        own = new role d 0 ∧ d.Shows after [] 0 ⟨0, ControlWord.noSlot⟩ := by
  refine prepare_ensures (Action.ofExcept_then (fun _ passed => ?_) fun _ _ => trivial)
  obtain ⟨aligned, small⟩ := checkDescriptor_ok passed
  have initialised : initialise.Ensures faults anyAccess (new role d 0) memory _ _ :=
    initialise_ensures aligned small
  exact initialised

theorem attach_ensures {role : Role} {lastSeen : Sequence} :
    (attach role d lastSeen).inWords.Ensures (SharedMemory.Answers faults) anyAccess memory
      fun result after => ∀ own, result = .ok own →
        own = new role d lastSeen ∧ after = memory := by
  refine prepare_ensures (Action.ofExcept_then (fun _ _ => ?_) fun _ _ => trivial)
  refine load_anywhere_then trivial (fun found => Action.get_then ?_) trivial
  split
  · trivial
  · split
    · trivial
    · exact ⟨rfl, rfl⟩

/-- One processor creates a buffer and the other attaches to it: the producing end and the consuming
end. -/
def connect (owner : Role) (d : Descriptor) :
    Prog Medium (Except Fault (TripleBuffer × TripleBuffer)) := do
  match ← create owner d with
  | .error fault => return .error fault
  | .ok own =>
    match ← attach owner.other d 0 with
    | .error fault => return .error fault
    | .ok other => return .ok (if owner = .producer then (own, other) else (other, own))

theorem connect_ensures {owner : Role} :
    (connect owner d).inWords.Ensures (SharedMemory.Answers faults) anyAccess memory
      fun result after => ∀ producing consuming, result = .ok (producing, consuming) →
        producing.Produces d ∧ consuming.Consumes d 0 ∧
          d.Shows after [] 0 ⟨0, ControlWord.noSlot⟩ := by
  change ((create owner d).bind _).inWords.Ensures _ _ _ _
  rw [Prog.inWords_bind]
  refine (Prog.ensures_bind _ _ _).mpr (create_ensures.mono (fun _ granted => granted) ?_)
  rintro (fault | own) created made
  · rintro _ _ ⟨⟩
  obtain ⟨rfl, shows⟩ := made own rfl
  change ((attach owner.other d 0).bind _).inWords.Ensures _ _ _ _
  rw [Prog.inWords_bind]
  refine (Prog.ensures_bind _ _ _).mpr (attach_ensures.mono (fun _ granted => granted) ?_)
  rintro (fault | other) attached found
  · rintro _ _ ⟨⟩
  obtain ⟨rfl, rfl⟩ := found other rfl
  intro producing consuming both
  cases owner with
  | producer =>
    cases both
    exact ⟨⟨rfl, rfl⟩, ⟨rfl, rfl, rfl⟩, shows⟩
  | consumer =>
    cases both
    exact ⟨⟨rfl, rfl⟩, ⟨rfl, rfl, rfl⟩, shows⟩

/-- What a start of both ends without failing accesses leaves. -/
theorem connected_shows {owner : Role} {after : SharedMemory} {producing consuming : TripleBuffer}
    (connected : (connect owner d).inWords.run SharedMemory.onWords memory =
      (.ok (producing, consuming), after)) :
    producing.Produces d ∧ consuming.Consumes d 0 ∧ d.Shows after [] 0 ⟨0, ControlWord.noSlot⟩ := by
  have ensured : (connect owner d).inWords.Ensures (SharedMemory.Answers False) anyAccess memory _ :=
    connect_ensures
  have ended := ensured.run SharedMemory.onWords (fun memory => memory)
    (SharedMemory.answers_onWords False) memory
  rw [connected] at ended
  exact ended producing consuming rfl

end TripleBuffer

end NodeLink

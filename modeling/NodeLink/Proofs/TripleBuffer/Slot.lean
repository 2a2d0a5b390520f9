import NodeLink.Proofs.Operation

/-! The slots of a buffer. A filled slot holds a write's payload between two stamps with its number;
filling touches one slot alone, and a copy of a slot that holds a write is that write. -/
namespace NodeLink

namespace Descriptor

variable {d : Descriptor} {memory after : SharedMemory} {slot other : UInt8} {seq : Sequence}
  {payload : Bytes} {address : Nat}

def slotAddress (d : Descriptor) (slot : UInt8) : Nat :=
  Layout.slotAddress d.base d.size slot.toNat

def endAddress (d : Descriptor) (slot : UInt8) : Nat :=
  d.slotAddress slot + Layout.endOffset d.size

/-- The addresses of a slot. -/
def InSlot (d : Descriptor) (slot : UInt8) (address : Nat) : Prop :=
  d.slotAddress slot ≤ address ∧ address < d.slotAddress slot + Layout.slotStride d.size

/-- The buffer's region is aligned memory, and a length fits its word. -/
structure Laid (d : Descriptor) (memory : SharedMemory) : Prop where
  aligned : d.base % 4 = 0
  small : d.size ≤ 65535
  mapped : ∀ address, address % 4 = 0 → d.base ≤ address → address < d.base + d.regionSize →
    memory.Mapped address

/-- A slot holds a write's payload and number. -/
structure Holds (d : Descriptor) (memory : SharedMemory) (slot : UInt8) (seq : Sequence)
    (payload : Bytes) : Prop where
  fits : payload.length ≤ d.size
  first : memory.load (d.slotAddress slot + Layout.beginOffset) = .ok seq.toUInt32
  length : memory.load (d.slotAddress slot + Layout.lengthOffset) =
    .ok (UInt32.ofNat payload.length)
  data : memory.HasWords (d.slotAddress slot + Layout.dataOffset) payload.words
  last : memory.load (d.endAddress slot) = .ok seq.toUInt32

theorem slotAddress_aligned (laid : d.Laid memory) : d.slotAddress slot % 4 = 0 := by
  have aligned := laid.aligned
  have stride : Layout.slotStride d.size = 4 * (3 + Bytes.wordCount d.size) := by
    simp only [Layout.slotStride, Bytes.padded]
    omega
  simp only [slotAddress, Layout.slotAddress, Layout.slotsOffset, stride,
    Nat.mul_left_comm slot.toNat 4]
  omega

theorem Laid.mapped_slot (laid : d.Laid memory) (valid : slot.toNat < 3) (inside : d.InSlot slot address)
    (aligned : address % 4 = 0) : memory.Mapped address := by
  obtain ⟨above, below⟩ := inside
  have upto : slot.toNat * Layout.slotStride d.size ≤ 2 * Layout.slotStride d.size :=
    Nat.mul_le_mul_right _ (by omega)
  simp only [slotAddress, Layout.slotAddress] at above below
  apply laid.mapped address aligned (by omega)
  simp only [regionSize, Layout.regionSize, Layout.slotCount]
  omega

theorem Laid.congr (laid : d.Laid memory) (same : ∀ address, after.Mapped address ↔ memory.Mapped address) :
    d.Laid after :=
  ⟨laid.aligned, laid.small, fun address aligned above below =>
    (same address).mpr (laid.mapped address aligned above below)⟩

theorem not_inSlot_of_ne (apart : slot ≠ other) (inside : d.InSlot slot address) :
    ¬ d.InSlot other address := by
  rintro ⟨above, below⟩
  obtain ⟨above', below'⟩ := inside
  have apart : slot.toNat ≠ other.toNat := fun same => apart (UInt8.toNat_inj.mp same)
  simp only [slotAddress, Layout.slotAddress] at above below above' below'
  rcases Nat.lt_or_gt_of_ne apart with before | behind
  · have := Nat.mul_le_mul_right (Layout.slotStride d.size) (Nat.succ_le_of_lt before)
    rw [Nat.succ_mul] at this
    omega
  · have := Nat.mul_le_mul_right (Layout.slotStride d.size) (Nat.succ_le_of_lt behind)
    rw [Nat.succ_mul] at this
    omega

/-- Slots lie behind the control words. -/
theorem InSlot.above (inside : d.InSlot slot address) : d.base + Layout.slotsOffset ≤ address := by
  have := inside.1
  simp only [slotAddress, Layout.slotAddress] at this
  omega

theorem inSlot_begin : d.InSlot slot (d.slotAddress slot + Layout.beginOffset) := by
  simp only [InSlot, Layout.beginOffset, Layout.slotStride]
  omega

theorem inSlot_length : d.InSlot slot (d.slotAddress slot + Layout.lengthOffset) := by
  simp only [InSlot, Layout.lengthOffset, Layout.slotStride]
  omega

theorem inSlot_end : d.InSlot slot (d.endAddress slot) := by
  simp only [InSlot, endAddress, Layout.endOffset, Layout.dataOffset, Layout.slotStride]
  omega

/-- A payload's words lie between the length and the end stamp. -/
theorem data_between (fits : payload.length ≤ d.size)
    (inside : Within (d.slotAddress slot + Layout.dataOffset) payload.words.length address) :
    d.slotAddress slot + Layout.dataOffset ≤ address ∧ address < d.endAddress slot := by
  have words : payload.words.length ≤ Bytes.wordCount d.size := by
    simp only [Bytes.length_words, Bytes.wordCount]
    omega
  simp only [Within, Layout.dataOffset] at inside
  simp only [endAddress, Layout.endOffset, Layout.dataOffset, Bytes.padded]
  omega

theorem inSlot_data (fits : payload.length ≤ d.size)
    (inside : Within (d.slotAddress slot + Layout.dataOffset) payload.words.length address) :
    d.InSlot slot address := by
  have between := data_between fits inside
  simp only [endAddress, Layout.endOffset, Layout.dataOffset] at between
  simp only [InSlot, Layout.slotStride]
  omega

/-- What a slot holds depends on the slot alone. -/
theorem Holds.congr (same : ∀ address, d.InSlot slot address → after.load address = memory.load address)
    (holds : d.Holds memory slot seq payload) : d.Holds after slot seq payload where
  fits := holds.fits
  first := (same _ inSlot_begin).trans holds.first
  length := (same _ inSlot_length).trans holds.length
  data := holds.data.congr fun _ above below => same _ (inSlot_data holds.fits ⟨above, below⟩)
  last := (same _ inSlot_end).trans holds.last

end Descriptor

namespace TripleBuffer

variable {faults : Prop} {buffer : TripleBuffer} {memory : SharedMemory} {slot : UInt8}
  {seq : Sequence} {payload : Bytes}

/-- The part of the layout table that an end works on. -/
def region (buffer : TripleBuffer) : Descriptor := ⟨buffer.id, buffer.base, buffer.slotSize⟩

theorem slotAddress_eq (buffer : TripleBuffer) (slot : UInt8) :
    buffer.slotAddress slot = buffer.region.slotAddress slot := rfl

theorem fillSlot_ensures (laid : buffer.region.Laid memory) (valid : slot.toNat < 3)
    (fits : payload.length ≤ buffer.slotSize) :
    (fillSlot slot seq payload).Ensures faults (StoresIn (buffer.region.InSlot slot)) buffer memory
      (fun _ left after => left = buffer ∧ buffer.region.Holds after slot seq payload)
      fun fault left _ => left = buffer ∧ fault = .error .medium ∧ faults := by
  have whole : buffer.region.slotAddress slot % 4 = 0 := Descriptor.slotAddress_aligned laid
  have lengthWhole : (buffer.region.slotAddress slot + Layout.lengthOffset) % 4 = 0 := by
    simp only [Layout.lengthOffset]
    omega
  have endWhole : buffer.region.endAddress slot % 4 = 0 := by
    simp only [Descriptor.endAddress, Layout.endOffset, Layout.dataOffset, Bytes.padded]
    omega
  have between {address : Nat}
      (inside : Within (buffer.region.slotAddress slot + Layout.dataOffset) payload.words.length
        address) : address < buffer.region.endAddress slot := (Descriptor.data_between fits inside).2
  have lost (allowed : faults) (_ : SharedMemory) :
      buffer = buffer ∧ Fault.error Error.medium = .error .medium ∧ faults := ⟨rfl, rfl, allowed⟩
  refine store_then Descriptor.inSlot_begin
    (laid.mapped_slot valid Descriptor.inSlot_begin whole) (fun begun first sameBegun => ?_)
    fun allowed => lost allowed memory
  have laid := laid.congr sameBegun.1
  refine store_then Descriptor.inSlot_length
    (laid.mapped_slot valid Descriptor.inSlot_length lengthWhole)
    (fun sized length sameSized => ?_) fun allowed => lost allowed begun
  have laid := laid.congr sameSized.1
  refine storeBytes_then (fun _ _ inside => Descriptor.inSlot_data fits inside) (fun index inside => ?_)
    (fun filled data sameFilled => ?_) fun allowed after _ => lost allowed after
  · rw [slotAddress_eq]
    refine laid.mapped_slot valid (Descriptor.inSlot_data fits ?_) ?_
    · simp only [Within]
      omega
    · simp only [Layout.dataOffset]
      omega
  have laid := laid.congr sameFilled.1
  refine store_ensures Descriptor.inSlot_end (laid.mapped_slot valid Descriptor.inSlot_end endWhole)
    (fun after last sameLast => ⟨rfl, ?_⟩) fun allowed => lost allowed filled
  -- No later store reaches a word that an earlier one left.
  have keepLast {address : Nat} (apart : address ≠ buffer.region.endAddress slot) :
      after.load address = filled.load address := sameLast.2 address apart
  have keepFilled {address : Nat}
      (before : address < buffer.region.slotAddress slot + Layout.dataOffset) :
      filled.load address = sized.load address :=
    sameFilled.2 address fun inside => absurd inside.1 (Nat.not_le.mpr before)
  have keepSized {address : Nat}
      (apart : address ≠ buffer.region.slotAddress slot + Layout.lengthOffset) :
      sized.load address = begun.load address := sameSized.2 address apart
  have order : buffer.region.slotAddress slot + Layout.dataOffset ≤ buffer.region.endAddress slot := by
    simp only [Descriptor.endAddress, Layout.endOffset]
    omega
  refine ⟨fits, ?_, ?_, ?_, last⟩
  · simp only [Layout.beginOffset, Layout.lengthOffset, Layout.dataOffset] at *
    rw [keepLast (by omega), keepFilled (by omega), keepSized (by omega)]
    exact first
  · simp only [Layout.lengthOffset, Layout.dataOffset] at *
    rw [keepLast (by omega), keepFilled (by omega)]
    exact length
  · exact data.congr fun _ above below => keepLast (Nat.ne_of_lt (between ⟨above, below⟩))

/-- The end after it has taken the number of a complete copy for seen. -/
def observed (buffer : TripleBuffer) (seq : Sequence) : TripleBuffer :=
  if seq.isFresh buffer.lastSeen then { buffer with lastSeen := seq } else buffer

theorem observe_ensures {size : Nat} {may : Words.Request → Prop}
    {ok : Snapshot → TripleBuffer → SharedMemory → Prop}
    {failed : Fault → TripleBuffer → SharedMemory → Prop}
    (holds : ok ⟨seq, size, seq.isFresh buffer.lastSeen⟩ (buffer.observed seq) memory) :
    (observe seq size).Ensures faults may buffer memory ok failed := by
  by_cases fresh : seq.isFresh buffer.lastSeen
  · simp only [observed, if_pos fresh] at holds
    change Action.Ensures _ _ (if seq.isFresh buffer.lastSeen then _ else _) _ _ _ _
    rw [if_pos fresh]
    exact holds
  · simp only [observed, if_neg fresh] at holds
    change Action.Ensures _ _ (if seq.isFresh buffer.lastSeen then _ else _) _ _ _ _
    rw [if_neg fresh]
    exact holds

/-- How a copy of a slot ends that holds a write. -/
def Copied (faults : Prop) (buffer : TripleBuffer) (seq : Sequence) (payload : Bytes)
    (attempt : ReadAttempt) (left : TripleBuffer) : Prop :=
  attempt = ⟨payload, .ok ⟨seq, payload.length, seq.isFresh buffer.lastSeen⟩⟩ ∧
      left = buffer.observed seq ∨
    faults ∧ attempt.result = .error (.error .medium) ∧ left = buffer

theorem copySlot_ensures {room : Nat} (small : buffer.slotSize ≤ 65535)
    (holds : buffer.region.Holds memory slot seq payload) :
    (copySlot ⟨seq, slot⟩ room).Ensures faults (LoadsIn (buffer.region.InSlot slot)) buffer memory
      (fun attempt left _ => Copied faults buffer seq payload attempt left)
      fun fault left _ => left = buffer ∧
        (faults ∧ fault = .error .medium ∨
          room < payload.length ∧ fault = .error .bufferTooSmall) := by
  have fits : payload.length ≤ buffer.slotSize := holds.fits
  have size : (UInt32.ofNat payload.length).toNat = payload.length := by
    rw [UInt32.toNat_ofNat']
    omega
  unfold copySlot
  refine load_then Descriptor.inSlot_end holds.last ?_ fun allowed => ⟨rfl, .inl ⟨allowed, rfl⟩⟩
  refine load_then Descriptor.inSlot_length holds.length ?_ fun allowed => ⟨rfl, .inl ⟨allowed, rfl⟩⟩
  rw [size]
  change Action.Ensures _ _ (if buffer.slotSize < payload.length then _ else _) _ _ _ _
  rw [if_neg (Nat.not_lt.mpr fits)]
  by_cases short : room < payload.length
  · rw [if_pos short]
    exact ⟨rfl, .inr ⟨short, rfl⟩⟩
  rw [if_neg short]
  refine loadBytes_then (fun _ inside => Descriptor.inSlot_data fits inside) holds.data ?_
    fun allowed moved => ?_
  · apply Action.Ensures.bind (fun result left _ =>
      Copied faults buffer seq payload ⟨payload, result⟩ left)
    · apply Action.ensures_outcome
      change Action.Ensures _ _ (load _ >>= _) _ _ _ _
      refine load_then Descriptor.inSlot_begin holds.first ?_
        fun allowed => .inr ⟨allowed, rfl, rfl⟩
      simp only [ne_eq, not_true_eq_false, or_self, if_false]
      exact observe_ensures (.inl ⟨rfl, rfl⟩)
    · intro result left after copied
      exact copied
  · apply Action.Ensures.bind (fun result left _ =>
      Copied faults buffer seq payload ⟨moved, result⟩ left)
    · exact .inr ⟨allowed, rfl, rfl⟩
    · intro result left after copied
      exact copied

end TripleBuffer

end NodeLink

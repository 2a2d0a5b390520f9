import NodeLink.Proofs.TripleBuffer.Numbering
import NodeLink.Proofs.TripleBuffer.Slot

/-! Operations of both ends one after the other. The words of a buffer show the payloads published so
far and the number acknowledged last; each operation says what it makes of that, also when accesses
fail on the way. -/
namespace NodeLink

namespace Descriptor

variable {d : Descriptor} {memory after : SharedMemory} {published : List Bytes}
  {latest slot : UInt8} {control : ControlWord} {acked : Sequence}

def producerAddress (d : Descriptor) : Nat := d.base + Layout.producerOffset

def consumerAddress (d : Descriptor) : Nat := d.base + Layout.consumerOffset

/-- The addresses of the two control words. -/
def IsControl (d : Descriptor) (address : Nat) : Prop :=
  address = d.producerAddress ∨ address = d.consumerAddress

/-- The control words name the latest write, which its slot holds, and the consumer's register. -/
structure Shows (d : Descriptor) (memory : SharedMemory) (published : List Bytes) (latest : UInt8)
    (control : ControlWord) : Prop where
  laid : d.Laid memory
  valid : latest.toNat < 3
  producer : memory.load d.producerAddress =
    .ok (ControlWord.toWord ⟨.ofCount published.length, latest⟩)
  consumer : memory.load d.consumerAddress = .ok control.toWord
  holds : ∀ payload, published.getLast? = some payload →
    d.Holds memory latest (.ofCount published.length) payload

/-- What a buffer shows, whatever slots are in use. -/
def Carries (d : Descriptor) (memory : SharedMemory) (published : List Bytes)
    (acked : Sequence) : Prop :=
  ∃ latest slot, d.Shows memory published latest ⟨acked, slot⟩

theorem control_ne_of_inSlot {address : Nat} (inside : d.InSlot slot address) :
    address ≠ d.producerAddress ∧ address ≠ d.consumerAddress := by
  have above := inside.above
  simp only [producerAddress, consumerAddress, Layout.producerOffset, Layout.consumerOffset,
    Layout.slotsOffset] at *
  omega

theorem producerAddress_ne : d.producerAddress ≠ d.consumerAddress := by
  simp only [producerAddress, consumerAddress, Layout.producerOffset, Layout.consumerOffset]
  omega

theorem Laid.producer (laid : d.Laid memory) : memory.Mapped d.producerAddress := by
  have aligned := laid.aligned
  apply laid.mapped <;>
    simp only [producerAddress, Layout.producerOffset, regionSize, Layout.regionSize,
      Layout.slotsOffset] <;> omega

theorem Laid.consumer (laid : d.Laid memory) : memory.Mapped d.consumerAddress := by
  have aligned := laid.aligned
  apply laid.mapped <;>
    simp only [consumerAddress, Layout.consumerOffset, regionSize, Layout.regionSize,
      Layout.slotsOffset] <;> omega

/-- Filling another slot leaves what the buffer shows. -/
theorem Shows.fill (shows : d.Shows memory published latest control) (apart : slot ≠ latest)
    (same : SharedMemory.SameOutside (d.InSlot slot) memory after) :
    d.Shows after published latest control where
  laid := shows.laid.congr same.1
  valid := shows.valid
  producer := (same.2 _ fun inside => (control_ne_of_inSlot inside).1 rfl).trans shows.producer
  consumer := (same.2 _ fun inside => (control_ne_of_inSlot inside).2 rfl).trans shows.consumer
  holds payload last := (shows.holds payload last).congr fun address inside =>
    same.2 address (not_inSlot_of_ne (Ne.symm apart) inside)

/-- The consumer's register is apart from all that the producer shows. -/
theorem Shows.register (shows : d.Shows memory published latest control) {changed : ControlWord}
    (stored : after.load d.consumerAddress = .ok changed.toWord)
    (same : SharedMemory.SameOutside (· = d.consumerAddress) memory after) :
    d.Shows after published latest changed where
  laid := shows.laid.congr same.1
  valid := shows.valid
  producer := (same.2 _ producerAddress_ne).trans shows.producer
  consumer := stored
  holds payload last := (shows.holds payload last).congr fun address inside =>
    same.2 address (control_ne_of_inSlot inside).2

/-- A filled slot becomes the latest with the producer's word. -/
theorem Shows.publish {payload : Bytes} (shows : d.Shows memory published latest control)
    (valid : slot.toNat < 3)
    (holds : d.Holds memory slot (.ofCount (published.length + 1)) payload)
    (stored : after.load d.producerAddress =
      .ok (ControlWord.toWord ⟨.ofCount (published.length + 1), slot⟩))
    (same : SharedMemory.SameOutside (· = d.producerAddress) memory after) :
    d.Shows after (published ++ [payload]) slot control where
  laid := shows.laid.congr same.1
  valid := valid
  producer := by rwa [List.length_append, List.length_singleton]
  consumer := (same.2 _ producerAddress_ne.symm).trans shows.consumer
  holds other last := by
    rw [List.getLast?_concat, Option.some.injEq] at last
    subst last
    rw [List.length_append, List.length_singleton]
    exact holds.congr fun address inside => same.2 address (control_ne_of_inSlot inside).1

end Descriptor

namespace TripleBuffer

variable {faults : Prop} {buffer : TripleBuffer} {memory : SharedMemory} {published : List Bytes}
  {acked lastSeen : Sequence} {d : Descriptor}

/-- The producing end of a buffer. -/
structure Produces (buffer : TripleBuffer) (d : Descriptor) : Prop where
  role : buffer.role = .producer
  region : buffer.region = d

/-- The consuming end of a buffer, with the number it saw last. -/
structure Consumes (buffer : TripleBuffer) (d : Descriptor) (lastSeen : Sequence) : Prop where
  role : buffer.role = .consumer
  region : buffer.region = d
  seen : buffer.lastSeen = lastSeen

/-- All accesses are permitted. -/
def anyAccess : Words.Request → Prop := fun _ => True

/-- A slot that is not the latest is filled, and published by the producer's word. -/
theorem publish_shows {payload : Bytes} {latest slot : UInt8} {control : ControlWord}
    (shows : buffer.region.Shows memory published latest control) (valid : slot.toNat < 3)
    (apart : slot ≠ latest) (fits : payload.length ≤ buffer.slotSize) :
    let seq := Sequence.ofCount (published.length + 1)
    Action.Ensures faults (LoadsFrom buffer.region.IsControl)
      (do
        fillSlot slot seq payload
        storeProducer ⟨seq, slot⟩
        return seq)
      buffer memory
      (fun value left after => left = buffer ∧ value = seq ∧
        buffer.region.Shows after (published ++ [payload]) slot control)
      fun fault left after => left = buffer ∧ faults ∧ fault = .error .medium ∧
        SharedMemory.SameOutside (buffer.region.InSlot slot) memory after := by
  intro seq
  refine Action.Ensures.bind _ ((fillSlot_ensures shows.laid valid fits).stores_keep.mono
    ?_ (fun _ _ _ filled => filled) ?_) ?_
  · rintro (address | ⟨address, word⟩) granted
    · exact granted.elim
    · trivial
  · rintro _ _ after ⟨⟨rfl, rfl, allowed⟩, same⟩
    exact ⟨rfl, allowed, rfl, same⟩
  · rintro _ _ filled ⟨⟨rfl, holds⟩, same⟩
    have shows := shows.fill apart same
    apply store_then trivial shows.laid.producer
    · intro after stored changed
      exact ⟨rfl, rfl, shows.publish valid holds stored changed⟩
    · intro allowed
      exact ⟨rfl, allowed, rfl, same⟩

theorem write_shows {payload : Bytes} {latest : UInt8} {control : ControlWord}
    (producing : buffer.Produces d) (shows : d.Shows memory published latest control) :
    (write payload).Ensures faults (LoadsFrom d.IsControl) buffer memory
      (fun seq left after => left = buffer ∧ seq = .ofCount (published.length + 1) ∧
        d.Shows after (published ++ [payload]) (freeSlot latest control.slot) control)
      fun fault left after => left = buffer ∧ d.Shows after published latest control ∧
        (faults ∧ fault = .error .medium ∨
          d.size < payload.length ∧ fault = .error .payloadTooLarge) := by
  obtain ⟨role, rfl⟩ := producing
  unfold write
  apply requireRole_then role
  change Action.Ensures _ _ (if buffer.slotSize < payload.length then _ else _) _ _ _ _
  by_cases large : buffer.slotSize < payload.length
  · rw [if_pos large]
    exact ⟨rfl, shows, .inr ⟨large, rfl⟩⟩
  rw [if_neg large]
  refine load_then (.inl rfl) shows.producer ?_ fun allowed => ⟨rfl, shows, .inl ⟨allowed, rfl⟩⟩
  refine load_then (.inr rfl) shows.consumer ?_ fun allowed => ⟨rfl, shows, .inl ⟨allowed, rfl⟩⟩
  simp only [ControlWord.ofWord_toWord]
  obtain ⟨valid, apart, -⟩ := freeSlot_spec latest control.slot
  apply (publish_shows shows valid apart (Nat.not_lt.mp large)).mono (fun _ granted => granted)
  · intro seq left after published
    exact published
  · rintro fault left after ⟨same, allowed, rfl, elsewhere⟩
    exact ⟨same, shows.fill apart elsewhere, .inl ⟨allowed, rfl⟩⟩

theorem write_ensures {payload : Bytes} (producing : buffer.Produces d)
    (carries : d.Carries memory published acked) :
    (write payload).Ensures faults anyAccess buffer memory
      (fun seq left after => left = buffer ∧ seq = .ofCount (published.length + 1) ∧
        d.Carries after (published ++ [payload]) acked)
      fun fault left after => left = buffer ∧ d.Carries after published acked ∧
        (faults ∧ fault = .error .medium ∨
          d.size < payload.length ∧ fault = .error .payloadTooLarge) := by
  obtain ⟨latest, claimed, shows⟩ := carries
  apply (write_shows producing shows).mono (fun _ _ => trivial)
  · rintro seq left after ⟨same, numbered, shows⟩
    exact ⟨same, numbered, _, _, shows⟩
  · rintro fault left after ⟨same, shows, refused⟩
    exact ⟨same, ⟨_, _, shows⟩, refused⟩

theorem claim_ensures {attempts : Nat} {latest slot : UInt8}
    (shows : buffer.region.Shows memory published latest ⟨acked, slot⟩) :
    (claim acked (attempts + 1) (ControlWord.toWord ⟨.ofCount published.length, latest⟩)).Ensures
      faults anyAccess buffer memory
      (fun control left after => control = ⟨.ofCount published.length, latest⟩ ∧
        left = { buffer with reading := latest } ∧
        buffer.region.Shows after published latest ⟨acked, latest⟩)
      fun fault left after => left = { buffer with reading := latest } ∧
        buffer.region.Carries after published acked ∧ faults ∧ fault = .error .medium := by
  unfold claim
  simp only [ControlWord.ofWord_toWord]
  change Action.Ensures _ _ (storeConsumer ⟨acked, latest⟩ >>= _) { buffer with reading := latest } _ _ _
  refine store_then trivial shows.laid.consumer (fun after stored same => ?_)
    fun allowed => ⟨rfl, ⟨_, _, shows⟩, allowed, rfl⟩
  have shows := shows.register stored same
  refine load_then trivial shows.producer ?_ fun allowed => ⟨rfl, ⟨_, _, shows⟩, allowed, rfl⟩
  rw [if_pos rfl]
  exact ⟨rfl, rfl, shows⟩

theorem claimLatest_ensures {latest slot : UInt8}
    (shows : buffer.region.Shows memory published latest ⟨acked, slot⟩) :
    claimLatest.Ensures faults anyAccess buffer memory
      (fun control left after => control = ⟨.ofCount published.length, latest⟩ ∧
        left = { buffer with reading := latest } ∧
        buffer.region.Shows after published latest ⟨acked, latest⟩)
      fun fault left after => (∃ reading, left = { buffer with reading }) ∧
        buffer.region.Carries after published acked ∧ faults ∧ fault = .error .medium := by
  unfold claimLatest
  refine load_then trivial shows.consumer ?_
    fun allowed => ⟨⟨_, rfl⟩, ⟨_, _, shows⟩, allowed, rfl⟩
  refine load_then trivial shows.producer ?_
    fun allowed => ⟨⟨_, rfl⟩, ⟨_, _, shows⟩, allowed, rfl⟩
  simp only [ControlWord.ofWord_toWord]
  exact (claim_ensures shows).mono (fun _ granted => granted) (fun _ _ _ claimed => claimed)
    fun _ _ _ failed => ⟨⟨_, failed.1⟩, failed.2⟩

/-- What a read of the latest write returns. -/
def Latest (published : List Bytes) (lastSeen : Sequence) (snapshot : Snapshot) (bytes : Bytes) :
    Prop :=
  published = [] ∧ snapshot = ⟨0, 0, false⟩ ∧ bytes = [] ∨
    ∃ payload, published.getLast? = some payload ∧ bytes = payload ∧
      snapshot = ⟨.ofCount published.length, payload.length,
        (Sequence.ofCount published.length).isFresh lastSeen⟩

theorem Latest.of_fresh {snapshot : Snapshot} {bytes : Bytes}
    (latest : Latest published lastSeen snapshot bytes) (fresh : snapshot.fresh = true) :
    published.getLast? = some bytes := by
  rcases latest with ⟨-, rfl, -⟩ | ⟨payload, last, rfl, -⟩
  · contradiction
  · exact last

/-- What a consumer has seen after it has read a number. -/
def seenAfter (seq lastSeen : Sequence) : Sequence := if seq.isFresh lastSeen then seq else lastSeen

/-- How a read of the latest write ends that has claimed its slot. -/
def Answered (faults : Prop) (d : Descriptor) (published : List Bytes) (lastSeen : Sequence)
    (attempt : ReadAttempt) (left : TripleBuffer) : Prop :=
  (∃ snapshot, attempt.result = .ok snapshot ∧ Latest published lastSeen snapshot attempt.moved ∧
      left.Consumes d (seenAfter (.ofCount published.length) lastSeen)) ∨
    faults ∧ attempt.result = .error (.error .medium) ∧ left.Consumes d lastSeen

theorem Copied.answered {payload : Bytes} {attempt : ReadAttempt} {left : TripleBuffer}
    (copied : Copied faults buffer (.ofCount published.length) payload attempt left)
    (consuming : buffer.Consumes d lastSeen) (last : published.getLast? = some payload) :
    Answered faults d published lastSeen attempt left := by
  obtain ⟨role, region, rfl⟩ := consuming
  rcases copied with ⟨rfl, rfl⟩ | ⟨allowed, failing, rfl⟩
  · refine .inl ⟨_, rfl, .inr ⟨payload, last, rfl, rfl⟩, ?_⟩
    unfold observed seenAfter
    split
    · exact ⟨role, region, rfl⟩
    · exact ⟨role, region, rfl⟩
  · exact .inr ⟨allowed, failing, role, region, rfl⟩

/-- The end after a read of the latest write, from the slot it is in. -/
def taken (buffer : TripleBuffer) (published : List Bytes) (latest : UInt8) : TripleBuffer :=
  { buffer with reading := latest }.observed (.ofCount published.length)

theorem tryRead_shows {room : Nat} {latest slot : UInt8} (consuming : buffer.Consumes d lastSeen)
    (shows : d.Shows memory published latest ⟨acked, slot⟩) :
    (tryRead room).Ensures faults anyAccess buffer memory
      (fun attempt left after => d.Shows after published latest ⟨acked, latest⟩ ∧
        ((∃ snapshot, attempt.result = .ok snapshot ∧
            Latest published lastSeen snapshot attempt.moved ∧
            left = buffer.taken published latest) ∨
          faults ∧ attempt.result = .error (.error .medium) ∧
            left = { buffer with reading := latest }))
      fun fault left after => (∃ reading, left = { buffer with reading }) ∧
        d.Carries after published acked ∧
        (faults ∧ fault = .error .medium ∨
          (∃ payload, published.getLast? = some payload ∧ room < payload.length) ∧
            fault = .error .bufferTooSmall) := by
  obtain ⟨role, rfl, rfl⟩ := consuming
  apply requireRole_then role
  refine Action.Ensures.bind _ ((claimLatest_ensures shows).mono (fun _ granted => granted)
    (fun _ _ _ claimed => claimed) ?_) ?_
  · rintro _ _ after ⟨same, carries, lost⟩
    exact ⟨same, carries, .inl lost⟩
  rintro _ _ claimed ⟨rfl, rfl, shows⟩
  cases last : published.getLast? with
  | none =>
    have empty : published = [] := List.getLast?_eq_none_iff.mp last
    subst empty
    exact ⟨shows, .inl ⟨_, rfl, .inl ⟨rfl, rfl, rfl⟩, rfl⟩⟩
  | some payload =>
    have written : Sequence.ofCount published.length ≠ 0 := by
      rw [Ne, Sequence.ofCount_eq_zero_iff, List.length_eq_zero_iff]
      rintro rfl
      contradiction
    change Action.Ensures _ _ (if Sequence.ofCount published.length = 0 then _ else _) _ _ _ _
    rw [if_neg written]
    have holds : { buffer with reading := latest }.region.Holds claimed latest _ payload :=
      shows.holds payload last
    have small : { buffer with reading := latest }.slotSize ≤ 65535 := shows.laid.small
    apply (copySlot_ensures small holds).loads_keep.mono (fun _ _ => trivial)
    · rintro attempt left after ⟨⟨rfl, rfl⟩ | lost, rfl⟩
      · exact ⟨shows, .inl ⟨_, rfl, .inr ⟨payload, last, rfl, rfl⟩, rfl⟩⟩
      · exact ⟨shows, .inr lost⟩
    · rintro fault _ after ⟨⟨rfl, ended⟩, rfl⟩
      exact ⟨⟨_, rfl⟩, ⟨_, _, shows⟩, ended.imp_right fun short => ⟨⟨payload, rfl, short.1⟩, short.2⟩⟩

theorem Consumes.claimed {reading : UInt8} (consuming : buffer.Consumes d lastSeen) :
    { buffer with reading }.Consumes d lastSeen :=
  ⟨consuming.role, consuming.region, consuming.seen⟩

theorem Consumes.taken (consuming : buffer.Consumes d lastSeen) (published : List Bytes)
    (latest : UInt8) :
    (buffer.taken published latest).Consumes d (seenAfter (.ofCount published.length) lastSeen) := by
  obtain ⟨role, region, rfl⟩ := consuming
  unfold TripleBuffer.taken observed seenAfter
  split
  · exact ⟨role, region, rfl⟩
  · exact ⟨role, region, rfl⟩

theorem read_shows {room : Nat} {latest slot : UInt8} (consuming : buffer.Consumes d lastSeen)
    (shows : d.Shows memory published latest ⟨acked, slot⟩) :
    (read room).Ensures faults anyAccess buffer memory
      (fun result left after => Latest published lastSeen result.1 result.2 ∧
        left = buffer.taken published latest ∧ d.Shows after published latest ⟨acked, latest⟩)
      fun fault left after => (∃ reading, left = { buffer with reading }) ∧
        d.Carries after published acked ∧
        (faults ∧ fault = .error .medium ∨
          (∃ payload, published.getLast? = some payload ∧ room < payload.length) ∧
            fault = .error .bufferTooSmall) := by
  apply Action.Ensures.bind _ (tryRead_shows consuming shows)
  rintro ⟨moved, result⟩ left after ⟨shows, ⟨snapshot, rfl, found, rfl⟩ | ⟨allowed, rfl, rfl⟩⟩
  · exact ⟨found, rfl, shows⟩
  · exact ⟨⟨_, rfl⟩, ⟨_, _, shows⟩, .inl ⟨allowed, rfl⟩⟩

theorem read_ensures {room : Nat} (consuming : buffer.Consumes d lastSeen)
    (carries : d.Carries memory published acked) :
    (read room).Ensures faults anyAccess buffer memory
      (fun result left after => Latest published lastSeen result.1 result.2 ∧
        left.Consumes d (seenAfter (.ofCount published.length) lastSeen) ∧
        d.Carries after published acked)
      fun fault left after => left.Consumes d lastSeen ∧ d.Carries after published acked ∧
        (faults ∧ fault = .error .medium ∨
          (∃ payload, published.getLast? = some payload ∧ room < payload.length) ∧
            fault = .error .bufferTooSmall) := by
  obtain ⟨latest, slot, shows⟩ := carries
  apply (read_shows consuming shows).mono (fun _ granted => granted)
  · rintro result _ after ⟨found, rfl, shows⟩
    exact ⟨found, consuming.taken _ _, _, _, shows⟩
  · rintro fault _ after ⟨⟨reading, rfl⟩, refused⟩
    exact ⟨consuming.claimed, refused⟩

theorem hasFresh_ensures (consuming : buffer.Consumes d lastSeen)
    (carries : d.Carries memory published acked) :
    hasFresh.Ensures faults anyAccess buffer memory
      (fun fresh left after => fresh = (Sequence.ofCount published.length).isFresh lastSeen ∧
        left = buffer ∧ after = memory)
      fun fault left after => left = buffer ∧ after = memory ∧ faults ∧ fault = .error .medium := by
  obtain ⟨role, rfl, rfl⟩ := consuming
  obtain ⟨latest, slot, shows⟩ := carries
  apply requireRole_then role
  refine load_then trivial shows.producer ?_ fun allowed => ⟨rfl, rfl, allowed, rfl⟩
  simp only [ControlWord.ofWord_toWord]
  exact ⟨rfl, rfl, rfl⟩

theorem acknowledge_shows {seq : Sequence} {latest slot : UInt8}
    (consuming : buffer.Consumes d lastSeen)
    (shows : d.Shows memory published latest ⟨acked, slot⟩) :
    (acknowledge seq).Ensures faults anyAccess buffer memory
      (fun _ left after => left = buffer ∧
        d.Shows after published latest ⟨seq, buffer.reading⟩)
      fun fault left after => left = buffer ∧ after = memory ∧ faults ∧ fault = .error .medium := by
  obtain ⟨role, rfl, rfl⟩ := consuming
  apply requireRole_then role
  apply Action.get_then
  refine store_ensures trivial shows.laid.consumer (fun after stored same => ?_)
    fun allowed => ⟨rfl, rfl, allowed, rfl⟩
  exact ⟨rfl, shows.register stored same⟩

theorem acknowledge_ensures {seq : Sequence} (consuming : buffer.Consumes d lastSeen)
    (carries : d.Carries memory published acked) :
    (acknowledge seq).Ensures faults anyAccess buffer memory
      (fun _ left after => left = buffer ∧ d.Carries after published seq)
      fun fault left after => left = buffer ∧ after = memory ∧ faults ∧ fault = .error .medium := by
  obtain ⟨latest, slot, shows⟩ := carries
  apply (acknowledge_shows consuming shows).mono (fun _ granted => granted)
  · rintro _ left after ⟨same, shows⟩
    exact ⟨same, _, _, shows⟩
  · intro fault left after lost
    exact lost

/-- What the producing end asks is answered by the control words alone. -/
theorem acknowledged_looks (producing : buffer.Produces d)
    (carries : d.Carries memory published acked) :
    acknowledged.Ensures faults (LoadsFrom d.IsControl) buffer memory
      (fun answered left after => answered = (Sequence.ofCount published.length == acked) ∧
        left = buffer ∧ after = memory)
      fun fault left after => left = buffer ∧ after = memory ∧ faults ∧ fault = .error .medium := by
  obtain ⟨role, rfl⟩ := producing
  obtain ⟨latest, slot, shows⟩ := carries
  apply requireRole_then role
  refine load_then (.inl rfl) shows.producer ?_ fun allowed => ⟨rfl, rfl, allowed, rfl⟩
  refine load_then (.inr rfl) shows.consumer ?_ fun allowed => ⟨rfl, rfl, allowed, rfl⟩
  simp only [ControlWord.ofWord_toWord]
  exact ⟨rfl, rfl, rfl⟩

theorem acknowledged_ensures (producing : buffer.Produces d)
    (carries : d.Carries memory published acked) :
    acknowledged.Ensures faults anyAccess buffer memory
      (fun answered left after => answered = (Sequence.ofCount published.length == acked) ∧
        left = buffer ∧ after = memory)
      fun fault left after => left = buffer ∧ after = memory ∧ faults ∧ fault = .error .medium :=
  (acknowledged_looks producing carries).mono (fun _ _ => trivial) (fun _ _ _ answered => answered)
    fun _ _ _ lost => lost

end TripleBuffer

end NodeLink

import NodeLink.Proofs.Interference
import NodeLink.Proofs.TripleBuffer.Exchange
import NodeLink.TripleBuffer.Call

/-! A buffer while both ends work on it. The consumer holds a claim on the slot that it copies; the
producer fills neither that slot nor the latest one, and the consumer claims none but the latest. -/
namespace NodeLink

namespace Descriptor

/-- The producer works on a slot: it stores there, or publishes it. -/
def Fills (d : Descriptor) (slot : UInt8) : Words.Request → Prop
  | .load _ => False
  | .store address word => d.InSlot slot address ∨
    address = d.producerAddress ∧ (ControlWord.ofWord word).slot = slot

/-- The consumer works on a slot: it loads from there. -/
def Copies (d : Descriptor) (slot : UInt8) : Words.Request → Prop
  | .load address => d.InSlot slot address
  | .store _ _ => False

/-- The payload that an access publishes: the one that is written, with the producer's word. -/
def publishes (d : Descriptor) (call : TripleBuffer.Call) : Words.Request → List Bytes
  | .load _ => []
  | .store address _ =>
    if address = d.producerAddress then
      match call with
      | .write payload => [payload]
      | _ => []
    else []

end Descriptor

/-- What the ends of a buffer share, and the slot on which the consumer has a claim. -/
structure Shared (d : Descriptor) where
  memory : SharedMemory
  published : List Bytes
  latest : UInt8
  control : ControlWord
  claim : Option UInt8
  shows : d.Shows memory published latest control
  claimed : ∀ slot, claim = some slot → control.slot = slot

namespace Shared

variable {d : Descriptor} {call : TripleBuffer.Call} {before after : Shared d}

/-- What the producer may do in the meantime. -/
structure ByProducer (before after : Shared d) : Prop where
  published : before.published <+: after.published
  latest : after.published.length = before.published.length → after.latest = before.latest
  control : after.control = before.control
  claim : after.claim = before.claim
  kept : ∀ slot, before.claim = some slot → ∀ address, d.InSlot slot address →
    after.memory.load address = before.memory.load address

/-- What the consumer may do in the meantime. -/
structure ByConsumer (before after : Shared d) : Prop where
  published : after.published = before.published
  latest : after.latest = before.latest
  claim : after.claim = before.claim ∨ after.claim = none ∨ after.claim = some before.latest
  same : SharedMemory.SameOutside (· = d.consumerAddress) before.memory after.memory

theorem byProducer_interference : Interference (ByProducer (d := d)) where
  refl _ := ⟨List.prefix_refl _, fun _ => rfl, rfl, rfl, fun _ _ _ _ => rfl⟩
  trans {first second third} start rest := by
    refine ⟨start.published.trans rest.published, fun same => ?_, rest.control.trans start.control,
      rest.claim.trans start.claim, fun slot claim address inside => ?_⟩
    · have upto := start.published.length_le
      have further := rest.published.length_le
      exact (rest.latest (by omega)).trans (start.latest (by omega))
    · rw [← start.claim] at claim
      exact (rest.kept slot claim address inside).trans
        (start.kept slot (start.claim ▸ claim) address inside)

theorem byConsumer_interference : Interference (ByConsumer (d := d)) where
  refl _ := ⟨rfl, rfl, .inl rfl, .refl _ _⟩
  trans {first second third} start rest := by
    refine ⟨rest.published.trans start.published, rest.latest.trans start.latest, ?_,
      start.same.trans rest.same⟩
    rcases rest.claim with kept | gone | taken
    · exact kept ▸ start.claim
    · exact .inr (.inl gone)
    · exact .inr (.inr (start.latest ▸ taken))

/-- An access of the producer during a call, and what it leaves for the consumer to rely on. -/
structure ProducerAccess (d : Descriptor) (call : TripleBuffer.Call) (request : Words.Request)
    (before : Shared d) (answer : Words.Answer request) (after : Shared d) : Prop where
  made : (answer, after.memory) = SharedMemory.onWords request before.memory
  published : after.published = before.published ++ d.publishes call request
  apart : ∀ slot, d.Fills slot request → before.claim ≠ some slot
  relied : ByProducer before after

/-- An access of the consumer, and what it leaves for the producer to rely on. -/
structure ConsumerAccess (d : Descriptor) (request : Words.Request) (before : Shared d)
    (answer : Words.Answer request) (after : Shared d) : Prop where
  made : (answer, after.memory) = SharedMemory.onWords request before.memory
  claimed : ∀ slot, d.Copies slot request → before.claim = some slot
  relied : ByConsumer before after

/-- The producer may load any word. -/
theorem producer_load {address : Nat} {word : UInt32} (loaded : before.memory.load address = .ok word) :
    ProducerAccess d call (.load address) before (.ok word) before where
  made := by rw [← loaded]; rfl
  published := (List.append_nil _).symm
  apart _ fills := fills.elim
  relied := byProducer_interference.refl before

/-- A store into a slot that is neither the latest nor claimed. -/
def storeInSlot (before : Shared d) {slot : UInt8} {address : Nat} (word : UInt32)
    (inside : d.InSlot slot address) (apart : slot ≠ before.latest) : Shared d :=
  { before with
    memory := (before.memory.store address word).2
    shows := before.shows.fill apart ⟨fun _ => SharedMemory.mapped_store, fun _ outside =>
      SharedMemory.load_store_of_ne fun same => outside (same ▸ inside)⟩ }

theorem producer_storeInSlot {slot : UInt8} {address : Nat} {word : UInt32}
    {answer : Except Error Unit} (inside : d.InSlot slot address) (apart : slot ≠ before.latest)
    (free : before.claim ≠ some slot) (answered : answer = (before.memory.store address word).1) :
    ProducerAccess d call (.store address word) before answer
      (before.storeInSlot word inside apart) where
  made := by rw [answered]; rfl
  published := by
    simp only [Descriptor.publishes, if_neg (Descriptor.control_ne_of_inSlot inside).1,
      List.append_nil]
    rfl
  apart other fills claim := by
    rcases fills with here | ⟨there, _⟩
    · have same : other = slot := by
        by_contra distinct
        exact Descriptor.not_inSlot_of_ne distinct here inside
      exact free (same ▸ claim)
    · exact (Descriptor.control_ne_of_inSlot inside).1 there
  relied := by
    refine ⟨List.prefix_refl _, fun _ => rfl, rfl, rfl, fun other claim place here => ?_⟩
    apply SharedMemory.load_store_of_ne
    rintro rfl
    have same : other = slot := by
      by_contra distinct
      exact Descriptor.not_inSlot_of_ne distinct here inside
    exact free (same ▸ claim)

/-- The store that publishes a filled slot. -/
def publish (before : Shared d) {slot : UInt8} {payload : Bytes} (valid : slot.toNat < 3)
    (holds : d.Holds before.memory slot (.ofCount (before.published.length + 1)) payload) :
    Shared d :=
  { before with
    memory := (before.memory.store d.producerAddress
      (ControlWord.toWord ⟨.ofCount (before.published.length + 1), slot⟩)).2
    published := before.published ++ [payload]
    latest := slot
    shows := before.shows.publish valid holds
      (SharedMemory.load_store_self before.shows.laid.producer)
      ⟨fun _ => SharedMemory.mapped_store, fun _ => SharedMemory.load_store_of_ne⟩ }

theorem producer_publish {slot : UInt8} {payload : Bytes} (valid : slot.toNat < 3)
    (holds : d.Holds before.memory slot (.ofCount (before.published.length + 1)) payload)
    (free : before.claim ≠ some slot) :
    ProducerAccess d (.write payload) (.store d.producerAddress
      (ControlWord.toWord ⟨.ofCount (before.published.length + 1), slot⟩)) before (.ok ())
      (before.publish valid holds) where
  made := Prod.ext (SharedMemory.store_result_of_mapped before.shows.laid.producer).symm rfl
  published := by
    simp only [Descriptor.publishes, if_true]
    rfl
  apart other fills claim := by
    rcases fills with here | ⟨_, rfl⟩
    · exact (Descriptor.control_ne_of_inSlot here).1 rfl
    · rw [ControlWord.ofWord_toWord] at claim
      exact free claim
  relied := by
    refine ⟨List.prefix_append _ _, fun same => ?_, rfl, rfl, fun other _ place here => ?_⟩
    · simp only [publish, List.length_append, List.length_singleton] at same
      omega
    · exact SharedMemory.load_store_of_ne (Descriptor.control_ne_of_inSlot here).1

/-- The consumer may load any word outside the slots. -/
theorem consumer_load {address : Nat} {word : UInt32} (loaded : before.memory.load address = .ok word)
    (outside : ∀ slot, ¬ d.InSlot slot address) :
    ConsumerAccess d (.load address) before (.ok word) before where
  made := by rw [← loaded]; rfl
  claimed slot copies := (outside slot copies).elim
  relied := byConsumer_interference.refl before

/-- The consumer's word names another slot, and no claim is left. -/
def register (before : Shared d) (control : ControlWord) : Shared d :=
  { before with
    memory := (before.memory.store d.consumerAddress control.toWord).2
    control := control
    claim := none
    shows := before.shows.register (SharedMemory.load_store_self before.shows.laid.consumer)
      ⟨fun _ => SharedMemory.mapped_store, fun _ => SharedMemory.load_store_of_ne⟩
    claimed := nofun }

theorem consumer_register {control : ControlWord} :
    ConsumerAccess d (.store d.consumerAddress control.toWord) before (.ok ())
      (before.register control) where
  made := Prod.ext (SharedMemory.store_result_of_mapped before.shows.laid.consumer).symm rfl
  claimed _ copies := copies.elim
  relied := ⟨rfl, rfl, .inr (.inl rfl), fun _ => SharedMemory.mapped_store,
    fun _ => SharedMemory.load_store_of_ne⟩

/-- The consumer sees its slot named by the producer's word, and claims it. -/
def grant (before : Shared d) (named : before.control.slot = before.latest) : Shared d :=
  { before with
    claim := some before.latest
    claimed := fun _ same => named.trans (Option.some.inj same) }

theorem consumer_grant (named : before.control.slot = before.latest) :
    ConsumerAccess d (.load d.producerAddress) before
      (.ok (ControlWord.toWord ⟨.ofCount before.published.length, before.latest⟩))
      (before.grant named) where
  made := by rw [← before.shows.producer]; rfl
  claimed _ copies := ((Descriptor.control_ne_of_inSlot copies).1 rfl).elim
  relied := ⟨rfl, rfl, .inr (.inr rfl), .refl _ _⟩

end Shared

end NodeLink

import NodeLink.Proofs.Footprint
import NodeLink.Proofs.Surroundings
import NodeLink.Proofs.TripleBuffer.Exchange
import NodeLink.TripleBuffer.Call
import Mathlib.Logic.ExistsUnique

/-! Where the operations of an end store, whatever its words hold and whichever accesses fail. No store
leaves the buffer's region; a write fills one slot that neither control word names, and a consumer
stores to its own register alone. -/
namespace NodeLink

namespace Descriptor

variable {d : Descriptor} {slot : UInt8} {payload : Bytes} {address : Nat}

/-- The bytes of the region. -/
def InRegion (d : Descriptor) (address : Nat) : Prop :=
  d.base ≤ address ∧ address < d.base + d.regionSize

/-- A whole word lies among these bytes. -/
def Whole (bytes : Nat → Prop) (address : Nat) : Prop := ∀ offset < 4, bytes (address + offset)

/-- The parts of a region. -/
inductive Part where
  | control
  | slot (slot : UInt8) (valid : slot.toNat < Layout.slotCount)

def Part.Covers (d : Descriptor) : Part → Nat → Prop
  | .control, address => d.base ≤ address ∧ address < d.base + Layout.slotsOffset
  | .slot slot _, address => d.InSlot slot address

/-- The regions have no byte in common. -/
def Apart (d other : Descriptor) : Prop :=
  ∀ address, d.InRegion address → ¬ other.InRegion address

/-- The words of the region are as before. -/
def Untouched (d : Descriptor) (before after : SharedMemory) : Prop :=
  ∀ address, d.InRegion address → after.load address = before.load address

theorem regionSize_eq : d.regionSize = Layout.slotsOffset + 3 * Layout.slotStride d.size := rfl

theorem slotAddress_eq : d.slotAddress slot =
    d.base + Layout.slotsOffset + slot.toNat * Layout.slotStride d.size := rfl

/-- A slot ends within the region. -/
theorem slot_below (valid : slot.toNat < Layout.slotCount) :
    d.slotAddress slot + Layout.slotStride d.size ≤ d.base + d.regionSize := by
  have upto : (slot.toNat + 1) * Layout.slotStride d.size ≤ 3 * Layout.slotStride d.size :=
    Nat.mul_le_mul_right _ valid
  rw [Nat.succ_mul] at upto
  rw [slotAddress_eq, regionSize_eq]
  omega

theorem InSlot.inRegion (inside : d.InSlot slot address) (valid : slot.toNat < Layout.slotCount) :
    d.InRegion address := by
  have above := inside.above
  have below := inside.2
  have fits := d.slot_below valid
  exact ⟨by omega, by omega⟩

/-- The part that a byte of the region is in. -/
theorem exists_part (inside : d.InRegion address) : ∃ part : Part, part.Covers d address := by
  obtain ⟨above, below⟩ := inside
  by_cases control : address < d.base + Layout.slotsOffset
  · exact ⟨.control, above, control⟩
  · rw [regionSize_eq] at below
    have covers (slot : UInt8) (valid : slot.toNat < Layout.slotCount)
        (first : d.slotAddress slot ≤ address)
        (last : address < d.slotAddress slot + Layout.slotStride d.size) :
        ∃ part : Part, part.Covers d address := ⟨.slot slot valid, first, last⟩
    simp only [slotAddress_eq] at covers
    have zero := covers 0 (by decide)
    have one := covers 1 (by decide)
    have two := covers 2 (by decide)
    simp only [UInt8.reduceToNat] at zero one two
    by_cases first : address < d.base + Layout.slotsOffset + Layout.slotStride d.size
    · exact zero (by omega) (by omega)
    · by_cases second : address < d.base + Layout.slotsOffset + 2 * Layout.slotStride d.size
      · exact one (by omega) (by omega)
      · exact two (by omega) (by omega)

theorem Part.Covers.inRegion {part : Part} (covers : part.Covers d address) : d.InRegion address := by
  cases part with
  | control =>
    obtain ⟨above, below⟩ := covers
    refine ⟨above, ?_⟩
    rw [regionSize_eq]
    omega
  | slot slot valid => exact InSlot.inRegion covers valid

theorem Part.Covers.unique {part other : Part} (covers : part.Covers d address)
    (too : other.Covers d address) : part = other := by
  have apart {slot : UInt8} (control : address < d.base + Layout.slotsOffset)
      (inside : d.InSlot slot address) : False := Nat.not_lt.mpr inside.above control
  cases part with
  | control =>
    cases other with
    | control => rfl
    | slot slot valid => exact (apart covers.2 too).elim
  | slot slot valid =>
    cases other with
    | control => exact (apart too.2 covers).elim
    | slot another valid =>
      have same : slot = another := by
        by_contra distinct
        exact not_inSlot_of_ne distinct covers too
      subst same
      rfl

/-- The control block and the slots are disjoint and fill the region. -/
theorem inRegion_iff_part (d : Descriptor) (address : Nat) :
    d.InRegion address ↔ ∃! part : Part, part.Covers d address := by
  constructor
  · intro inside
    obtain ⟨part, covers⟩ := exists_part inside
    exact ⟨part, covers, fun other too => Part.Covers.unique too covers⟩
  · rintro ⟨part, covers, -⟩
    exact Part.Covers.inRegion covers

/-- The words that lie in the region. -/
theorem whole_control {offset : Nat} (inside : offset + 4 ≤ Layout.slotsOffset) :
    Whole d.InRegion (d.base + offset) := by
  intro byte low
  rw [InRegion, regionSize_eq]
  omega

theorem whole_begin : Whole (d.InSlot slot) (d.slotAddress slot + Layout.beginOffset) := by
  intro byte low
  simp only [InSlot, Layout.beginOffset, Layout.slotStride]
  omega

theorem whole_length : Whole (d.InSlot slot) (d.slotAddress slot + Layout.lengthOffset) := by
  intro byte low
  simp only [InSlot, Layout.lengthOffset, Layout.slotStride]
  omega

theorem whole_end : Whole (d.InSlot slot) (d.endAddress slot) := by
  intro byte low
  simp only [InSlot, endAddress, Layout.endOffset, Layout.dataOffset, Layout.slotStride]
  omega

theorem whole_data {index : Nat} (fits : payload.length ≤ d.size)
    (inside : index < payload.words.length) :
    Whole (d.InSlot slot) (d.slotAddress slot + Layout.dataOffset + 4 * index) := by
  intro byte low
  apply inSlot_data fits
  simp only [Within]
  omega

theorem Whole.mono {bytes wider : Nat → Prop} (whole : Whole bytes address)
    (implies : ∀ address, bytes address → wider address) : Whole wider address :=
  fun byte low => implies _ (whole byte low)

theorem Apart.symm {other : Descriptor} (apart : d.Apart other) : other.Apart d :=
  fun address inside beyond => apart address beyond inside

instance : Std.Symm Apart := ⟨fun _ _ => Apart.symm⟩

/-- A region that ends before another begins is apart from it. -/
theorem Apart.of_le {other : Descriptor} (below : d.base + d.regionSize ≤ other.base) :
    d.Apart other := fun _ inside beyond => by
  have above := Nat.lt_of_lt_of_le inside.2 below
  exact Nat.not_lt_of_le beyond.1 above

theorem Apart.whole {other : Descriptor} (apart : d.Apart other) (address : Nat)
    (whole : Whole d.InRegion address) : ¬ other.InRegion address :=
  apart address (whole 0 (by decide))

theorem producer_inRegion (d : Descriptor) : d.InRegion d.producerAddress := by
  refine ⟨Nat.le_add_right _ _, ?_⟩
  rw [producerAddress, regionSize_eq, Layout.producerOffset, Layout.slotsOffset]
  omega

theorem consumer_inRegion (d : Descriptor) : d.InRegion d.consumerAddress := by
  refine ⟨Nat.le_add_right _ _, ?_⟩
  rw [consumerAddress, regionSize_eq, Layout.consumerOffset, Layout.slotsOffset]
  omega

/-- Words that change elsewhere leave what the buffer shows. -/
theorem Shows.elsewhere {memory after : SharedMemory} {published : List Bytes} {latest : UInt8}
    {control : ControlWord} {bytes : Nat → Prop} (shows : d.Shows memory published latest control)
    (same : SharedMemory.SameOutside bytes memory after)
    (apart : ∀ address, bytes address → ¬ d.InRegion address) :
    d.Shows after published latest control where
  laid := shows.laid.congr same.1
  valid := shows.valid
  producer := (same.2 _ fun inside => apart _ inside
    (producer_inRegion d)).trans shows.producer
  consumer := (same.2 _ fun inside => apart _ inside
    (consumer_inRegion d)).trans shows.consumer
  holds payload last := (shows.holds payload last).congr fun address inside =>
    same.2 address fun changed => apart _ changed (InSlot.inRegion inside shows.valid)

theorem Carries.elsewhere {memory after : SharedMemory} {published : List Bytes} {acked : Sequence}
    {bytes : Nat → Prop} (carries : d.Carries memory published acked)
    (same : SharedMemory.SameOutside bytes memory after)
    (apart : ∀ address, bytes address → ¬ d.InRegion address) : d.Carries after published acked := by
  obtain ⟨latest, slot, shows⟩ := carries
  exact ⟨latest, slot, shows.elsewhere same apart⟩

end Descriptor

namespace TripleBuffer

variable {α β : Type} {d : Descriptor} {may allowed : Medium.Request → Prop}

/-- On every end of a region an operation asks for what it may, and leaves an end of it. -/
abbrev AsksOn (d : Descriptor) (may : Medium.Request → Prop) (operation : Operation α) : Prop :=
  operation.AsksFrom (·.region = d) may

end TripleBuffer

namespace Action.AsksFrom

open TripleBuffer (AsksOn Operation Reply)

variable {α : Type} {d : Descriptor} {may : Medium.Request → Prop} {operation : Operation α}
  {address : TripleBuffer → Nat}

theorem load (permitted : ∀ buffer : TripleBuffer, buffer.region = d → may (.load (address buffer))) :
    AsksOn d may (TripleBuffer.load address) :=
  fun buffer region => ⟨permitted buffer region, fun _ _ _ => region⟩

theorem store {word : UInt32}
    (permitted : ∀ buffer : TripleBuffer, buffer.region = d → may (.store (address buffer) word)) :
    AsksOn d may (TripleBuffer.store address word) :=
  fun buffer region => ⟨permitted buffer region, fun _ _ _ => region⟩

theorem storeBytes {bytes : Bytes} (permitted : ∀ buffer : TripleBuffer, buffer.region = d →
    may (.storeBytes (address buffer) bytes)) : AsksOn d may (TripleBuffer.storeBytes address bytes) :=
  fun buffer region => ⟨permitted buffer region, fun _ _ _ => region⟩

theorem loadBytes {size : Nat} (permitted : ∀ buffer : TripleBuffer, buffer.region = d →
    may (.loadBytes (address buffer) size)) :
    AsksOn d may (fun buffer => Action.ask (Medium.loadBytes (address buffer) size) buffer) :=
  fun buffer region => ⟨permitted buffer region, fun _ _ _ => region⟩

theorem requireRole (role : Role) : AsksOn d may (TripleBuffer.requireRole role) := fun _ region => region

theorem replyWith {reply : Except Fault α → Reply} (asks : AsksOn d may operation) :
    AsksOn d may (TripleBuffer.replyWith reply operation) :=
  (Action.AsksFrom.outcome asks).bind fun _ => .done _

/-- An end that is made for a region is one of it. -/
theorem prepare {operation : Operation Unit} {buffer : TripleBuffer} (asks : AsksOn d may operation)
    (region : buffer.region = d) : (TripleBuffer.prepare operation buffer).Asks may fun result =>
      ∀ left, result = .ok left → left.region = d := by
  refine Prog.Asks.bind _ (asks buffer region) ?_
  rintro ⟨fault | done, ended⟩ stays left made
  · contradiction
  · cases made
    exact stays

end Action.AsksFrom

namespace TripleBuffer

open Words.Request (StoresWithin)

variable {α : Type} {d : Descriptor} {may : Medium.Request → Prop} {slot : UInt8}
  {inside : Nat → Prop} {payload : Bytes}

/-- Nothing is stored. -/
def Nowhere : Nat → Prop := fun _ => False

theorem fillSlot_asks {seq : Sequence} (fits : payload.length ≤ d.size) :
    AsksOn d (Medium.Request.Wordwise (StoresIn (Descriptor.Whole (d.InSlot slot))))
      (fillSlot slot seq payload) := by
  refine Action.AsksFrom.bind (.store ?_) fun _ => .bind (.store ?_) fun _ => .bind (.storeBytes ?_) fun _ =>
    .store ?_
  · rintro buffer rfl
    exact Descriptor.whole_begin
  · rintro buffer rfl
    exact Descriptor.whole_length
  · rintro buffer rfl index short word
    exact Descriptor.whole_data fits short
  · rintro buffer rfl
    exact Descriptor.whole_end

theorem clearSlot_asks (valid : slot.toNat < Layout.slotCount) :
    AsksOn d (Medium.Request.Wordwise (StoresWithin (Descriptor.Whole d.InRegion)))
      (clearSlot slot) := by
  have inRegion {address : Nat} (whole : Descriptor.Whole (d.InSlot slot) address) :
      Descriptor.Whole d.InRegion address :=
    whole.mono fun _ inside => Descriptor.InSlot.inRegion inside valid
  refine Action.AsksFrom.bind (.store ?_) fun _ => .bind (.store ?_) fun _ => .store ?_
  · rintro buffer rfl
    exact inRegion Descriptor.whole_begin
  · rintro buffer rfl
    exact inRegion Descriptor.whole_length
  · rintro buffer rfl
    exact inRegion Descriptor.whole_end

theorem initialise_asks :
    AsksOn d (Medium.Request.Wordwise (StoresWithin (Descriptor.Whole d.InRegion))) initialise := by
  have control {offset : Nat} {word : UInt32} (inside : offset + 4 ≤ Layout.slotsOffset) :
      AsksOn d (Medium.Request.Wordwise (StoresWithin (Descriptor.Whole d.InRegion)))
        (store (·.base + offset) word) :=
    .store (by rintro buffer rfl; exact Descriptor.whole_control inside)
  refine Action.AsksFrom.bind (control (by decide)) fun _ => .bind (control (by decide)) fun _ =>
    .bind (control (by decide)) fun _ => .bind (control (by decide)) fun _ =>
    .bind (clearSlot_asks (by decide)) fun _ => .bind (clearSlot_asks (by decide)) fun _ =>
    .bind (clearSlot_asks (by decide)) fun _ => .get_then fun _ _ => control (by decide)

theorem claim_asks {acknowledged : Sequence} (attempts : Nat) (word : UInt32) :
    AsksOn d (Medium.Request.Wordwise (StoresWithin (· = d.consumerAddress)))
      (claim acknowledged attempts word) := by
  induction attempts generalizing word with
  | zero => exact .fail _
  | succ attempts ih =>
    refine Action.AsksFrom.bind (.modify fun _ region => region) fun _ => .bind (.store ?_) fun _ =>
      .bind (.load fun _ _ => trivial) fun again => ?_
    · rintro buffer rfl
      rfl
    · exact .ite (.done _) (ih again)

theorem claimLatest_asks :
    AsksOn d (Medium.Request.Wordwise (StoresWithin (· = d.consumerAddress))) claimLatest :=
  Action.AsksFrom.bind (.load fun _ _ => trivial) fun _ => .bind (.load fun _ _ => trivial) fun word =>
    claim_asks _ word

theorem observe_asks (seq : Sequence) (size : Nat) : AsksOn d may (observe seq size) :=
  .get_then fun _ _ =>
    .ite (.bind (.modify fun _ region => region) fun _ => .done _) (.bind (.done _) fun _ => .done _)

theorem copySlot_asks (claimed : ControlWord) (room : Nat) :
    AsksOn d Medium.Request.Loads (copySlot claimed room) := by
  refine Action.AsksFrom.bind (.load fun _ _ => trivial) fun last => .bind (.load fun _ _ => trivial)
    fun size => .get_then fun buffer _ => .ite (.fail _) (.ite (.fail _) ?_)
  refine .bind (.loadBytes fun _ _ => trivial) fun ⟨moved, failure⟩ => .bind (.outcome ?_) fun _ =>
    .done _
  cases failure with
  | some error => exact .fail_then _
  | none =>
    change AsksOn d _ (load _ >>= _)
    exact .bind (.load fun _ _ => trivial) fun first => .ite (.fail_then _) (observe_asks _ _)

/-- A read stores nothing but the register; a copy alone loads bytes in bulk. -/
theorem tryRead_asks (room : Nat) :
    AsksOn d (fun request => request.Wordwise (StoresWithin (· = d.consumerAddress)) ∨ request.Loads)
      (tryRead room) := by
  refine Action.AsksFrom.bind (.requireRole _) fun _ =>
    .bind (claimLatest_asks.mono fun _ => .inl) fun claimed => .ite (.done _) ?_
  exact (copySlot_asks claimed room).mono fun _ => .inr

theorem acknowledge_asks (seq : Sequence) :
    AsksOn d (Medium.Request.Wordwise (StoresWithin (· = d.consumerAddress))) (acknowledge seq) := by
  refine Action.AsksFrom.bind (.requireRole _) fun _ => .get_then fun _ _ => .store ?_
  rintro buffer rfl
  rfl

theorem hasFresh_asks : AsksOn d (Medium.Request.Wordwise (StoresWithin Nowhere)) hasFresh :=
  Action.AsksFrom.bind (.requireRole _) fun _ => .bind (.load fun _ _ => trivial) fun _ =>
    .get_then fun _ _ => .done _

theorem acknowledged_asks :
    AsksOn d (Medium.Request.Wordwise (StoresWithin Nowhere)) acknowledged :=
  Action.AsksFrom.bind (.requireRole _) fun _ => .bind (.load fun _ _ => trivial) fun _ =>
    .bind (.load fun _ _ => trivial) fun _ => .done _

/-- A write fills a slot and publishes it with its word. -/
theorem publish_asks {seq : Sequence} (fits : payload.length ≤ d.size) :
    AsksOn d (Medium.Request.Wordwise (StoresIn fun address =>
        address = d.producerAddress ∨ Descriptor.Whole (d.InSlot slot) address))
      (do fillSlot slot seq payload; storeProducer ⟨seq, slot⟩; return seq) := by
  refine Action.AsksFrom.bind ((fillSlot_asks fits).mono fun request wordwise => wordwise.mono ?_) fun _ =>
    .bind (.store ?_) fun _ => .done _
  · rintro (address | ⟨address, word⟩) permitted
    · exact permitted
    · exact .inr permitted
  · rintro buffer rfl
    exact .inl rfl

theorem write_asks (payload : Bytes) :
    AsksOn d (Medium.Request.Wordwise (StoresWithin (Descriptor.Whole d.InRegion)))
      (write payload) := by
  refine Action.AsksFrom.bind (.requireRole _) fun _ => .get_then ?_
  rintro buffer rfl
  by_cases large : buffer.slotSize < payload.length
  · rw [if_pos large]
    exact .fail _
  rw [if_neg large]
  refine .bind (.load fun _ _ => trivial) fun latest => .bind (.load fun _ _ => trivial) fun claimed => ?_
  refine (publish_asks (Nat.not_lt.mp large)).mono fun request wordwise => wordwise.mono ?_
  rintro (address | ⟨address, word⟩) permitted
  · exact permitted.elim
  rcases permitted with rfl | inSlot
  · exact Descriptor.whole_control (by decide)
  · exact inSlot.mono fun _ inside => Descriptor.InSlot.inRegion inside (freeSlot_spec _ _).1

/-- The accesses of a write: loads alone, or both control words and then stores that publish a slot
which neither word names. -/
inductive Fills (d : Descriptor) : List Words.Access → Prop
  | nothing {log : List Words.Access}
    (stores : ∀ access ∈ log, access.request.StoresWithin Nowhere) : Fills d log
  | slot {log : List Words.Access} (latest claimed : UInt32) (slot : UInt8)
    (valid : slot.toNat < Layout.slotCount)
    (old : slot ≠ (ControlWord.ofWord latest).slot)
    (unclaimed : slot ≠ (ControlWord.ofWord claimed).slot)
    (stores : ∀ access ∈ log, StoresIn (fun address =>
      address = d.producerAddress ∨ Descriptor.Whole (d.InSlot slot) address) access.request) :
    Fills d (⟨.load d.producerAddress, .ok latest⟩ :: ⟨.load d.consumerAddress, .ok claimed⟩ :: log)

theorem accesses_load_then {ω : Type} {buffer : TripleBuffer} {address : TripleBuffer → Nat}
    {next : UInt32 → Operation α} (handler : Handler Words ω) (state : ω) :
    ((load address >>= next) buffer).inWords.accesses handler state =
      ⟨.load (address buffer), (handler (.load (address buffer)) state).1⟩ ::
        match handler (.load (address buffer)) state with
        | (.ok word, after) => (next word buffer).inWords.accesses handler after
        | (.error _, _) => [] := by
  change ⟨.load (address buffer), (handler (.load (address buffer)) state).1⟩ ::
    Prog.accesses handler _ (handler (.load (address buffer)) state).2 = _
  rcases handler (.load (address buffer)) state with ⟨error | word, after⟩ <;> rfl

theorem write_fills {ω : Type} {buffer : TripleBuffer} (handler : Handler Words ω) (state : ω)
    (payload : Bytes) :
    Fills buffer.region ((write payload buffer).inWords.accesses handler state) := by
  unfold write
  by_cases right : buffer.role = .producer
  · rw [requireRole_of_eq right]
    change Fills _ (Prog.accesses handler
      ((if buffer.slotSize < payload.length then _ else _ : Operation Sequence) buffer).inWords state)
    by_cases large : buffer.slotSize < payload.length
    · rw [if_pos large]
      exact .nothing nofun
    rw [if_neg large, loadProducer, accesses_load_then]
    rcases handler _ state with ⟨error | latest, second⟩
    · exact .nothing (by simp [Words.Request.StoresWithin])
    change Fills _ (_ :: ((loadConsumer >>= _) buffer).inWords.accesses handler second)
    rw [loadConsumer, accesses_load_then]
    rcases handler _ second with ⟨error | claimed, third⟩
    · exact .nothing (by simp [Words.Request.StoresWithin])
    obtain ⟨valid, old, unclaimed⟩ :=
      freeSlot_spec (ControlWord.ofWord latest).slot (ControlWord.ofWord claimed).slot
    refine .slot latest claimed _ valid old unclaimed ?_
    have fits : payload.length ≤ buffer.region.size := Nat.not_lt.mp large
    apply Prog.Asks.accesses
    exact (publish_asks fits buffer rfl).inWords fun _ wordwise => wordwise.inWords
  · rw [requireRole_of_ne right]
    exact .nothing nofun

/-- The stores of a run lie in the region. -/
def Confined (d : Descriptor) (log : List Words.Access) : Prop :=
  ∀ access ∈ log, access.request.StoresWithin (Descriptor.Whole d.InRegion)

/-- Where a call stores in its buffer's region. -/
def Call.Footprint (d : Descriptor) (log : List Words.Access) : Call → Prop
  | .write _ => Fills d log
  | .read _ | .acknowledge _ => ∀ access ∈ log, access.request.StoresWithin (· = d.consumerAddress)
  | .hasFresh | .acknowledged => ∀ access ∈ log, access.request.StoresWithin Nowhere

/-- Loads, and requests whose stores are to words of the region. -/
def Inside (d : Descriptor) (request : Medium.Request) : Prop :=
  request.Wordwise (StoresWithin (Descriptor.Whole d.InRegion)) ∨ request.Loads

theorem Inside.inWords {request : Medium.Request} (inside : Inside d request) :
    (Prog.request (S := Medium) request).inWords.Asks (StoresWithin (Descriptor.Whole d.InRegion))
      fun _ => True :=
  inside.elim (fun wordwise => wordwise.inWords) fun loads => loads.inWords fun _ => trivial

theorem storesWithin_inRegion {bytes : Nat → Prop} {access : Words.Request}
    (stores : access.StoresWithin bytes)
    (inside : ∀ address, bytes address → Descriptor.Whole d.InRegion address) :
    access.StoresWithin (Descriptor.Whole d.InRegion) := by
  cases access with
  | load address => trivial
  | store address word => exact inside address stores

theorem whole_register (address : Nat) (register : address = d.consumerAddress) :
    Descriptor.Whole d.InRegion address :=
  register ▸ Descriptor.whole_control (by decide)

/-- The words outside the region are as before. -/
abbrev Elsewhere (d : Descriptor) : SharedMemory → SharedMemory → Prop :=
  SharedMemory.SameOutside (Descriptor.Whole d.InRegion)

theorem tryRead_inside (room : Nat) : AsksOn d (Inside d) (tryRead room) :=
  (tryRead_asks room).mono fun _ => .imp_left fun wordwise =>
    wordwise.mono fun _ stores => storesWithin_inRegion stores whole_register

theorem read_inside (room : Nat) : AsksOn d (Inside d) (read room) :=
  .bind (tryRead_inside room) fun _ => .bind (fun _ region => region) fun _ => .done _

theorem write_inside (payload : Bytes) : AsksOn d (Inside d) (write payload) :=
  (write_asks payload).mono fun _ => .inl

theorem create_asks (role : Role) (d : Descriptor) :
    (create role d).Asks (Inside d) fun result => ∀ left, result = .ok left → left.region = d :=
  Action.AsksFrom.prepare (.bind (.ofExcept _) fun _ => initialise_asks.mono fun _ => .inl) rfl

theorem perform_asks (call : Call) : AsksOn d (Inside d) call.perform := by
  cases call with
  | write payload => exact ((write_asks payload).mono fun _ => .inl).replyWith
  | read room =>
    exact Action.AsksFrom.replyWith (tryRead_inside room)
  | hasFresh =>
    exact Action.AsksFrom.replyWith (hasFresh_asks.mono fun _ wordwise => .inl <|
      wordwise.mono fun _ stores => storesWithin_inRegion stores nofun)
  | acknowledge seq =>
    exact Action.AsksFrom.replyWith ((acknowledge_asks seq).mono fun _ wordwise => .inl <|
      wordwise.mono fun _ stores => storesWithin_inRegion stores whole_register)
  | acknowledged =>
    exact Action.AsksFrom.replyWith (acknowledged_asks.mono fun _ wordwise => .inl <|
      wordwise.mono fun _ stores => storesWithin_inRegion stores nofun)

theorem performEach_asks {operations : List (Operation Reply)}
    (asks : ∀ operation ∈ operations, AsksOn d (Inside d) operation) :
    AsksOn d (Inside d) (performEach operations) := by
  induction operations with
  | nil => exact .done _
  | cons operation rest ih =>
    obtain ⟨first, others⟩ := List.forall_mem_cons.mp asks
    exact first.bind fun _ => (ih others).bind fun _ => .done _

theorem performAll_asks (calls : List Call) : AsksOn d (Inside d) (performAll calls) :=
  performEach_asks (List.forall_mem_map.mpr fun call _ => perform_asks call)

theorem accesses_replyWith {ω : Type} {operation : Operation α} {reply : Except Fault α → Reply}
    {buffer : TripleBuffer} (handler : Handler Words ω) (state : ω) :
    (replyWith reply operation buffer).inWords.accesses handler state =
      (operation buffer).inWords.accesses handler state := by
  change (((operation buffer).bind _).bind _).inWords.accesses handler state = _
  rw [Prog.bind_assoc, Prog.inWords_bind, Prog.accesses_bind]
  exact List.append_nil _

theorem perform_footprint {ω : Type} {buffer : TripleBuffer} (handler : Handler Words ω) (state : ω)
    (region : buffer.region = d) (call : Call) :
    call.Footprint d ((call.perform buffer).inWords.accesses handler state) := by
  have stores {bytes : Nat → Prop} (asks : AsksOn d
      (fun request => request.Wordwise (StoresWithin bytes) ∨ request.Loads) call.perform) :
      ∀ access ∈ (call.perform buffer).inWords.accesses handler state,
        access.request.StoresWithin bytes := by
    refine ((asks buffer region).inWords fun request asked => ?_).accesses handler state
    exact asked.elim (fun wordwise => wordwise.inWords) fun loads => loads.inWords fun _ => trivial
  cases call with
  | write payload =>
    subst region
    change Fills _ ((replyWith _ _ _).inWords.accesses _ _)
    rw [accesses_replyWith]
    exact write_fills handler state payload
  | read room => exact stores (Action.AsksFrom.replyWith (tryRead_asks room))
  | hasFresh => exact stores (Action.AsksFrom.replyWith (hasFresh_asks.mono fun _ => .inl))
  | acknowledge seq => exact stores (Action.AsksFrom.replyWith ((acknowledge_asks seq).mono fun _ => .inl))
  | acknowledged => exact stores (Action.AsksFrom.replyWith (acknowledged_asks.mono fun _ => .inl))

/-- Words outside the region are not stored to. -/
theorem untouched_of_asks {program : Prog Medium α} {post : α → Prop} {other : Descriptor}
    (asks : program.Asks (Inside d) post) (apart : d.Apart other) (surroundings : Surroundings)
    (memory : SharedMemory) (count : Nat) :
    other.Untouched memory (program.inWords.run surroundings.onWords (memory, count)).2.1 := by
  have keeps : program.inWords.Ensures (SharedMemory.Answers surroundings.Faulty) _ memory _ :=
    (asks.inWords fun _ inside => inside.inWords).sameOutside
  have same := keeps.run surroundings.onWords Prod.fst surroundings.onWords_listed (memory, count)
  exact fun address inside => same.2.2 address fun whole => apart.whole address whole inside

/-- Whatever words the ends find and whichever accesses fail: no store leaves the buffer's region, a
write stores to its own word and to one slot that neither control word names, a consumer stores to its
register alone. The control block and the slots make up the region, so buffers in disjoint regions do
not change each other's words. -/
theorem stores_confined (d : Descriptor) :
    (∀ {ω : Type} (handler : Handler Words ω) (state : ω),
      (∀ role, Confined d ((create role d).inWords.accesses handler state)) ∧
      ∀ (buffer : TripleBuffer) (call : Call), buffer.region = d →
        Confined d ((call.perform buffer).inWords.accesses handler state) ∧
        call.Footprint d ((call.perform buffer).inWords.accesses handler state)) ∧
    (∀ address, d.InRegion address ↔ ∃! part : Descriptor.Part, part.Covers d address) ∧
    ∀ other : Descriptor, d.Apart other → ∀ (surroundings : Surroundings) (memory : SharedMemory)
      (count : Nat),
      (∀ role, other.Untouched memory
        ((create role d).inWords.run surroundings.onWords (memory, count)).2.1) ∧
      ∀ (buffer : TripleBuffer) (calls : List Call), buffer.region = d → other.Untouched memory
        ((performAll calls buffer).inWords.run surroundings.onWords (memory, count)).2.1 := by
  refine ⟨fun handler state => ⟨fun role => ?_, fun buffer call region => ⟨?_, ?_⟩⟩,
    Descriptor.inRegion_iff_part d, fun other apart surroundings memory count =>
      ⟨fun role => ?_, fun buffer calls region => ?_⟩⟩
  · exact ((create_asks role d).inWords fun _ inside => inside.inWords).accesses handler state
  · exact ((perform_asks call buffer region).inWords fun _ inside => inside.inWords).accesses
      handler state
  · exact perform_footprint handler state region call
  · exact untouched_of_asks (create_asks role d) apart surroundings memory count
  · exact untouched_of_asks (performAll_asks calls buffer region) apart surroundings memory count

/-- A write to a buffer whose control words name slots 255 and 1, next to another buffer. -/
theorem stores_confined_corrupt :
    let d : Descriptor := ⟨.status, 4096, 5⟩
    let neighbour : Descriptor := ⟨.logbook, 4096 + d.regionSize, 5⟩
    let memory : SharedMemory := ⟨4096, #[5, 0xFFFFFFFF, 0x100] ++ Array.replicate 35 7⟩
    let write : Call := .write [1, 2, 3, 4, 5]
    let buffer := new .producer d 0
    let log := (write.perform buffer).inWords.accesses SharedMemory.onWords memory
    write.Footprint d log ∧ log.length = 8 ∧
      neighbour.Untouched memory ((performAll [write, write] buffer).inWords.run
        (Surroundings.mk (· == 9) fun _ => Surroundings.plainAnswer).onWords (memory, 0)).2.1 := by
  intro d neighbour memory write buffer log
  have apart : d.Apart neighbour := .of_le (Nat.le_refl _)
  obtain ⟨confined, -, frame⟩ := stores_confined d
  refine ⟨((confined SharedMemory.onWords memory).2 buffer write rfl).2, by decide +kernel, ?_⟩
  exact (frame neighbour apart _ memory 0).2 buffer [write, write] rfl

end TripleBuffer

end NodeLink

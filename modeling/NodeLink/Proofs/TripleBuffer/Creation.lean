import NodeLink.Proofs.TripleBuffer.Connection
import NodeLink.Proofs.TripleBuffer.Footprint

/-! When buffers are made. On mapped memory without failing accesses, a create succeeds exactly for a
sound descriptor and leaves the slot size as the region's first word; that word is all that an attach
asks for besides. -/
namespace NodeLink

namespace Descriptor

variable {d : Descriptor} {memory after : SharedMemory} {address : Nat}

/-- The region is mapped. -/
def Spanned (d : Descriptor) (memory : SharedMemory) : Prop :=
  ∀ address, address % 4 = 0 → d.InRegion address → memory.Mapped address

/-- The region names its slot size. -/
def Labelled (d : Descriptor) (memory : SharedMemory) : Prop :=
  memory.load (d.base + Layout.slotSizeOffset) = .ok (UInt32.ofNat d.size)

/-- What every end of a buffer asks of its descriptor. -/
structure Sound (d : Descriptor) : Prop where
  aligned : d.base % 4 = 0
  positive : 0 < d.size
  small : d.size ≤ 65535

theorem spanned_of_within (above : memory.base ≤ d.base)
    (below : d.base + d.regionSize ≤ memory.base + 4 * memory.words.size) : d.Spanned memory := by
  intro address aligned inside
  obtain ⟨low, high⟩ := inside
  exact ⟨aligned, by omega, by omega⟩

theorem Spanned.congr (spanned : d.Spanned memory)
    (same : ∀ address, after.Mapped address ↔ memory.Mapped address) : d.Spanned after :=
  fun address aligned inside => (same address).mpr (spanned address aligned inside)

theorem Sound.laid (sound : d.Sound) (spanned : d.Spanned memory) : d.Laid memory where
  aligned := sound.aligned
  small := sound.small
  mapped address aligned above below := spanned address aligned ⟨above, below⟩

/-- A control word of a laid region is mapped. -/
theorem Laid.mapped_control (laid : d.Laid memory) {offset : Nat} (whole : offset % 4 = 0)
    (control : offset < Layout.slotsOffset) : memory.Mapped (d.base + offset) := by
  have aligned := laid.aligned
  apply laid.mapped
  · omega
  · exact Nat.le_add_right _ _
  · rw [regionSize_eq]
    omega

theorem Labelled.elsewhere {other : Descriptor} (labelled : other.Labelled memory)
    (same : TripleBuffer.Elsewhere d memory after) (apart : d.Apart other) : other.Labelled after := by
  have inside : other.InRegion (other.base + Layout.slotSizeOffset) := by
    constructor
    · exact Nat.le_add_right _ _
    · rw [regionSize_eq, Layout.slotSizeOffset, Layout.slotsOffset]
      omega
  have untouched : ¬ Whole d.InRegion (other.base + Layout.slotSizeOffset) :=
    fun whole => apart.whole _ whole inside
  exact (same.2 _ untouched).trans labelled

end Descriptor

namespace TripleBuffer

variable {buffer : TripleBuffer} {memory : SharedMemory} {d : Descriptor} {slot : UInt8}
  {role : Role} {word : UInt32}

theorem checkDescriptor_eq_ok : checkDescriptor d = .ok () ↔ d.Sound := by
  unfold checkDescriptor
  constructor
  · intro passed
    split at passed
    · contradiction
    · split at passed
      · contradiction
      · constructor <;> omega
  · rintro ⟨aligned, positive, small⟩
    rw [if_neg (not_not.mpr aligned), if_neg (by omega)]

/-- A store to a mapped word, where no access fails. -/
theorem store_made {α : Type} {address : TripleBuffer → Nat}
    {next : Unit → Operation α} {ok : α → TripleBuffer → SharedMemory → Prop}
    (laid : buffer.region.Laid memory) (mapped : memory.Mapped (address buffer))
    (rest : ∀ after, buffer.region.Laid after →
      (next ()).Ensures False anyAccess buffer after ok fun _ _ _ => False) :
    (store address word >>= next).Ensures False anyAccess buffer memory ok fun _ _ _ => False := by
  apply store_then trivial mapped
  · intro after _ same
    exact rest after (laid.congr same.1)
  · exact False.elim

theorem clearSlot_made (laid : buffer.region.Laid memory) (valid : slot.toNat < Layout.slotCount) :
    (clearSlot slot).Ensures False anyAccess buffer memory
      (fun _ left after => left = buffer ∧ buffer.region.Laid after) fun _ _ _ => False := by
  have whole : buffer.region.slotAddress slot % 4 = 0 := Descriptor.slotAddress_aligned laid
  have lengthWhole : (buffer.region.slotAddress slot + Layout.lengthOffset) % 4 = 0 := by
    simp only [Layout.lengthOffset]
    omega
  have endWhole : buffer.region.endAddress slot % 4 = 0 := by
    simp only [Descriptor.endAddress, Layout.endOffset, Layout.dataOffset, Bytes.padded]
    omega
  unfold clearSlot
  apply store_made laid (laid.mapped_slot valid Descriptor.inSlot_begin whole)
  intro begun laid
  apply store_made laid (laid.mapped_slot valid Descriptor.inSlot_length lengthWhole)
  intro sized laid
  apply store_ensures trivial (laid.mapped_slot valid Descriptor.inSlot_end endWhole)
  · intro ended _ same
    exact ⟨rfl, laid.congr same.1⟩
  · exact False.elim

theorem initialise_made (laid : buffer.region.Laid memory) :
    initialise.Ensures False anyAccess buffer memory
      (fun _ left after => left = buffer ∧ buffer.region.Labelled after) fun _ _ _ => False := by
  unfold initialise
  apply store_made laid (laid.mapped_control rfl (by decide))
  intro closed laid
  apply store_made laid (laid.mapped_control rfl (by decide))
  intro named laid
  apply store_made laid (laid.mapped_control rfl (by decide))
  intro shown laid
  apply store_made laid (laid.mapped_control rfl (by decide))
  intro flagged laid
  apply Action.Ensures.bind _ (clearSlot_made laid (by decide))
  rintro _ _ _ ⟨rfl, laid⟩
  apply Action.Ensures.bind _ (clearSlot_made laid (by decide))
  rintro _ _ _ ⟨rfl, laid⟩
  apply Action.Ensures.bind _ (clearSlot_made laid (by decide))
  rintro _ left _ ⟨rfl, laid⟩
  apply Action.get_then
  apply store_ensures trivial (laid.mapped_control rfl (by decide))
  · intro after stored _
    exact ⟨rfl, stored⟩
  · exact False.elim

/-- An end was prepared, or its operation failed. -/
theorem prepare_ends {faults : Prop} {operation : Operation Unit}
    {ok : TripleBuffer → SharedMemory → Prop} {failed : SharedMemory → Prop}
    (holds : operation.Ensures faults anyAccess buffer memory (fun _ => ok) fun _ _ => failed) :
    (prepare operation buffer).inWords.Ensures (SharedMemory.Answers faults) anyAccess memory
      fun result after => (∃ own, result = .ok own ∧ ok own after) ∨
        (∃ fault, result = .error fault) ∧ failed after := by
  change ((operation buffer).bind _).inWords.Ensures _ _ _ _
  rw [Prog.inWords_bind]
  refine (Prog.ensures_bind _ _ _).mpr (Prog.Ensures.mono holds (fun _ granted => granted) ?_)
  rintro ⟨fault | done, left⟩ after ended
  · exact .inr ⟨⟨fault, rfl⟩, ended⟩
  · exact .inl ⟨left, rfl, ended⟩

/-- A buffer is made for a sound descriptor, and for no other. -/
theorem create_made (spanned : d.Spanned memory) :
    (create role d).inWords.Ensures (SharedMemory.Answers False) anyAccess memory
      fun result after =>
        (∃ own, result = .ok own ∧ d.Sound ∧ own = new role d 0 ∧ d.Labelled after) ∨
          (∃ fault, result = .error fault) ∧ ¬ d.Sound := by
  apply prepare_ends
  apply Action.ofExcept_then
  · intro _ passed
    have sound := checkDescriptor_eq_ok.mp passed
    have laid : (new role d 0).region.Laid memory := sound.laid spanned
    apply (initialise_made laid).mono (fun _ granted => granted)
    · rintro _ left after ⟨rfl, labelled⟩
      exact ⟨sound, rfl, labelled⟩
    · exact fun _ _ _ => False.elim
  · intro error refused sound
    rw [checkDescriptor_eq_ok.mpr sound] at refused
    contradiction

theorem checkLayout_made (found : memory.load (buffer.base + Layout.slotSizeOffset) = .ok word)
    (named : word.toNat = buffer.slotSize) (positive : 0 < buffer.slotSize) :
    checkLayout.Ensures False anyAccess buffer memory
      (fun _ left after => left = buffer ∧ after = memory) fun _ _ _ => False := by
  apply load_then trivial found
  · apply Action.get_then
    rw [if_neg (by omega), if_neg (not_not.mpr named)]
    exact ⟨rfl, rfl⟩
  · exact False.elim

/-- An attach succeeds only for a sound descriptor, and always where its region names its slot size. -/
theorem attach_made :
    (attach role d 0).inWords.Ensures (SharedMemory.Answers False) anyAccess memory
      fun result after =>
        (∃ own, result = .ok own ∧ after = memory ∧ d.Sound ∧ own = new role d 0) ∨
          (∃ fault, result = .error fault) ∧ ¬ (d.Sound ∧ d.Labelled memory) := by
  by_cases labelled : d.Labelled memory
  · apply prepare_ends
    apply Action.ofExcept_then
    · intro _ passed
      have sound := checkDescriptor_eq_ok.mp passed
      have named : (UInt32.ofNat d.size).toNat = d.size :=
        UInt32.toNat_ofNat_of_lt' (Nat.lt_of_le_of_lt sound.small (by decide))
      have checked : checkLayout.Ensures False anyAccess (new role d 0) memory _ _ :=
        checkLayout_made labelled named sound.positive
      apply checked.mono (fun _ granted => granted)
      · rintro _ left after ⟨rfl, rfl⟩
        exact ⟨rfl, sound, rfl⟩
      · exact fun _ _ _ => False.elim
    · rintro error refused ⟨sound, -⟩
      rw [checkDescriptor_eq_ok.mpr sound] at refused
      contradiction
  · have misfit : ¬ (d.Sound ∧ d.Labelled memory) := fun both => labelled both.2
    apply prepare_ends
    apply Action.ofExcept_then
    · intro _ passed
      have sound := checkDescriptor_eq_ok.mp passed
      apply load_anywhere_then trivial
      · intro found
        apply Action.get_then
        split
        · exact misfit
        · split
          · exact misfit
          · exact ⟨rfl, sound, rfl⟩
      · exact misfit
    · exact fun _ _ => misfit

end TripleBuffer

end NodeLink

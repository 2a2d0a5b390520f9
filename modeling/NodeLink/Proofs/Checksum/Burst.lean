import NodeLink.Proofs.Checksum

/-! Bursts. A checksum takes its bytes bit by bit, the most significant one first. Until as many bits
have come as the register is wide, the register tells them all apart: they could have been added to it at
once, and the shifts lose nothing. So a burst that is no longer than the register leaves different
registers, and equal bits behind it keep them apart. -/
namespace NodeLink

namespace Bytes

def bitsOf (byte : UInt8) : List Bool := (List.range 8).map byte.toBitVec.getMsbD

/-- The bits of a byte string, from the most significant one of the first byte on. -/
def bits (bytes : Bytes) : List Bool := bytes.flatMap bitsOf

/-- All bits that differ lie within so many consecutive ones. -/
def DifferWithin (count : Nat) (first second : Bytes) : Prop :=
  ∃ start, ∀ index, first.bits[index]? ≠ second.bits[index]? → start ≤ index ∧ index < start + count

variable {first second : Bytes} {count : Nat}

@[simp] theorem length_bitsOf (byte : UInt8) : (bitsOf byte).length = 8 := rfl

theorem bits_cons (byte : UInt8) (rest : Bytes) : bits (byte :: rest) = bitsOf byte ++ rest.bits :=
  List.flatMap_cons

theorem getElem?_bitsOf (byte : UInt8) (index : Nat) :
    (bitsOf byte)[index]?.getD false = byte.toBitVec.getMsbD index := by
  by_cases inside : index < 8
  · simp [bitsOf, inside]
  · simp [bitsOf, inside, BitVec.getMsbD_of_ge _ _ (Nat.not_lt.mp inside)]

theorem bitsOf_injective : Function.Injective bitsOf := by
  intro byte other same
  apply UInt8.toBitVec_inj.mp
  apply BitVec.eq_of_getMsbD_eq
  intro index _
  rw [← getElem?_bitsOf, ← getElem?_bitsOf, same]

theorem length_bits (bytes : Bytes) : bytes.bits.length = 8 * bytes.length := by
  induction bytes with
  | nil => rfl
  | cons byte rest ih =>
    rw [bits_cons, List.length_append, length_bitsOf, ih, List.length_cons]
    omega

theorem bits_injective : Function.Injective bits := by
  intro first
  induction first with
  | nil =>
    intro second same
    have length := congrArg List.length same
    rw [length_bits, length_bits, List.length_nil] at length
    exact (List.length_eq_zero_iff.mp (by omega)).symm
  | cons byte rest ih =>
    intro second same
    cases second with
    | nil => contradiction
    | cons other more =>
      rw [bits_cons, bits_cons] at same
      obtain ⟨here, behind⟩ := List.append_inj same rfl
      rw [bitsOf_injective here, ih behind]

/-- Around the bits that may differ, the strings have the same bits. -/
theorem differWithin_iff : DifferWithin count first second ↔ ∃ start,
    first.bits.take start = second.bits.take start ∧
      first.bits.drop (start + count) = second.bits.drop (start + count) := by
  constructor
  · rintro ⟨start, inside⟩
    have outside {index : Nat} (apart : index < start ∨ start + count ≤ index) :
        first.bits[index]? = second.bits[index]? := by
      apply Decidable.byContradiction
      intro differ
      have := inside index differ
      omega
    refine ⟨start, List.ext_getElem? fun index => ?_, List.ext_getElem? fun index => ?_⟩
    · rw [List.getElem?_take, List.getElem?_take]
      split
      · rename_i before
        exact outside (.inl before)
      · rfl
    · rw [List.getElem?_drop, List.getElem?_drop]
      exact outside (.inr (Nat.le_add_right _ _))
  · rintro ⟨start, front, back⟩
    refine ⟨start, fun index differ => ⟨?_, ?_⟩⟩
    · apply Nat.not_lt.mp
      intro before
      have same := congrArg (·[index]?) front
      simp only [List.getElem?_take, if_pos before] at same
      exact differ same
    · apply Nat.not_le.mp
      intro behind
      have same := congrArg (·[index - (start + count)]?) back
      simp only [List.getElem?_drop, Nat.add_sub_cancel' behind] at same
      exact differ same

theorem bits_split (bytes : Bytes) (start count : Nat) : bytes.bits =
    bytes.bits.take start ++ ((bytes.bits.drop start).take count ++ bytes.bits.drop (start + count)) := by
  rw [← List.drop_drop, List.take_append_drop, List.take_append_drop]

end Bytes

namespace Checksum

variable {width : Nat} {polynomial register other : BitVec width}

/-- A bit at the high end of a register. -/
def top (bit : Bool) : BitVec width := if bit then BitVec.twoPow width (width - 1) else 0

def feedBit (polynomial register : BitVec width) (bit : Bool) : BitVec width :=
  shift polynomial (register ^^^ top bit)

/-- Bits from the high end of a register on. -/
def pack : List Bool → BitVec width
  | [] => 0
  | bit :: rest => top bit ^^^ pack rest >>> 1

theorem getMsbD_top (bit : Bool) {index : Nat} (inside : index < width) :
    (top bit : BitVec width).getMsbD index = (decide (index = 0) && bit) := by
  cases bit with
  | false => simp [top]
  | true =>
    have room : width - 1 - index < width := by omega
    have same : width - 1 - index = width - 1 ↔ index = 0 := by omega
    simp [top, BitVec.getMsbD_eq_getLsbD, inside, room, same]

theorem getMsbD_pack (bits : List Bool) {index : Nat} (inside : index < width) :
    (pack bits : BitVec width).getMsbD index = bits[index]?.getD false := by
  induction bits generalizing index with
  | nil => simp [pack]
  | cons bit rest ih =>
    rw [pack, BitVec.getMsbD_xor, getMsbD_top bit inside, BitVec.getMsbD_ushiftRight]
    cases index with
    | zero => simp
    | succ index => simp [inside, ih (Nat.lt_of_succ_lt inside)]

/-- A register as wide as the bits tells them apart. -/
theorem pack_inj {left right : List Bool} (length : left.length = right.length)
    (fits : left.length ≤ width) (same : (pack left : BitVec width) = pack right) : left = right := by
  apply List.ext_getElem length
  intro index inside inside'
  have bit := congrArg (fun word : BitVec width => word.getMsbD index) same
  simpa only [getMsbD_pack _ (Nat.lt_of_lt_of_le inside fits), List.getElem?_eq_getElem inside,
    List.getElem?_eq_getElem inside', Option.getD_some] using bit

theorem place_eq_pack (wide : 8 ≤ width) (byte : UInt8) :
    (place byte : BitVec width) = pack (Bytes.bitsOf byte) := by
  apply BitVec.eq_of_getMsbD_eq
  intro index inside
  rw [getMsbD_pack _ inside, Bytes.getElem?_bitsOf]
  have room : width - 1 - index < width := by omega
  by_cases low : index < 8
  · have high : ¬ width - 1 - index < width - 8 := by omega
    have place : width - 1 - index - (width - 8) = 7 - index := by omega
    simp [BitVec.getMsbD_eq_getLsbD, Checksum.place, inside, low, room, high, place]
  · have high : width - 1 - index < width - 8 := by omega
    simp [BitVec.getMsbD_eq_getLsbD, Checksum.place, inside, low, high]

/-- A shift of what comes later only moves it up. -/
theorem shift_xor (later : BitVec width) (low : later.getLsbD 0 = false) :
    shift polynomial (register ^^^ later >>> 1) = shift polynomial register ^^^ later := by
  have high : (register ^^^ later >>> 1).msb = register.msb := by
    simp [BitVec.msb_xor, BitVec.msb_ushiftRight]
  have back : later >>> 1 <<< 1 = later := by
    apply BitVec.eq_of_getLsbD_eq
    intro index inside
    cases index with
    | zero => simp [low]
    | succ index => simp [inside, Nat.add_comm]
  unfold shift
  rw [high, BitVec.shiftLeft_xor_distrib, back]
  split
  · ac_rfl
  · rfl

theorem repeat_succ_inner {α : Type} (change : α → α) (count : Nat) (value : α) :
    Nat.repeat change (count + 1) value = Nat.repeat change count (change value) := by
  induction count with
  | zero => rfl
  | succ count ih => exact congrArg change ih

/-- Bits that a register has room for may be added to it at once. -/
theorem foldl_feedBit (bits : List Bool) (fits : bits.length ≤ width) :
    bits.foldl (feedBit polynomial) register =
      Nat.repeat (shift polynomial) bits.length (register ^^^ pack bits) := by
  induction bits generalizing register with
  | nil => simp [pack, Nat.repeat]
  | cons bit rest ih =>
    rw [List.length_cons] at fits
    have low : (pack rest : BitVec width).getLsbD 0 = false := by
      have last : width - 1 < width := by omega
      have bit := getMsbD_pack rest last
      rw [List.getElem?_eq_none (Nat.le_sub_one_of_lt fits)] at bit
      simpa [BitVec.getMsbD_eq_getLsbD, last] using bit
    rw [List.foldl_cons, ih (Nat.le_of_succ_le fits), List.length_cons, repeat_succ_inner, pack,
      ← BitVec.xor_assoc, shift_xor _ low]
    rfl

theorem feed_eq (wide : 8 ≤ width) (byte : UInt8) :
    feed polynomial register byte = (Bytes.bitsOf byte).foldl (feedBit polynomial) register := by
  rw [foldl_feedBit _ wide, Bytes.length_bitsOf, ← place_eq_pack wide, feed]

/-- Feeding bytes is feeding their bits. -/
theorem foldl_feed (wide : 8 ≤ width) (bytes : Bytes) :
    bytes.foldl (feed polynomial) register = bytes.bits.foldl (feedBit polynomial) register := by
  induction bytes generalizing register with
  | nil => rfl
  | cons byte rest ih =>
    rw [List.foldl_cons, ih, feed_eq wide, Bytes.bits_cons, List.foldl_append]

theorem foldl_feedBit_injective (odd : polynomial.getLsbD 0 = true) (bits : List Bool) :
    Function.Injective (bits.foldl (feedBit polynomial)) := by
  induction bits with
  | nil => exact Function.injective_id
  | cons bit rest ih =>
    intro register other same
    exact (BitVec.xor_left_inj _).mp (shift_injective odd (ih same))

/-- A register tells apart as many bits as it is wide. -/
theorem foldl_feedBit_inj (odd : polynomial.getLsbD 0 = true) {left right : List Bool}
    (length : left.length = right.length) (fits : left.length ≤ width)
    (same : left.foldl (feedBit polynomial) register = right.foldl (feedBit polynomial) register) :
    left = right := by
  rw [foldl_feedBit left fits, foldl_feedBit right (length ▸ fits), length] at same
  exact pack_inj length fits ((BitVec.xor_right_inj _).mp (repeat_shift_injective odd _ same))

/-- No burst that is as short as the register goes unnoticed. -/
theorem foldl_feed_ne_of_burst (odd : polynomial.getLsbD 0 = true) (wide : 8 ≤ width)
    {first second : Bytes} (length : first.length = second.length) (other : first ≠ second)
    (burst : first.DifferWithin width second) :
    first.foldl (feed polynomial) register ≠ second.foldl (feed polynomial) register := by
  obtain ⟨start, front, back⟩ := Bytes.differWithin_iff.mp burst
  have long : ((first.bits.drop start).take width).length = ((second.bits.drop start).take width).length := by
    simp only [List.length_take, List.length_drop, Bytes.length_bits, length]
  intro same
  rw [foldl_feed wide, foldl_feed wide, first.bits_split start width, second.bits_split start width, front,
    back] at same
  simp only [List.foldl_append] at same
  have windows := foldl_feedBit_inj odd long (List.length_take_le _ _) (foldl_feedBit_injective odd _ same)
  apply other
  apply Bytes.bits_injective
  rw [first.bits_split start width, second.bits_split start width, front, back, windows]

/-- Bursts of up to eight bits change the short checksum, and bursts of up to sixteen the long one. -/
theorem bursts_detected {first second : Bytes} (length : first.length = second.length)
    (other : first ≠ second) :
    (first.DifferWithin 8 second → ∀ seed, crc8 seed first ≠ crc8 seed second) ∧
      (first.DifferWithin 16 second → ∀ seed, crc16 seed first ≠ crc16 seed second) := by
  constructor
  · intro burst seed same
    have registers := congrArg UInt8.toBitVec same
    rw [crc8_toBitVec, crc8_toBitVec] at registers
    exact foldl_feed_ne_of_burst (by decide) (by decide) length other burst registers
  · intro burst seed same
    have registers := congrArg UInt16.toBitVec same
    rw [crc16_toBitVec, crc16_toBitVec] at registers
    exact foldl_feed_ne_of_burst (by decide) (by decide) length other burst registers

/-- A burst over the end of a byte, and a longer one over two ends. -/
theorem bursts_detected_over_bytes :
    (Bytes.DifferWithin 8 [0x12, 0x34, 0x56] [0x17, 0x9C, 0x56] ∧
        ∀ seed, crc8 seed [0x12, 0x34, 0x56] ≠ crc8 seed [0x17, 0x9C, 0x56]) ∧
      Bytes.DifferWithin 16 [0x12, 0x34, 0x56] [0x03, 0x2F, 0x76] ∧
        ∀ seed, crc16 seed [0x12, 0x34, 0x56] ≠ crc16 seed [0x03, 0x2F, 0x76] := by
  have short : Bytes.DifferWithin 8 [0x12, 0x34, 0x56] [0x17, 0x9C, 0x56] :=
    Bytes.differWithin_iff.mpr ⟨5, by decide, by decide⟩
  have long : Bytes.DifferWithin 16 [0x12, 0x34, 0x56] [0x03, 0x2F, 0x76] :=
    Bytes.differWithin_iff.mpr ⟨3, by decide, by decide⟩
  constructor
  · refine ⟨short, (bursts_detected ?_ ?_).1 short⟩ <;> decide
  · refine ⟨long, (bursts_detected ?_ ?_).2 long⟩ <;> decide

/-- A burst of nine bits may be the polynomial itself. -/
example : crc8 0 [0x01, 0x2F] = crc8 0 [0x00, 0x00] := by decide +kernel

end Checksum

end NodeLink

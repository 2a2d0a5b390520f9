import NodeLink.Checksum

/-! What checksums tell apart. A shift of the register loses nothing, since the polynomials are odd; so
bytes that follow keep different registers apart, and byte strings that differ in one place have
different checksums. -/
namespace NodeLink

namespace Bytes

/-- In how many places two byte strings differ. -/
def differences (first second : Bytes) : Nat :=
  (first.zip second).countP fun (left, right) => left != right

variable {first second front back : Bytes} {left right : UInt8}

@[simp] theorem differences_cons :
    differences (left :: first) (right :: second) =
      differences first second + if left = right then 0 else 1 := by
  simp only [differences, List.zip_cons_cons, List.countP_cons, bne_iff_ne, ne_eq, ite_not]

theorem differences_append (length : first.length = second.length) :
    differences (first ++ front) (second ++ back) =
      differences first second + differences front back := by
  rw [differences, List.zip_append length, List.countP_append]
  rfl

theorem eq_of_differences (length : first.length = second.length)
    (none : differences first second = 0) : first = second := by
  induction first generalizing second with
  | nil => exact (List.length_eq_zero_iff.mp length.symm).symm
  | cons left first ih =>
    cases second with
    | nil => contradiction
    | cons right second =>
      rw [differences_cons] at none
      obtain ⟨none, same⟩ := Nat.add_eq_zero_iff.mp none
      rw [ih (Nat.succ.inj length) none]
      congr 1
      exact Classical.byContradiction fun other => by
        rw [if_neg other] at same
        contradiction

theorem differences_self (bytes : Bytes) : differences bytes bytes = 0 := by
  induction bytes with
  | nil => rfl
  | cons byte rest ih => simp only [differences_cons, ih, if_true]

theorem differences_pos (length : first.length = second.length) (other : first ≠ second) :
    0 < differences first second :=
  Nat.pos_of_ne_zero fun none => other (eq_of_differences length none)

theorem differences_set_le (bytes : Bytes) (index : Nat) (byte : UInt8) :
    differences bytes (bytes.set index byte) ≤ 1 := by
  induction bytes generalizing index with
  | nil => exact Nat.zero_le _
  | cons first rest ih =>
    cases index with
    | zero =>
      rw [List.set_cons_zero, differences_cons, differences_self]
      split <;> decide
    | succ index =>
      rw [List.set_cons_succ, differences_cons, if_pos rfl]
      exact ih index

end Bytes

namespace Checksum

variable {width : Nat} {polynomial register other : BitVec width}

/-- A shift of a register: the bit that leaves it adds the polynomial. -/
def shift (polynomial register : BitVec width) : BitVec width :=
  if register.msb then register <<< 1 ^^^ polynomial else register <<< 1

/-- A byte at the high end of a register. -/
def place (byte : UInt8) : BitVec width := byte.toBitVec.setWidth width <<< (width - 8)

def feed (polynomial register : BitVec width) (byte : UInt8) : BitVec width :=
  Nat.repeat (shift polynomial) 8 (register ^^^ place byte)

theorem shift_low (odd : polynomial.getLsbD 0 = true) :
    (shift polynomial register).getLsbD 0 = register.msb := by
  unfold shift
  cases register.msb <;>
    simp only [if_true, Bool.false_eq_true, if_false, BitVec.getLsbD_xor, BitVec.getLsbD_shiftLeft, odd,
      Nat.lt_one_iff, decide_true, Bool.not_true, Bool.and_false, Bool.false_and, Bool.false_xor]

/-- The low bit tells which bit left the register. -/
theorem shift_injective (odd : polynomial.getLsbD 0 = true) :
    Function.Injective (shift polynomial) := by
  intro register other same
  have high : register.msb = other.msb := by
    rw [← shift_low odd, same, shift_low odd]
  have rest : register <<< 1 = other <<< 1 := by
    unfold shift at same
    rw [high] at same
    split at same
    · exact (BitVec.xor_left_inj _).mp same
    · exact same
  apply BitVec.eq_of_getLsbD_eq
  intro index inside
  rcases Nat.lt_or_eq_of_le (Nat.le_sub_one_of_lt inside) with below | rfl
  · have bit := congrArg (fun word : BitVec width => word.getLsbD (index + 1)) rest
    have room : index + 1 < width := by omega
    simpa only [BitVec.getLsbD_shiftLeft, room, decide_true, Bool.true_and, Nat.add_sub_cancel,
      Nat.not_lt.mpr (Nat.le_add_left 1 index), decide_false, Bool.not_false] using bit
  · rwa [BitVec.msb_eq_getLsbD_last, BitVec.msb_eq_getLsbD_last] at high

theorem place_injective (wide : 8 ≤ width) :
    Function.Injective (place : UInt8 → BitVec width) := by
  intro byte other same
  apply UInt8.toBitVec_inj.mp
  apply BitVec.eq_of_getLsbD_eq
  intro index inside
  have bit := congrArg (fun word : BitVec width => word.getLsbD (index + (width - 8))) same
  have room : index + (width - 8) < width := by omega
  have low : index < width := by omega
  simpa only [place, BitVec.getLsbD_shiftLeft, BitVec.getLsbD_setWidth, room, low, decide_true,
    Bool.true_and, Nat.add_sub_cancel, Nat.not_lt.mpr (Nat.le_add_left _ _), decide_false,
    Bool.not_false] using bit

theorem repeat_shift_injective (odd : polynomial.getLsbD 0 = true) (count : Nat) :
    Function.Injective (Nat.repeat (shift polynomial) count) := by
  induction count with
  | zero => exact Function.injective_id
  | succ count ih => exact (shift_injective odd).comp ih

theorem feed_injective (odd : polynomial.getLsbD 0 = true) (byte : UInt8) :
    Function.Injective (feed polynomial · byte) := by
  intro register other same
  exact (BitVec.xor_left_inj _).mp (repeat_shift_injective odd 8 same)

theorem feed_byte_injective (odd : polynomial.getLsbD 0 = true) (wide : 8 ≤ width)
    (register : BitVec width) : Function.Injective (feed polynomial register) := by
  intro byte other same
  exact place_injective wide ((BitVec.xor_right_inj _).mp (repeat_shift_injective odd 8 same))

theorem foldl_feed_injective (odd : polynomial.getLsbD 0 = true) (bytes : Bytes) :
    Function.Injective (bytes.foldl (feed polynomial)) := by
  induction bytes with
  | nil => exact Function.injective_id
  | cons byte rest ih => exact ih.comp (feed_injective odd byte)

/-- Byte strings that differ in one place leave different registers. -/
theorem foldl_feed_ne (odd : polynomial.getLsbD 0 = true) (wide : 8 ≤ width) {first second : Bytes}
    (length : first.length = second.length) (one : first.differences second = 1)
    (register : BitVec width) :
    first.foldl (feed polynomial) register ≠ second.foldl (feed polynomial) register := by
  induction first generalizing second register with
  | nil => contradiction
  | cons left first ih =>
    cases second with
    | nil => contradiction
    | cons right second =>
      have rest : first.length = second.length := Nat.succ.inj length
      rw [Bytes.differences_cons] at one
      -- The registers part at the place that differs, and the equal bytes behind it keep them apart.
      by_cases same : left = right
      · subst same
        exact ih rest (by rwa [if_pos rfl] at one) _
      · rw [if_neg same] at one
        obtain rfl := Bytes.eq_of_differences rest (Nat.succ.inj one)
        intro equal
        exact same (feed_byte_injective odd wide register (foldl_feed_injective odd first equal))

/-- The high bit is told by its mask. -/
theorem shift_eq (positive : 0 < width) : shift polynomial register =
    if register &&& BitVec.twoPow width (width - 1) = 0 then register <<< 1
    else register <<< 1 ^^^ polynomial := by
  rw [shift, BitVec.and_twoPow, BitVec.msb_eq_getLsbD_last]
  cases register.getLsbD (width - 1) with
  | false => rfl
  | true =>
    have set : BitVec.twoPow width (width - 1) ≠ 0 := by
      intro zero
      have bit := congrArg (fun word : BitVec width => word.getLsbD (width - 1)) zero
      have inside : width - 1 < width := Nat.sub_lt positive Nat.one_pos
      simp [inside] at bit
    rw [if_pos rfl, if_pos rfl, if_neg set]

theorem shift8_toBitVec (register : UInt8) :
    (shift8 register).toBitVec = shift polynomial8.toBitVec register.toBitVec := by
  rw [shift_eq (by decide), shift8, apply_ite UInt8.toBitVec]
  exact ite_congr (propext UInt8.toBitVec_inj.symm) (fun _ => rfl) fun _ => rfl

theorem shift16_toBitVec (register : UInt16) :
    (shift16 register).toBitVec = shift polynomial16.toBitVec register.toBitVec := by
  rw [shift_eq (by decide), shift16, apply_ite UInt16.toBitVec]
  exact ite_congr (propext UInt16.toBitVec_inj.symm) (fun _ => rfl) fun _ => rfl

/-- What repeats one function repeats the other. -/
theorem repeat_hom {α β : Type} {view : α → β} {first : α → α} {second : β → β}
    (same : ∀ value, view (first value) = second (view value)) (count : Nat) (value : α) :
    view (Nat.repeat first count value) = Nat.repeat second count (view value) := by
  induction count with
  | zero => rfl
  | succ count ih => simp only [Nat.repeat, same, ih]

theorem crc8_toBitVec (seed : UInt8) (bytes : Bytes) :
    (crc8 seed bytes).toBitVec = bytes.foldl (feed polynomial8.toBitVec) seed.toBitVec := by
  refine (List.foldl_hom UInt8.toBitVec fun register byte => ?_).symm
  rw [repeat_hom shift8_toBitVec, UInt8.toBitVec_xor, feed, place]
  simp

theorem crc16_toBitVec (seed : UInt16) (bytes : Bytes) :
    (crc16 seed bytes).toBitVec = bytes.foldl (feed polynomial16.toBitVec) seed.toBitVec := by
  refine (List.foldl_hom UInt16.toBitVec fun register byte => ?_).symm
  rw [repeat_hom shift16_toBitVec, UInt16.toBitVec_xor, feed, place]
  simp

theorem crc8_injective (bytes : Bytes) : Function.Injective (crc8 · bytes) := by
  intro seed other same
  have registers := congrArg UInt8.toBitVec same
  simp only [crc8_toBitVec] at registers
  exact UInt8.toBitVec_inj.mp (foldl_feed_injective (by decide) bytes registers)

variable {first second : Bytes}

theorem crc8_ne (length : first.length = second.length) (one : first.differences second = 1)
    (seed : UInt8) : crc8 seed first ≠ crc8 seed second := by
  intro same
  have registers := congrArg UInt8.toBitVec same
  rw [crc8_toBitVec, crc8_toBitVec] at registers
  exact foldl_feed_ne (by decide) (by decide) length one _ registers

theorem crc16_ne (length : first.length = second.length) (one : first.differences second = 1)
    (seed : UInt16) : crc16 seed first ≠ crc16 seed second := by
  intro same
  have registers := congrArg UInt16.toBitVec same
  rw [crc16_toBitVec, crc16_toBitVec] at registers
  exact foldl_feed_ne (by decide) (by decide) length one _ registers

end Checksum

end NodeLink

/-! Byte strings and their little-endian numbers. A number of `n` bytes is the sum of its bytes
weighted by powers of 256, so reading back what was written gives the number modulo `range n`. -/

namespace NodeLink

abbrev Bytes := List UInt8

namespace Bytes

/-- The `width` low bytes of a number, least significant first. -/
def ofNat : (width : Nat) → Nat → Bytes
  | 0, _ => []
  | width + 1, value => UInt8.ofNat value :: ofNat width (value / 256)

/-- The number whose bytes these are, least significant first. -/
def toNat : Bytes → Nat
  | [] => 0
  | byte :: rest => byte.toNat + 256 * toNat rest

/-- How many numbers so many bytes can tell apart. -/
def range : (width : Nat) → Nat
  | 0 => 1
  | width + 1 => 256 * range width

/-- The word in at most four bytes; missing high bytes are zero. -/
def toWord (bytes : Bytes) : UInt32 := UInt32.ofNat bytes.toNat

def ofWord (word : UInt32) : Bytes := ofNat 4 word.toNat

/-- Words that hold `size` bytes. -/
def wordCount (size : Nat) : Nat := (size + 3) / 4

/-- Bytes in the words that hold `size` bytes. -/
def padded (size : Nat) : Nat := 4 * wordCount size

/-- The words that hold these bytes, the last one padded with zeros. -/
def words : Bytes → List UInt32
  | [] => []
  | a :: b :: c :: d :: rest => toWord [a, b, c, d] :: words rest
  | last => [toWord last]

/-- The `size` bytes that start at `offset`. -/
def slice (bytes : Bytes) (offset size : Nat) : Bytes := (bytes.drop offset).take size

/-- Replace the bytes from `offset` on by `patch`, as far as there are bytes to replace. -/
def overlay (bytes : Bytes) (offset : Nat) (patch : Bytes) : Bytes :=
  (bytes.take offset ++ patch ++ bytes.drop (offset + patch.length)).take bytes.length

def zeros (size : Nat) : Bytes := List.replicate size 0

@[simp] theorem length_ofNat (width value : Nat) : (ofNat width value).length = width := by
  induction width generalizing value with
  | zero => rfl
  | succ width ih => simp only [ofNat, List.length_cons, ih]

theorem toNat_lt (bytes : Bytes) : bytes.toNat < range bytes.length := by
  induction bytes with
  | nil => decide
  | cons byte rest ih =>
    have small := byte.toNat_lt
    simp only [toNat, List.length_cons, range]
    omega

theorem toNat_ofNat (width value : Nat) : (ofNat width value).toNat = value % range width := by
  induction width generalizing value with
  | zero => simp only [ofNat, toNat, range, Nat.mod_one]
  | succ width ih =>
    simp only [ofNat, toNat, ih, UInt8.toNat_ofNat', range]
    change value % 256 + _ = _
    rw [Nat.mod_mul]

theorem toNat_ofNat_of_lt {width value : Nat} (fits : value < range width) :
    (ofNat width value).toNat = value := by rw [toNat_ofNat, Nat.mod_eq_of_lt fits]

theorem ofNat_toNat (bytes : Bytes) : ofNat bytes.length bytes.toNat = bytes := by
  induction bytes with
  | nil => rfl
  | cons byte rest ih =>
    have small := byte.toNat_lt
    have head : UInt8.ofNat (byte.toNat + 256 * toNat rest) = byte := by
      apply UInt8.toNat_inj.mp
      rw [UInt8.toNat_ofNat']
      omega
    have tail : (byte.toNat + 256 * toNat rest) / 256 = toNat rest := by omega
    simp only [List.length_cons, toNat, ofNat, head, tail, ih]

@[simp] theorem length_ofWord (word : UInt32) : (ofWord word).length = 4 := length_ofNat 4 _

theorem toWord_ofWord (word : UInt32) : toWord (ofWord word) = word := by
  apply UInt32.toNat_inj.mp
  have small := word.toNat_lt
  simp only [toWord, ofWord, toNat_ofNat, UInt32.toNat_ofNat', range]
  omega

theorem ofWord_toWord (bytes : Bytes) (four : bytes.length = 4) : ofWord bytes.toWord = bytes := by
  have bound := toNat_lt bytes
  rw [four] at bound
  simp only [range] at bound
  have exact : bytes.toWord.toNat = bytes.toNat := by
    simp only [toWord, UInt32.toNat_ofNat']
    omega
  rw [ofWord, exact, ← four, ofNat_toNat]

theorem length_slice (bytes : Bytes) (offset size : Nat) :
    (bytes.slice offset size).length = min size (bytes.length - offset) := by
  simp only [slice, List.length_take, List.length_drop]

@[simp] theorem length_overlay (bytes : Bytes) (offset : Nat) (patch : Bytes) :
    (bytes.overlay offset patch).length = bytes.length := by
  simp only [overlay, List.length_append, List.length_take, List.length_drop]
  omega

end Bytes

end NodeLink

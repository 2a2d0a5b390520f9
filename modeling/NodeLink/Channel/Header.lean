import NodeLink.Bytes
import NodeLink.Error

/-! Headers of channel messages: six bytes in front of the payload. The channel number, retry flag and
format say what the message is; the sequence number says which one it is, so that a message written
again is known. -/

namespace NodeLink.Channel

def headerSize : Nat := 6

def maxPayload : Nat := 534

/-- The longest message any channel carries. -/
def maxMessage : Nat := headerSize + maxPayload

/-- Message numbers run 1, 2, 3, 1, …; 0 is no number. -/
abbrev MessageNumber := Fin 4

namespace MessageNumber

/-- The number of no message. -/
def none : MessageNumber := 0

def first : MessageNumber := 1

/-- The two low bits count. -/
def ofByte (byte : UInt8) : MessageNumber := ⟨byte.toNat % 4, Nat.mod_lt _ (by decide)⟩

def next (number : MessageNumber) : MessageNumber := if number = 3 then 1 else number + 1

theorem next_ne_zero (number : MessageNumber) : number.next ≠ 0 := by
  revert number
  decide

end MessageNumber

/-- What safety frames a message carries. -/
inductive Format where
  | processData
  | serviceData
  deriving DecidableEq, Repr

namespace Format

def toByte : Format → UInt8
  | processData => 1
  | serviceData => 2

def ofByte (byte : UInt8) : Except Error Format :=
  if byte = 1 then .ok processData else if byte = 2 then .ok serviceData else .error .malformed

theorem ofByte_toByte (format : Format) : ofByte format.toByte = .ok format := by
  cases format <;> rfl

end Format

structure Header where
  number : MessageNumber
  retry : Bool
  format : UInt8
  channel : UInt8
  size : UInt16
  deriving DecidableEq, Repr

namespace Header

/-- The retry flag is the first byte's high bit. -/
def toBytes (header : Header) : Bytes :=
  UInt8.ofNat (header.number.val + (if header.retry then 128 else 0)) :: header.format :: header.channel ::
    0 :: Bytes.ofNat 2 header.size.toNat

/-- Put a header at the front of a space of `room` bytes. -/
def encode (header : Header) (room : Nat) : Except Error Bytes :=
  if room < headerSize then .error .bufferTooSmall else .ok header.toBytes

/-- Read a header, and check that the payload is there. -/
def decode : Bytes → Except Error Header
  | flags :: format :: channel :: _ :: low :: high :: payload =>
    let header : Header := {
      number := .ofByte flags
      retry := 128 ≤ flags
      format := format
      channel := channel
      size := UInt16.ofNat (Bytes.toNat [low, high])
    }
    if header.number = 0 ∨ payload.length < header.size.toNat then .error .malformed
    else .ok header
  | _ => .error .malformed

@[simp] theorem length_toBytes (header : Header) : header.toBytes.length = headerSize := by
  simp only [toBytes, List.length_cons, Bytes.length_ofNat, headerSize]

theorem toBytes_eq (header : Header) : ∃ flags low high,
    header.toBytes = [flags, header.format, header.channel, 0, low, high] ∧
      flags.toNat = header.number.val + (if header.retry then 128 else 0) ∧
      Bytes.toNat [low, high] = header.size.toNat := by
  refine ⟨_, _, _, rfl, ?_, ?_⟩
  · have small := header.number.isLt
    rw [UInt8.toNat_ofNat']
    split <;> omega
  · change (Bytes.ofNat 2 header.size.toNat).toNat = header.size.toNat
    exact Bytes.toNat_ofNat_of_lt header.size.toNat_lt

/-- A header is read back from in front of its payload. -/
theorem decode_toBytes (header : Header) (payload : Bytes) (valid : header.number ≠ 0)
    (whole : header.size.toNat ≤ payload.length) :
    decode (header.toBytes ++ payload) = .ok header := by
  obtain ⟨flags, low, high, bytes, flagged, sized⟩ := header.toBytes_eq
  have small := header.number.isLt
  have number : MessageNumber.ofByte flags = header.number := by
    apply Fin.ext
    change flags.toNat % 4 = header.number.val
    rw [flagged]
    split <;> omega
  have retry : decide (128 ≤ flags) = header.retry := by
    apply Bool.eq_iff_iff.mpr
    rw [decide_eq_true_iff, UInt8.le_iff_toNat_le, flagged]
    change 128 ≤ _ ↔ _
    split
    · rename_i set
      rw [set]
      exact ⟨fun _ => rfl, fun _ => Nat.le_add_left 128 _⟩
    · rename_i clear
      exact ⟨fun large => by omega, fun set => absurd set clear⟩
  have size : UInt16.ofNat (Bytes.toNat [low, high]) = header.size := by
    rw [sized]
    exact UInt16.ofNat_toNat
  rw [bytes]
  simp only [List.cons_append, List.nil_append, decode, number, retry, size, valid, false_or]
  rw [if_neg (Nat.not_lt.mpr whole)]

end Header

/-- A message as the receiver found it. -/
structure Message where
  header : Header
  /-- The number of the write, for its acknowledge. -/
  write : UInt8
  /-- It has the number of the message acknowledged last. -/
  duplicate : Bool
  payload : Bytes
  deriving DecidableEq, Repr

end NodeLink.Channel

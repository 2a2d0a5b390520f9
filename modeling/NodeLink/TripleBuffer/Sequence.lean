import NodeLink.Bytes

/-! Sequence numbers of writes and the control words that carry them. Numbers run from 1 to 255 and
around again; 0 says that nothing has been written yet. -/

namespace NodeLink

/-- Names a write; 0 names none. -/
abbrev Sequence := UInt8

namespace Sequence

/-- The number after this one, passing over 0. -/
def next (seq : Sequence) : Sequence := if seq + 1 = 0 then 1 else seq + 1

/-- Whether a number names a write that was not seen last. -/
def isFresh (seq lastSeen : Sequence) : Bool := seq != 0 && seq != lastSeen

theorem next_ne_zero (seq : Sequence) : seq.next ≠ 0 := by
  unfold next
  split
  · decide
  · assumption

end Sequence

/-- The two bytes in use of a control word: a sequence number and a slot. -/
structure ControlWord where
  seq : Sequence
  slot : UInt8
  deriving DecidableEq, Repr

namespace ControlWord

/-- The slot of a consumer that reads none. -/
def noSlot : UInt8 := 0xFF

def toWord (control : ControlWord) : UInt32 :=
  UInt32.ofNat (control.slot.toNat * 256 + control.seq.toNat)

/-- The two high bytes of the word carry nothing. -/
def ofWord (word : UInt32) : ControlWord :=
  ⟨UInt8.ofNat word.toNat, UInt8.ofNat (word.toNat / 256)⟩

theorem toNat_toWord (control : ControlWord) :
    control.toWord.toNat = control.slot.toNat * 256 + control.seq.toNat := by
  have slot := control.slot.toNat_lt
  have seq := control.seq.toNat_lt
  rw [toWord, UInt32.toNat_ofNat']
  omega

theorem ofWord_toWord (control : ControlWord) : ofWord control.toWord = control := by
  have seq := control.seq.toNat_lt
  have slot := control.slot.toNat_lt
  have low : UInt8.ofNat control.toWord.toNat = control.seq := by
    apply UInt8.toNat_inj.mp
    rw [UInt8.toNat_ofNat', toNat_toWord]
    omega
  have high : UInt8.ofNat (control.toWord.toNat / 256) = control.slot := by
    apply UInt8.toNat_inj.mp
    rw [UInt8.toNat_ofNat', toNat_toWord]
    omega
  rw [ofWord, low, high]

end ControlWord

end NodeLink

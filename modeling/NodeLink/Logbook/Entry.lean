import NodeLink.Bytes
import NodeLink.Error

/-! Log records: eight bytes. -/

namespace NodeLink.Logbook

def entrySize : Nat := 8

structure Entry where
  level : UInt8
  /-- The module that the entry comes from. -/
  source : UInt8
  code : UInt16
  /-- More about the event; its meaning depends on the code. -/
  info : UInt32
  deriving DecidableEq, Repr

namespace Entry

def toBytes (entry : Entry) : Bytes :=
  entry.level :: entry.source :: Bytes.ofNat 2 entry.code.toNat ++ Bytes.ofNat 4 entry.info.toNat

def decode : Bytes → Except Error Entry
  | [level, source, codeLow, codeHigh, a, b, c, d] => .ok {
      level := level
      source := source
      code := UInt16.ofNat (Bytes.toNat [codeLow, codeHigh])
      info := Bytes.toWord [a, b, c, d]
    }
  | _ => .error .malformed

@[simp] theorem length_toBytes (entry : Entry) : entry.toBytes.length = entrySize := by
  simp only [toBytes, List.length_append, List.length_cons, Bytes.length_ofNat, entrySize]

theorem decode_toBytes (entry : Entry) : decode entry.toBytes = .ok entry := by
  have code : UInt16.ofNat (Bytes.ofNat 2 entry.code.toNat).toNat = entry.code := by
    rw [Bytes.toNat_ofNat_of_lt entry.code.toNat_lt, UInt16.ofNat_toNat]
  have info : Bytes.toWord (Bytes.ofNat 4 entry.info.toNat) = entry.info :=
    Bytes.toWord_ofWord entry.info
  calc decode entry.toBytes
    _ = .ok ⟨entry.level, entry.source, UInt16.ofNat (Bytes.ofNat 2 entry.code.toNat).toNat,
          Bytes.toWord (Bytes.ofNat 4 entry.info.toNat)⟩ := rfl
    _ = .ok entry := by rw [code, info]

end Entry

end NodeLink.Logbook

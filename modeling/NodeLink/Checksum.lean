import NodeLink.Bytes

/-! The two checksums of safety frames: most significant bit first, no reflection, no final
complement. Each byte is added to the high end of the register, which then shifts out eight bits. -/

namespace NodeLink.Checksum

def polynomial8 : UInt8 := 0x2F

def polynomial16 : UInt16 := 0x5935

def shift8 (register : UInt8) : UInt8 :=
  if register &&& 0x80 = 0 then register <<< 1 else register <<< 1 ^^^ polynomial8

def shift16 (register : UInt16) : UInt16 :=
  if register &&& 0x8000 = 0 then register <<< 1 else register <<< 1 ^^^ polynomial16

def crc8 (seed : UInt8) (bytes : Bytes) : UInt8 :=
  bytes.foldl (fun register byte => Nat.repeat shift8 8 (register ^^^ byte)) seed

def crc16 (seed : UInt16) (bytes : Bytes) : UInt16 :=
  bytes.foldl (fun register byte => Nat.repeat shift16 8 (register ^^^ byte.toUInt16 <<< (8 : UInt16)))
    seed

end NodeLink.Checksum

namespace NodeLink

/-- The checksums that the ends of a channel agree on, each from a seed. -/
class Checksums where
  crc8 : UInt8 → Bytes → UInt8
  crc16 : UInt16 → Bytes → UInt16

/-- The checksums of this library, unless others are given. -/
instance Checksums.openSafety : Checksums := ⟨Checksum.crc8, Checksum.crc16⟩

end NodeLink

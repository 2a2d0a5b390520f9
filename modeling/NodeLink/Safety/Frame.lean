import NodeLink.Channel.Header

/-! Safety frames as the node exchanges them inside one message: what they say, and the parts they
share on the wire. A frame says its content in two subframes that differ in the seed of their
checksums. -/

namespace NodeLink.Safety

open Channel (Format)

/-- Longest data of a subframe. -/
def maxData : Nat := 254

def messageHeaderSize : Nat := 12

def subframeHeaderSize : Nat := 5

/-- Longest message: its header and two subframes with the longest data. -/
def maxMessage : Nat := messageHeaderSize + 2 * (subframeHeaderSize + maxData + 2)

structure Frame where
  format : Format
  /-- Only one of the subframes carries the data. -/
  slim : Bool
  timebase : UInt64
  /-- Ten bits. -/
  address : UInt16
  /-- Six bits. -/
  id : UInt8
  data : Bytes
  deriving DecidableEq, Repr

/-- The width of a frame's checksums. -/
inductive Check where
  | crc8
  | crc16
  deriving DecidableEq, Repr

namespace Check

/-- Longest data that the short checksum protects. -/
def shortData : Nat := 19

def ofSize (size : Nat) : Check := if size ≤ shortData then crc8 else crc16

def size : Check → Nat
  | crc8 => 1
  | crc16 => 2

end Check

/-- Where the first subframe of a slim frame starts: behind an empty second one. -/
def slimPosition (check : Check) : Nat := subframeHeaderSize + check.size

/-- Which of the two subframes; the second one's checksum starts from the complement of the first
one's seed. -/
inductive Copy where
  | first
  | second
  deriving DecidableEq, Repr

def Copy.seed : Copy → UInt16
  | first => 0
  | second => 0xFFFF

/-- What a subframe says. -/
structure Subframe where
  /-- The address in the ten low bits, the id above. -/
  target : UInt16
  /-- The low part of the timebase. -/
  time : UInt16
  data : Bytes
  deriving DecidableEq, Repr

namespace Subframe

def targetOf (address : UInt16) (id : UInt8) : UInt16 :=
  UInt16.ofNat (address.toNat % 1024 + id.toNat % 64 * 1024)

def address (subframe : Subframe) : UInt16 := UInt16.ofNat (subframe.target.toNat % 1024)

def id (subframe : Subframe) : UInt8 := UInt8.ofNat (subframe.target.toNat / 1024)

/-- The bytes that the checksum covers. -/
def covered (subframe : Subframe) : Bytes :=
  Bytes.ofNat 2 subframe.target.toNat ++ UInt8.ofNat subframe.data.length ::
    Bytes.ofNat 2 subframe.time.toNat ++ subframe.data

end Subframe

/-- The timebase's part that a subframe repeats. -/
def timeOf (timebase : UInt64) : UInt16 := UInt16.ofNat timebase.toNat

end NodeLink.Safety

import NodeLink.Bytes
import NodeLink.Error

/-! The layout table that both processors share, and where the parts of a buffer lie. A region is a
control block of four words and three slots of `begin` stamp, length, data and `end` stamp. -/

namespace NodeLink

structure Descriptor where
  id : BufferId
  base : Nat
  /-- Payload bytes in each slot. -/
  size : Nat
  deriving DecidableEq, Repr

namespace Layout

def slotCount : Nat := 3

/-- Offsets of the control block's words, and the end of the block. -/
def slotSizeOffset : Nat := 0
def producerOffset : Nat := 4
def consumerOffset : Nat := 8
def flagsOffset : Nat := 12
def slotsOffset : Nat := 16

/-- Offsets within a slot. -/
def beginOffset : Nat := 0
def lengthOffset : Nat := 4
def dataOffset : Nat := 8
def endOffset (slotSize : Nat) : Nat := dataOffset + Bytes.padded slotSize

def slotStride (slotSize : Nat) : Nat := 12 + Bytes.padded slotSize

def regionSize (slotSize : Nat) : Nat := slotsOffset + slotCount * slotStride slotSize

def slotAddress (base : Nat) (slotSize slot : Nat) : Nat :=
  base + slotsOffset + slot * slotStride slotSize

end Layout

def Descriptor.regionSize (descriptor : Descriptor) : Nat := Layout.regionSize descriptor.size

structure Configuration where
  buffers : List Descriptor
  /-- Channel numbers named in the headers of service and async messages. -/
  ssdoChannel : UInt8 := 0
  asyncChannel : UInt8 := 0
  /-- Cycles before an unacknowledged service frame is written again. -/
  ssdoAckTimeout : Nat := 50
  /-- Cycles between two offers of a frame whose peer address is unknown. -/
  addressRetryCycles : Nat := 10
  /-- Cycles before an unread log record is reported. -/
  logbookTimeout : Nat := 100

namespace Configuration

/-- The descriptor of a buffer, if the table has one. Listing a buffer twice is an error. -/
def descriptor (configuration : Configuration) (id : BufferId) :
    Except Error (Option Descriptor) :=
  match configuration.buffers.filter (·.id = id) with
  | [] => .ok none
  | [descriptor] => .ok (some descriptor)
  | _ :: _ :: _ => .error (.duplicateBuffer id)

def required (configuration : Configuration) (id : BufferId) : Except Error Descriptor :=
  match configuration.descriptor id with
  | .ok (some descriptor) => .ok descriptor
  | .ok none => .error (.missingBuffer id)
  | .error error => .error error

end Configuration

end NodeLink

import NodeLink.TripleBuffer

/-! The status channel: in every cycle the communication processor overwrites a record of sixteen bytes
that is never acknowledged. -/

namespace NodeLink.Status

def recordSize : Nat := 16

structure Record where
  /-- Network time of the cycle's start. -/
  timestamp : UInt64
  /-- Cycles since the start. -/
  cycles : UInt32
  /-- State of the protocol stack. -/
  state : UInt8
  deriving DecidableEq, Repr

namespace Record

def initial : Record := ⟨0, 0, 0⟩

def toBytes (record : Record) : Bytes :=
  Bytes.ofNat 8 record.timestamp.toNat ++ Bytes.ofNat 4 record.cycles.toNat ++
    [record.state, 0, 0, 0]

def decode (bytes : Bytes) : Except Error Record :=
  if bytes.length < recordSize then .error .malformed
  else .ok {
    timestamp := UInt64.ofNat (bytes.slice 0 8).toNat
    cycles := UInt32.ofNat (bytes.slice 8 4).toNat
    state := bytes.getD 12 0
  }

@[simp] theorem length_toBytes (record : Record) : record.toBytes.length = recordSize := by
  simp only [toBytes, List.length_append, Bytes.length_ofNat, List.length_cons, List.length_nil,
    recordSize]

theorem decode_toBytes (record : Record) : decode record.toBytes = .ok record := by
  have timestamp : (record.toBytes.slice 0 8).toNat = record.timestamp.toNat := by
    rw [Bytes.slice, toBytes, List.drop_zero, List.append_assoc, List.take_left' (by simp)]
    exact Bytes.toNat_ofNat_of_lt record.timestamp.toNat_lt
  have cycles : (record.toBytes.slice 8 4).toNat = record.cycles.toNat := by
    rw [Bytes.slice, toBytes, List.append_assoc, List.drop_left' (by simp),
      List.take_left' (by simp)]
    exact Bytes.toNat_ofNat_of_lt record.cycles.toNat_lt
  have state : record.toBytes.getD 12 0 = record.state := by
    rw [toBytes, List.getD_eq_getElem?_getD, List.getElem?_append_right (by simp)]
    simp
  rw [decode, if_neg (by simp), timestamp, cycles, state, UInt64.ofNat_toNat, UInt32.ofNat_toNat]

end Record

/-- Either end: a buffer and the record last published or taken. -/
structure End where
  buffer : TripleBuffer
  record : Record
  deriving DecidableEq

abbrev Operation := Action Medium End

def new (role : Role) (buffer : TripleBuffer) : Except Error End :=
  if buffer.role ≠ role then .error .invalidOperation
  else if buffer.slotSize < recordSize then .error (.invalidSize buffer.id)
  else .ok ⟨buffer, .initial⟩

def onBuffer {α : Type} : TripleBuffer.Operation α → Operation α :=
  Action.part (·.buffer) fun buffer side => { side with buffer }

/-- The stack's state, from the next cycle on. -/
def End.withState (side : End) (state : UInt8) : End :=
  { side with record := { side.record with state } }

/-- Publish this cycle's record. A cycle counts also when its record cannot be written. -/
def publish (timestamp : UInt64) : Operation Unit := do
  Action.modify fun side =>
    { side with record := { side.record with timestamp, cycles := side.record.cycles + 1 } }
  let record := (← Action.get).record
  let _ ← onBuffer (TripleBuffer.write record.toBytes)

/-- Take a fresh record. Returns whether there was one. -/
def refresh : Operation Bool := do
  let (snapshot, bytes) ← onBuffer (TripleBuffer.read recordSize)
  if snapshot.fresh then
    let record ← Action.ofExcept (Record.decode bytes)
    Action.modify fun side => { side with record }
    return true
  else return false

end NodeLink.Status

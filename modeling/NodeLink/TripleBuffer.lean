import NodeLink.Action
import NodeLink.Medium
import NodeLink.TripleBuffer.Sequence

/-! The triple buffer protocol. The producer fills a slot that is neither the latest one nor the one
the consumer claims, and publishes it with one word; the consumer claims the latest slot with one word
and looks again. The stamps around a slot's data show a copy that a write overtook. -/

namespace NodeLink

/-- One processor's end of a buffer. -/
structure TripleBuffer where
  id : BufferId
  role : Role
  base : Nat
  slotSize : Nat
  /-- The number of the write that the consumer last found fresh. -/
  lastSeen : Sequence
  /-- The slot that the consumer claimed last. -/
  reading : UInt8
  deriving DecidableEq, Repr

structure Snapshot where
  seq : Sequence
  size : Nat
  fresh : Bool
  deriving DecidableEq, Repr

/-- The bytes that a read moved into the reader's space, and how it ended. -/
structure ReadAttempt where
  moved : Bytes
  result : Except Fault Snapshot

namespace TripleBuffer

/-- Operations of an end that use the medium alone. -/
abbrev Operation := Action Medium TripleBuffer

def new (role : Role) (descriptor : Descriptor) (lastSeen : Sequence) : TripleBuffer where
  id := descriptor.id
  role := role
  base := descriptor.base
  slotSize := descriptor.size
  lastSeen := lastSeen
  reading := ControlWord.noSlot

/-- The first slot that is neither the latest nor the one being read. -/
def freeSlot (latest reading : UInt8) : UInt8 :=
  (([0, 1, 2] : List UInt8).find? fun slot => slot != latest && slot != reading).getD 0

section Words

def slotAddress (buffer : TripleBuffer) (slot : UInt8) : Nat :=
  Layout.slotAddress buffer.base buffer.slotSize slot.toNat

def endAddress (buffer : TripleBuffer) (slot : UInt8) : Nat :=
  buffer.slotAddress slot + Layout.endOffset buffer.slotSize

def load (address : TripleBuffer → Nat) : Operation UInt32 := fun buffer =>
  Action.attempt (Medium.load (address buffer)) buffer

def store (address : TripleBuffer → Nat) (word : UInt32) : Operation Unit := fun buffer =>
  Action.attempt (Medium.store (address buffer) word) buffer

def loadProducer : Operation UInt32 := load (·.base + Layout.producerOffset)

def storeProducer (control : ControlWord) : Operation Unit :=
  store (·.base + Layout.producerOffset) control.toWord

def loadConsumer : Operation UInt32 := load (·.base + Layout.consumerOffset)

def storeConsumer (control : ControlWord) : Operation Unit :=
  store (·.base + Layout.consumerOffset) control.toWord

def storeSlotSize (size : Nat) : Operation Unit :=
  store (·.base + Layout.slotSizeOffset) (UInt32.ofNat size)

def storeBytes (address : TripleBuffer → Nat) (bytes : Bytes) : Operation Unit := fun buffer =>
  Action.attempt (Medium.storeBytes (address buffer) bytes) buffer

end Words

def requireRole (role : Role) : Operation Unit := fun buffer =>
  Action.ofExcept (if buffer.role = role then .ok () else .error .invalidOperation) buffer

def checkDescriptor (descriptor : Descriptor) : Except Error Unit :=
  if descriptor.base % 4 ≠ 0 then .error .notAligned
  else if descriptor.size = 0 ∨ 65535 < descriptor.size then .error (.invalidSize descriptor.id)
  else .ok ()

def clearSlot (slot : UInt8) : Operation Unit := do
  store (·.slotAddress slot + Layout.beginOffset) 0
  store (·.slotAddress slot + Layout.lengthOffset) 0
  store (·.endAddress slot) 0

/-- Lay the buffer out. It can be attached to once the slot size is stored. -/
def initialise : Operation Unit := do
  storeSlotSize 0
  storeProducer ⟨0, 0⟩
  storeConsumer ⟨0, ControlWord.noSlot⟩
  store (·.base + Layout.flagsOffset) 0
  clearSlot 0
  clearSlot 1
  clearSlot 2
  storeSlotSize (← Action.get).slotSize

/-- Check the layout that the owner of the memory left. -/
def checkLayout : Operation Unit := do
  let found ← load (·.base + Layout.slotSizeOffset)
  let buffer ← Action.get
  if found.toNat = 0 then Action.fail (.error .uninitialised)
  else if found.toNat ≠ buffer.slotSize then Action.fail (.error (.invalidSize buffer.id))

/-- The end that an operation leaves, if it succeeds. -/
def prepare (operation : Operation Unit) (buffer : TripleBuffer) :
    Prog Medium (Except Fault TripleBuffer) := do
  let (result, buffer) ← operation buffer
  return result.map fun _ => buffer

/-- Make a new buffer in the memory that this processor owns. -/
def create (role : Role) (descriptor : Descriptor) : Prog Medium (Except Fault TripleBuffer) :=
  prepare (do Action.ofExcept (checkDescriptor descriptor); initialise) (new role descriptor 0)

/-- Attach to a buffer that the other processor made; `lastSeen` is what an earlier end of the same
buffer saw last. -/
def attach (role : Role) (descriptor : Descriptor) (lastSeen : Sequence) :
    Prog Medium (Except Fault TripleBuffer) :=
  prepare (do Action.ofExcept (checkDescriptor descriptor); checkLayout)
    (new role descriptor lastSeen)

/-- Fill a slot: the begin stamp first and the end stamp last. -/
def fillSlot (slot : UInt8) (seq : Sequence) (payload : Bytes) : Operation Unit := do
  store (·.slotAddress slot + Layout.beginOffset) seq.toUInt32
  store (·.slotAddress slot + Layout.lengthOffset) (UInt32.ofNat payload.length)
  storeBytes (·.slotAddress slot + Layout.dataOffset) payload
  store (·.endAddress slot) seq.toUInt32

/-- Copy a payload into a free slot, then publish it with one word. -/
def write (payload : Bytes) : Operation Sequence := do
  requireRole .producer
  if (← Action.get).slotSize < payload.length then Action.fail (.error .payloadTooLarge)
  else
    let latest := ControlWord.ofWord (← loadProducer)
    let claimed := ControlWord.ofWord (← loadConsumer)
    let slot := freeSlot latest.slot claimed.slot
    let seq := latest.seq.next
    fillSlot slot seq payload
    storeProducer ⟨seq, slot⟩
    return seq

/-- Claim the slot that a producer word names, and accept it if the word is still there. Another word
starts the next attempt. -/
def claim (acknowledged : Sequence) : (attempts : Nat) → (word : UInt32) → Operation ControlWord
  | 0, _ => Action.fail .busy
  | attempts + 1, word => do
    let latest := ControlWord.ofWord word
    Action.modify fun buffer => { buffer with reading := latest.slot }
    storeConsumer ⟨acknowledged, latest.slot⟩
    let again ← loadProducer
    if again = word then return latest else claim acknowledged attempts again

def claimAttempts : Nat := 3

def claimLatest : Operation ControlWord := do
  let acknowledged := (ControlWord.ofWord (← loadConsumer)).seq
  claim acknowledged claimAttempts (← loadProducer)

/-- Take the number of a complete copy for seen. -/
def observe (seq : Sequence) (size : Nat) : Operation Snapshot := do
  let fresh := seq.isFresh (← Action.get).lastSeen
  if fresh then Action.modify fun buffer => { buffer with lastSeen := seq }
  return ⟨seq, size, fresh⟩

/-- Copy a claimed slot: the end stamp first and the begin stamp last. Differing stamps mean that a
write came in between. -/
def copySlot (claimed : ControlWord) (room : Nat) : Operation ReadAttempt := do
  let last ← load (·.endAddress claimed.slot)
  let size := (← load (·.slotAddress claimed.slot + Layout.lengthOffset)).toNat
  if (← Action.get).slotSize < size then Action.fail .busy
  else if room < size then Action.fail (.error .bufferTooSmall)
  else
    let transfer ← fun buffer =>
      Action.ask (Medium.loadBytes (buffer.slotAddress claimed.slot + Layout.dataOffset) size) buffer
    let result ← Action.outcome do
      if let some error := transfer.failure then Action.fail (.error error)
      let first ← load (·.slotAddress claimed.slot + Layout.beginOffset)
      if first ≠ claimed.seq.toUInt32 ∨ last ≠ claimed.seq.toUInt32 then Action.fail .busy
      observe claimed.seq size
    return ⟨transfer.moved, result⟩

/-- Read the latest write into `room` bytes of space, telling also what a failed read moved. -/
def tryRead (room : Nat) : Operation ReadAttempt := do
  requireRole .consumer
  let claimed ← claimLatest
  if claimed.seq = 0 then return ⟨[], .ok ⟨0, 0, false⟩⟩ else copySlot claimed room

/-- Read the latest write into `room` bytes of space. -/
def read (room : Nat) : Operation (Snapshot × Bytes) := do
  let attempt ← tryRead room
  let snapshot ← fun buffer => .done (attempt.result, buffer)
  return (snapshot, attempt.moved)

/-- Whether there is a write that was not read, without claiming a slot. -/
def hasFresh : Operation Bool := do
  requireRole .consumer
  let latest := ControlWord.ofWord (← loadProducer)
  return latest.seq.isFresh (← Action.get).lastSeen

/-- Tell the producer that a write was taken. -/
def acknowledge (seq : Sequence) : Operation Unit := do
  requireRole .consumer
  storeConsumer ⟨seq, (← Action.get).reading⟩

/-- Whether the latest write was acknowledged; a buffer without one counts as acknowledged. -/
def acknowledged : Operation Bool := do
  requireRole .producer
  let latest := ControlWord.ofWord (← loadProducer)
  let answered := ControlWord.ofWord (← loadConsumer)
  return latest.seq == answered.seq

end TripleBuffer

end NodeLink

import NodeLink.TripleBuffer.Call

/-! The protocol as a processor follows it that reaches the buffer over a link. It is written apart from
that of an end on the processor's own bus: a slot's address is made once, the claim is a loop that may
come to nothing, and a payload goes out as all its whole words at once and a padded last word. -/

namespace NodeLink.TripleBuffer.Remote

section Words

def loadWord (address : Nat) : Operation UInt32 := Action.attempt (Medium.load address)

def storeWord (address : Nat) (word : UInt32) : Operation Unit :=
  Action.attempt (Medium.store address word)

/-- Load a word of the control block. -/
def loadControl (offset : Nat) : Operation UInt32 := do
  let buffer ← Action.get
  loadWord (buffer.base + offset)

def storeControl (offset : Nat) (control : ControlWord) : Operation Unit := do
  let buffer ← Action.get
  storeWord (buffer.base + offset) control.toWord

/-- The bytes after the last whole word, padded with zeros. -/
def storeTail (address : Nat) : Bytes → Operation Unit
  | [] => return
  | tail => storeWord address tail.toWord

/-- Store the whole words at once, then the tail. -/
def storePadded (address : Nat) (bytes : Bytes) : Operation Unit := do
  let aligned := bytes.length - bytes.length % 4
  if 0 < aligned then Action.attempt (Medium.storeBytes address (bytes.take aligned))
  storeTail (address + aligned) (bytes.drop aligned)

def endOffset (buffer : TripleBuffer) : Nat := Layout.dataOffset + Bytes.padded buffer.slotSize

end Words

/-- Attach to a buffer that the owner of the memory made; `lastSeen` is what an earlier end of the same
buffer saw last. -/
def attach (role : Role) (descriptor : Descriptor) (lastSeen : Sequence) :
    Prog Medium (Except Fault TripleBuffer) :=
  if descriptor.base % 4 ≠ 0 then return .error (.error .notAligned)
  else if descriptor.size = 0 ∨ 65535 < descriptor.size then
    return .error (.error (.invalidSize descriptor.id))
  else do
    match ← Medium.load (descriptor.base + Layout.slotSizeOffset) with
    | .error error => return .error (.error error)
    | .ok found =>
      if found.toNat = 0 then return .error (.error .uninitialised)
      else if found.toNat ≠ descriptor.size then
        return .error (.error (.invalidSize descriptor.id))
      else
        return .ok {
          id := descriptor.id
          role := role
          base := descriptor.base
          slotSize := descriptor.size
          lastSeen := lastSeen
          reading := ControlWord.noSlot
        }

/-- Copy a payload into a free slot, then publish it with one word. -/
def write (payload : Bytes) : Operation Sequence := do
  requireRole .producer
  let buffer ← Action.get
  if buffer.slotSize < payload.length then Action.fail (.error .payloadTooLarge)
  else
    let latest := ControlWord.ofWord (← loadControl Layout.producerOffset)
    let claimed := ControlWord.ofWord (← loadControl Layout.consumerOffset)
    let slot := freeSlot latest.slot claimed.slot
    let seq := latest.seq.next
    let address := Layout.slotAddress buffer.base buffer.slotSize slot.toNat
    storeWord (address + Layout.beginOffset) seq.toUInt32
    storeWord (address + Layout.lengthOffset) (UInt32.ofNat payload.length)
    storePadded (address + Layout.dataOffset) payload
    storeWord (address + endOffset buffer) seq.toUInt32
    storeControl Layout.producerOffset ⟨seq, slot⟩
    return seq

/-- Claim the slot that the producer word names until the word stays as it is. -/
def claim (acknowledged : Sequence) : (attempts : Nat) → (word : UInt32) →
    Operation (Option ControlWord)
  | 0, _ => return none
  | attempts + 1, word => do
    let slot := (ControlWord.ofWord word).slot
    Action.modify fun buffer => { buffer with reading := slot }
    storeControl Layout.consumerOffset ⟨acknowledged, slot⟩
    let again ← loadControl Layout.producerOffset
    if again = word then return some (ControlWord.ofWord word)
    else claim acknowledged attempts again

/-- Check the stamps around a slot that was copied. Differing ones mean that a write came in between. -/
def confirm (address : Nat) (seq : Sequence) (last : UInt32) (size : Nat) : Operation Snapshot := do
  let first ← loadWord (address + Layout.beginOffset)
  if first ≠ seq.toUInt32 ∨ last ≠ seq.toUInt32 then Action.fail .busy
  else
    let buffer ← Action.get
    let fresh := seq.isFresh buffer.lastSeen
    if fresh then Action.modify fun buffer => { buffer with lastSeen := seq }
    return ⟨seq, size, fresh⟩

/-- Read the latest write into `room` bytes of space, telling also what a failed read moved. -/
def tryRead (room : Nat) : Operation ReadAttempt := do
  requireRole .consumer
  let acknowledged := (ControlWord.ofWord (← loadControl Layout.consumerOffset)).seq
  let word ← loadControl Layout.producerOffset
  match ← claim acknowledged claimAttempts word with
  | none => Action.fail .busy
  | some claimed =>
    if claimed.seq = 0 then return ⟨[], .ok ⟨0, 0, false⟩⟩
    else
      let buffer ← Action.get
      let address := Layout.slotAddress buffer.base buffer.slotSize claimed.slot.toNat
      let last ← loadWord (address + endOffset buffer)
      let size := (← loadWord (address + Layout.lengthOffset)).toNat
      if buffer.slotSize < size then Action.fail .busy
      else if room < size then Action.fail (.error .bufferTooSmall)
      else
        let transfer ← Action.ask (Medium.loadBytes (address + Layout.dataOffset) size)
        match transfer.failure with
        | some error => return ⟨transfer.moved, .error (.error error)⟩
        | none =>
          let result ← Action.outcome (confirm address claimed.seq last size)
          return ⟨transfer.moved, result⟩

/-- Tell the producer that a write was taken. -/
def acknowledge (seq : Sequence) : Operation Unit := do
  requireRole .consumer
  let buffer ← Action.get
  storeControl Layout.consumerOffset ⟨seq, buffer.reading⟩

/-- Whether the latest write was acknowledged. -/
def acknowledged : Operation Bool := do
  requireRole .producer
  let latest := ControlWord.ofWord (← loadControl Layout.producerOffset)
  let answered := ControlWord.ofWord (← loadControl Layout.consumerOffset)
  return latest.seq == answered.seq

/-- The calls that an end over a link offers. -/
inductive Call where
  | write (payload : Bytes)
  | read (room : Nat)
  | acknowledge (seq : Sequence)
  | acknowledged
  deriving DecidableEq, Repr

namespace Call

def perform : Call → Operation Reply
  | .write payload => replyWith .written (Remote.write payload)
  | .read room => replyWith (.read room) (tryRead room)
  | .acknowledge seq => replyWith .acknowledge (Remote.acknowledge seq)
  | .acknowledged => replyWith .acknowledged Remote.acknowledged

/-- The same call on an end on the processor's own bus. -/
def onBus : Call → TripleBuffer.Call
  | .write payload => .write payload
  | .read room => .read room
  | .acknowledge seq => .acknowledge seq
  | .acknowledged => .acknowledged

/-- A call that an end over a link offers too. -/
def ofBus? : TripleBuffer.Call → Option Call
  | .write payload => some (.write payload)
  | .read room => some (.read room)
  | .hasFresh => none
  | .acknowledge seq => some (.acknowledge seq)
  | .acknowledged => some .acknowledged

end Call

end NodeLink.TripleBuffer.Remote

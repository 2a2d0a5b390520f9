import NodeLink.Host
import NodeLink.TripleBuffer

/-! The producing end of a process image. An image is published only when it was marked complete, and
then once. -/

namespace NodeLink.ProcessData

structure Producer where
  buffer : TripleBuffer
  image : Image
  /-- The image is complete and not yet published. -/
  complete : Bool

/-- The image of a buffer, unless its slots are too large. -/
def imageOf (buffer : TripleBuffer) : Except Error Image :=
  if maxImage < buffer.slotSize then .error (.invalidSize buffer.id)
  else .ok (.zeros buffer.slotSize)

namespace Producer

def new (buffer : TripleBuffer) : Except Error Producer :=
  if buffer.role ≠ .producer then .error .invalidOperation
  else (⟨buffer, ·, false⟩) <$> imageOf buffer

def onBuffer {α : Type} : TripleBuffer.Operation α → Action Medium Producer α :=
  Action.part (·.buffer) fun buffer producer => { producer with buffer }

def link (producer : Producer) (sizeOf : ObjectRef → Option Nat) (links : List Link) :
    Except Error Producer :=
  (fun image => { producer with image }) <$> producer.image.link sizeOf links

def setObject (producer : Producer) (object : ObjectRef) (data : Bytes) : Except Error Producer :=
  (fun image => { producer with image }) <$> producer.image.setObject object data

def finish (producer : Producer) : Producer := { producer with complete := true }

/-- Copy linked objects from the dictionary, up to the first that it refuses; what that one moved stays
in the image. -/
def copyLinks : List Link → Action Host Producer Unit
  | [] => return
  | link :: rest => do
    let reading ← Action.ask (Host.readObject link.object link.size)
    Action.modify fun producer =>
      { producer with image := producer.image.put link.offset (reading.moved.take link.size) }
    match reading.result with
    | .error code => Action.fail (.error (.abort code))
    | .ok () => copyLinks rest

def copyFrom : Action Host Producer Unit := do copyLinks (← Action.get).image.links

/-- Publish a complete image. Returns whether there was one. -/
def publish : Action Medium Producer Bool := do
  let producer ← Action.get
  if producer.complete then
    let _ ← onBuffer (TripleBuffer.write producer.image.bytes)
    Action.modify fun producer => { producer with complete := false }
    return true
  else return false

end Producer

end NodeLink.ProcessData

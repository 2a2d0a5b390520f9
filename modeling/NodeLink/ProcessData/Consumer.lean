import NodeLink.ProcessData.Producer

/-! The consuming end of a process image. A failed read leaves the image as it was. -/

namespace NodeLink.ProcessData

structure Consumer where
  buffer : TripleBuffer
  image : Image

namespace Consumer

def new (buffer : TripleBuffer) : Except Error Consumer :=
  if buffer.role ≠ .consumer then .error .invalidOperation
  else (⟨buffer, ·⟩) <$> imageOf buffer

def onBuffer {α : Type} : TripleBuffer.Operation α → Action Medium Consumer α :=
  Action.part (·.buffer) fun buffer consumer => { consumer with buffer }

def link (consumer : Consumer) (sizeOf : ObjectRef → Option Nat) (links : List Link) :
    Except Error Consumer :=
  (fun image => { consumer with image }) <$> consumer.image.link sizeOf links

/-- Take a fresh image. Returns whether there was one. -/
def refresh : Action Medium Consumer Bool := do
  let (snapshot, bytes) ← onBuffer (TripleBuffer.read (← Action.get).image.size)
  if snapshot.fresh then
    Action.modify fun consumer => { consumer with image := consumer.image.put 0 bytes }
  return snapshot.fresh

/-- Write linked objects to the dictionary, up to the first that it refuses. -/
def copyLinks : List Link → Action Host Consumer Unit
  | [] => return
  | link :: rest => do
    let value := (← Action.get).image.get link
    match ← Action.ask (Host.writeObject link.object value) with
    | .error code => Action.fail (.error (.abort code))
    | .ok () => copyLinks rest

def copyTo : Action Host Consumer Unit := do copyLinks (← Action.get).image.links

end Consumer

end NodeLink.ProcessData

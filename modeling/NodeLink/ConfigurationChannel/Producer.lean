import NodeLink.Channel.Sender
import NodeLink.ConfigurationChannel.ObjectWrite
import NodeLink.Queue

/-! The application's end of the configuration channel: object writes wait in a queue until the one
before was acknowledged. -/

namespace NodeLink.ConfigurationChannel

/-- The format named in the headers. -/
def format : UInt8 := 0x10

def queueDepth : Nat := 8

structure Producer where
  sender : Channel.Sender
  queue : Queue ObjectWrite queueDepth

namespace Producer

abbrev Operation := Action Medium Producer

def new (buffer : TripleBuffer) : Except Error Producer :=
  if buffer.slotSize < Channel.headerSize + objectSize then .error (.invalidSize buffer.id)
  else (⟨·, .empty⟩) <$> Channel.Sender.new buffer 0

def onSender {α : Type} : Channel.Sender.Operation α → Operation α :=
  Action.part (·.sender) fun sender producer => { producer with sender }

/-- Queue a write. Busy while the queue is full. -/
def writeObject (object : ObjectRef) (data : Bytes) : Operation Unit := fun producer =>
  match ObjectWrite.new object data with
  | .error error => .done (.error (.error error), producer)
  | .ok write =>
    match producer.queue.push? write with
    | none => .done (.error .busy, producer)
    | some queue => .done (.ok (), { producer with queue })

/-- Post the oldest write that waits. -/
def process : Operation Unit := do
  match (← Action.get).queue.head? with
  | none => return
  | some write =>
    let _ ← onSender (Channel.Sender.post format write.toBytes)
    Action.modify fun producer => { producer with queue := producer.queue.tail }

end Producer

end NodeLink.ConfigurationChannel

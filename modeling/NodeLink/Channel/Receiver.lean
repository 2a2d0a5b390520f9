import NodeLink.Channel.Header
import NodeLink.TripleBuffer

/-! The consuming end of a message channel. A message is polled once, and acknowledged when its
receiver is done with it; one that no header can be read from is acknowledged at once, so that the
sender does not wait for it. -/

namespace NodeLink.Channel

structure Receiver where
  buffer : TripleBuffer
  /-- The number of the message acknowledged last, 0 before the first. -/
  delivered : MessageNumber
  deriving DecidableEq

namespace Receiver

abbrev Operation := Action Medium Receiver

def new (buffer : TripleBuffer) : Except Error Receiver :=
  if buffer.role = .consumer then .ok ⟨buffer, .none⟩ else .error .invalidOperation

def onBuffer {α : Type} : TripleBuffer.Operation α → Operation α :=
  Action.part (·.buffer) fun buffer receiver => { receiver with buffer }

/-- Interpret the bytes of a fresh write. -/
def accept (write : Sequence) (bytes : Bytes) : Operation Message := do
  match Header.decode bytes with
  | .error error =>
    onBuffer (TripleBuffer.acknowledge write)
    Action.fail (.error error)
  | .ok header =>
    let delivered := (← Action.get).delivered
    return {
      header := header
      write := write
      duplicate := header.number == delivered
      payload := bytes.slice headerSize header.size.toNat
    }

/-- Take a fresh message into `room` bytes of space. -/
def poll (room : Nat) : Operation (Option Message) := do
  if ← onBuffer TripleBuffer.hasFresh then
    let (snapshot, bytes) ← onBuffer (TripleBuffer.read room)
    if snapshot.fresh then some <$> accept snapshot.seq bytes else return none
  else return none

/-- Acknowledge a message, and remember its number. -/
def acknowledge (message : Message) : Operation Unit := do
  Action.modify fun receiver => { receiver with delivered := message.header.number }
  onBuffer (TripleBuffer.acknowledge message.write)

end Receiver

end NodeLink.Channel

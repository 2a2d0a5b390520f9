import NodeLink.Channel.Header
import NodeLink.TripleBuffer

/-! The producing end of a message channel. A new message waits for the acknowledge of the one before;
a message may be written again under its own number at any time. -/

namespace NodeLink.Channel

structure Sender where
  buffer : TripleBuffer
  channel : UInt8
  /-- The number of the next new message. -/
  next : MessageNumber
  deriving DecidableEq

namespace Sender

abbrev Operation := Action Medium Sender

def new (buffer : TripleBuffer) (channel : UInt8) : Except Error Sender :=
  if buffer.role = .producer then .ok ⟨buffer, channel, .first⟩ else .error .invalidOperation

def onBuffer {α : Type} : TripleBuffer.Operation α → Operation α :=
  Action.part (·.buffer) fun buffer sender => { sender with buffer }

/-- Whether the last message was acknowledged. -/
def ready : Operation Bool := onBuffer TripleBuffer.acknowledged

def write (number : MessageNumber) (retry : Bool) (format : UInt8) (payload : Bytes) :
    Operation Unit := do
  let sender ← Action.get
  let size := headerSize + payload.length
  if maxMessage < size ∨ sender.buffer.slotSize < size then Action.fail (.error .payloadTooLarge)
  else
    let header : Header := {
      number := number
      retry := retry
      format := format
      channel := sender.channel
      size := UInt16.ofNat payload.length
    }
    let _ ← onBuffer (TripleBuffer.write (header.toBytes ++ payload))

/-- Write a new message, unless the one before still waits for its acknowledge. -/
def post (format : UInt8) (payload : Bytes) : Operation MessageNumber := do
  if ← ready then
    let number := (← Action.get).next
    write number false format payload
    Action.modify fun sender => { sender with next := number.next }
    return number
  else Action.fail .busy

/-- Write a message again under its number. -/
def repost (number : MessageNumber) (format : UInt8) (payload : Bytes) : Operation Unit :=
  write number true format payload

end Sender

end NodeLink.Channel

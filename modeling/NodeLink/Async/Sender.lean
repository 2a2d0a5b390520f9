import NodeLink.Channel.Sender

/-! The sending end of the async channels: one buffer carries the messages of any number of logical
channels. -/

namespace NodeLink.Async

structure Sender where
  sender : Channel.Sender
  deriving DecidableEq

namespace Sender

abbrev Operation := Action Medium Sender

def new (buffer : TripleBuffer) (channel : UInt8) : Except Error Sender :=
  (⟨·⟩) <$> Channel.Sender.new buffer channel

def onSender {α : Type} : Channel.Sender.Operation α → Operation α :=
  Action.part (·.sender) fun inner _ => ⟨inner⟩

/-- Post a message. Busy until the one before was acknowledged. -/
def post (format : Channel.Format) (message : Bytes) : Operation Unit := do
  let _ ← onSender (Channel.Sender.post format.toByte message)

/-- Post a message whose first byte is its format. -/
def transmit : Bytes → Operation Unit
  | [] => Action.fail (.error .malformed)
  | first :: rest => do post (← Action.ofExcept (Channel.Format.ofByte first)) (first :: rest)

def ready : Operation Bool := onSender Channel.Sender.ready

/-- The logical channel of the posts that follow. -/
def onChannel (sender : Sender) (channel : UInt8) : Sender := ⟨{ sender.sender with channel }⟩

end Sender

end NodeLink.Async

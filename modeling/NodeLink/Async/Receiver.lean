import NodeLink.Channel.Receiver
import NodeLink.Host
import NodeLink.Safety.Reader

/-! The receiving end of the async channels. A handler sees the frames of registered channels that it
serves, and only those whose checksums match; every other message is acknowledged and reported. -/

namespace NodeLink.Async

variable [Checksums]

def maxChannels : Nat := 4

structure Receiver where
  receiver : Channel.Receiver
  /-- The registered channels. -/
  channels : List UInt8
  deriving DecidableEq

namespace Receiver

def new (buffer : TripleBuffer) : Except Error Receiver := (⟨·, []⟩) <$> Channel.Receiver.new buffer

def onReceiver {α : Type} (operation : Channel.Receiver.Operation α) : Action Host Receiver α :=
  Action.part (·.receiver) (fun inner receiver => { receiver with receiver := inner })
    operation.onHost

/-- Accept the messages of a channel from now on. -/
def register (receiver : Receiver) (channel : UInt8) : Except Error Receiver :=
  if channel ∈ receiver.channels then .ok receiver
  else if maxChannels ≤ receiver.channels.length then .error .poolExhausted
  else .ok { receiver with channels := receiver.channels ++ [channel] }

/-- The frame of a message, if it is of the format that the header names. -/
def frameOf (message : Channel.Message) : Except Error Safety.Frame := do
  let frame ← Safety.Frame.ofMessage message.payload
  if frame.format.toByte = message.header.format then .ok frame else .error .malformed

/-- Give a message to the handler of its channel. -/
def dispatch (message : Channel.Message) : Action Host Receiver Unit := do
  let channel := message.header.channel
  if channel ∈ (← Action.get).channels then
    if ← Action.ask (Host.serves channel) then
      let frame ← Action.ofExcept (frameOf message)
      Action.ask (Host.deliverFrame channel frame)
    else Action.fail (.error (.unknownChannel channel))
  else Action.fail (.error (.unknownChannel channel))

/-- Take a fresh message and dispatch it. Returns whether a handler was called. -/
def process : Action Host Receiver Bool := do
  match ← onReceiver (Channel.Receiver.poll Channel.maxMessage) with
  | none => return false
  | some message =>
    if message.duplicate then
      onReceiver (Channel.Receiver.acknowledge message)
      return false
    else
      let result ← Action.outcome (dispatch message)
      onReceiver (Channel.Receiver.acknowledge message)
      match result with
      | .error fault => Action.fail fault
      | .ok () => return true

end Receiver

end NodeLink.Async

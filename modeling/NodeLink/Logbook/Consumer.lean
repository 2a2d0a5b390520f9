import NodeLink.Channel.Receiver
import NodeLink.Host

/-! The communication processor's end of the logbook: a fresh record is acknowledged and handed on. -/

namespace NodeLink.Logbook

structure Consumer where
  receiver : Channel.Receiver
  deriving DecidableEq

namespace Consumer

def new (buffer : TripleBuffer) : Except Error Consumer := (⟨·⟩) <$> Channel.Receiver.new buffer

def onReceiver {α : Type} (operation : Channel.Receiver.Operation α) : Action Host Consumer α :=
  Action.part (·.receiver) (fun receiver _ => ⟨receiver⟩) operation.onHost

/-- Take a fresh record. Returns whether there was one to hand on. -/
def process : Action Host Consumer Bool := do
  match ← onReceiver (Channel.Receiver.poll Channel.maxMessage) with
  | none => return false
  | some message =>
    onReceiver (Channel.Receiver.acknowledge message)
    if message.duplicate then return false
    else
      let entry ← Action.ofExcept (Entry.decode message.payload)
      Action.ask (Host.record entry)
      return true

end Consumer

end NodeLink.Logbook

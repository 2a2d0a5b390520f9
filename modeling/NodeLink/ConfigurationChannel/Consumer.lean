import NodeLink.Channel.Receiver
import NodeLink.ConfigurationChannel.ObjectWrite
import NodeLink.Host

/-! The communication processor's end of the configuration channel: writes of linked objects go to the
dictionary. A write is acknowledged before it is judged, so a refused one does not block the next. -/

namespace NodeLink.ConfigurationChannel

def maxLinks : Nat := 16

structure Consumer where
  receiver : Channel.Receiver
  links : List Link
  deriving DecidableEq

namespace Consumer

def new (buffer : TripleBuffer) : Except Error Consumer :=
  (⟨·, []⟩) <$> Channel.Receiver.new buffer

def onReceiver {α : Type} (operation : Channel.Receiver.Operation α) : Action Host Consumer α :=
  Action.part (·.receiver) (fun receiver consumer => { consumer with receiver }) operation.onHost

/-- The entries that fit a dictionary's object sizes, up to the first that does not, and the error that
it makes. -/
def checkLinks (sizeOf : ObjectRef → Option Nat) : (linked : List Link) → List Link →
    Except Error Unit × List Link
  | linked, [] => (.ok (), linked)
  | linked, link :: rest =>
    if maxData < link.size ∨ sizeOf link.object ≠ some link.size then
      (.error (.linkMismatch link.object), linked)
    else if maxLinks ≤ linked.length then (.error .poolExhausted, linked)
    else checkLinks sizeOf (linked ++ [link]) rest

/-- Replace the table of accepted objects. A table with a wrong entry leaves the entries before it
linked. -/
def link (consumer : Consumer) (sizeOf : ObjectRef → Option Nat) (links : List Link) :
    Except Error Unit × Consumer :=
  let (result, linked) := checkLinks sizeOf [] links
  (result, { consumer with links := linked })

/-- Hand a write to the dictionary. -/
def apply (write : ObjectWrite) : Action Host Consumer ObjectWrite := do
  if (← Action.get).links.any (·.accepts write) then
    match ← Action.ask (Host.writeObject write.object write.data) with
    | .error code => Action.fail (.error (.abort code))
    | .ok () => return write
  else Action.fail (.error (.unlinkedObject write.object))

/-- Take a fresh write, if there is one, and apply it. -/
def process : Action Host Consumer (Option ObjectWrite) := do
  match ← onReceiver (Channel.Receiver.poll Channel.maxMessage) with
  | none => return none
  | some message =>
    onReceiver (Channel.Receiver.acknowledge message)
    if message.duplicate then return none
    else some <$> apply (← Action.ofExcept (ObjectWrite.decode message.payload))

end Consumer

end NodeLink.ConfigurationChannel

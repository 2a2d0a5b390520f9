import NodeLink.Action
import NodeLink.Logbook.Entry
import NodeLink.Medium
import NodeLink.ProcessData.Image
import NodeLink.Safety.Frame

/-! What the interface asks of the processor it runs on: the medium, and the collaborators around it.
Their answers are arbitrary; what they do is seen in the order of the requests. -/

namespace NodeLink

/-- What the network makes of a frame that does not fail. -/
inductive Handoff where
  | queued
  /-- The peer's address is being looked for. -/
  | addressPending
  deriving DecidableEq, Repr

namespace Host

/-- What the application's cycle does: objects that it sets, and how it ends. -/
structure Cycle where
  settings : List (ObjectRef × Bytes)
  result : Except Error Unit

/-- What a dictionary's read puts into the space from its start, also when it fails. -/
structure Reading where
  moved : Bytes
  result : Except AbortCode Unit

inductive Request where
  | medium (request : Medium.Request)
  /-- The value of a dictionary's object, for a space of `room` bytes. -/
  | readObject (object : ObjectRef) (room : Nat)
  | writeObject (object : ObjectRef) (value : Bytes)
  /-- Hand a service frame to the network. -/
  | transmit (channel : UInt8) (payload : Bytes)
  /-- Give a service frame from the network to the application. -/
  | deliver (channel : UInt8) (payload : Bytes)
  /-- Whether a handler serves a channel of safety messages. -/
  | serves (channel : UInt8)
  | deliverFrame (channel : UInt8) (frame : Safety.Frame)
  | record (entry : Logbook.Entry)
  | report (source : Source) (error : Error)
  /-- The bounds of the section that other contexts keep out of. -/
  | enter
  | leave
  | beforeCycle
  | afterCycle
  /-- The application's cycle, between taking one image and publishing the other. -/
  | cycle (received transmitted : ProcessData.Image)

end Host

abbrev Host : Signature where
  Request := Host.Request
  Answer
    | .medium request => Medium.Answer request
    | .readObject _ _ => Host.Reading
    | .writeObject _ _ => Except AbortCode Unit
    | .transmit _ _ => Except Error Handoff
    | .deliver _ _ => Unit
    | .serves _ => Bool
    | .deliverFrame _ _ => Unit
    | .record _ => Unit
    | .report _ _ => Unit
    | .enter => Unit
    | .leave => Unit
    | .beforeCycle => Except Error Unit
    | .afterCycle => Except Error Unit
    | .cycle _ _ => Host.Cycle

namespace Host

def request (request : Request) : Prog Host (Host.Answer request) := Prog.request (S := Host) request

def readObject (object : ObjectRef) (room : Nat) : Prog Host Reading :=
  request (.readObject object room)

def writeObject (object : ObjectRef) (value : Bytes) : Prog Host (Except AbortCode Unit) :=
  request (.writeObject object value)

def transmit (channel : UInt8) (payload : Bytes) : Prog Host (Except Error Handoff) :=
  request (.transmit channel payload)

def deliver (channel : UInt8) (payload : Bytes) : Prog Host Unit :=
  request (.deliver channel payload)

def serves (channel : UInt8) : Prog Host Bool := request (.serves channel)

def deliverFrame (channel : UInt8) (frame : Safety.Frame) : Prog Host Unit :=
  request (.deliverFrame channel frame)

def record (entry : Logbook.Entry) : Prog Host Unit := request (.record entry)

def report (source : Source) (error : Error) : Prog Host Unit := request (.report source error)

def enter : Prog Host Unit := request .enter

def leave : Prog Host Unit := request .leave

def beforeCycle : Prog Host (Except Error Unit) := request .beforeCycle

def afterCycle : Prog Host (Except Error Unit) := request .afterCycle

def cycle (received transmitted : ProcessData.Image) : Prog Host Cycle :=
  request (.cycle received transmitted)

/-- The medium as the host reaches it. -/
def answer (request : Medium.Request) : Prog Host (Medium.Answer request) :=
  Host.request (.medium request)

end Host

/-- An operation on the medium, as one of the host. -/
def Action.onHost {σ α : Type} (action : Action Medium σ α) : Action Host σ α :=
  action.interpret Host.answer

end NodeLink

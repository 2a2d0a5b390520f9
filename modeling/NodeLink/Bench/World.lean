import NodeLink.Dictionary
import NodeLink.Host
import NodeLink.SharedMemory

/-! The surroundings of a bench: a shared memory whose accesses are logged and can be made to fail or to
be followed by other stores, and collaborators that note what they are asked and answer as they were
told to. -/

namespace NodeLink.Bench

inductive AccessKind where
  | load
  | store
  | loadChunk
  | storeChunk
  | fetch
  | storeBytes
  deriving DecidableEq, Repr

inductive AccessValue where
  | word (word : UInt32)
  | words (words : List UInt32)
  | bytes (bytes : Bytes)

/-- An access to the memory. One that failed has no value. -/
structure Access where
  kind : AccessKind
  address : Nat
  value : Option AccessValue

/-- Words by their index in the memory. -/
abbrev Pokes := List (Nat × UInt32)

/-- Watches accesses of one kind, at one address or at all. Of those it watches, it acts on `count`
after the first `skip`. -/
structure Hook where
  kind : AccessKind
  address : Option Nat
  skip : Nat
  count : Nat
  /-- Words stored after the access. -/
  pokes : Pokes
  /-- The error that stands for the access. -/
  failure : Option Error
  /-- Accesses watched so far. -/
  seen : Nat

namespace Hook

def watches (hook : Hook) (kind : AccessKind) (address : Nat) : Bool :=
  hook.kind = kind && hook.address.all (· == address)

/-- Whether the hook acts on the next access that it watches. -/
def strikes (hook : Hook) : Bool := hook.skip ≤ hook.seen && hook.seen < hook.skip + hook.count

end Hook

inductive Event where
  | service (channel : UInt8) (payload : Bytes)
  | frame (channel : UInt8) (frame : Safety.Frame)
  | log (entry : Logbook.Entry)
  | error (source : Source) (error : Error)
  | transmit (channel : UInt8) (payload : Bytes)
  | sent (message : Bytes)
  | objectWrite (object : ObjectRef) (value : Bytes)
  | enter
  | leave
  | beforeCycle
  | afterCycle
  | cycle
  | images (received transmitted : Bytes)

/-- What the application does in its cycle. -/
inductive CycleAction where
  /-- Set an object of the outgoing image to the value of one of the incoming image. -/
  | loop (source target : ObjectRef)
  | set (object : ObjectRef) (data : Bytes)
  | showImages
  | fail (error : Error)

structure Script where
  before : Option Error
  after : Option Error
  cycle : List CycleAction
  /-- The channels that handlers serve; absent, one handler serves all. -/
  routes : Option (List UInt8)

def Script.idle : Script := ⟨none, none, [], none⟩

structure World where
  memory : SharedMemory
  hooks : List Hook
  /-- Outcomes of the next frames given to the network. -/
  outcomes : List (Except Error Handoff)
  dictionary : Dictionary
  script : Script
  /-- Whether the bounds of the section are events. -/
  showSection : Bool
  /-- How often the application's cycle ran. -/
  cycles : Nat
  /-- Newest first. -/
  accesses : List Access
  events : List Event

namespace World

def poke (memory : SharedMemory) (pokes : Pokes) : SharedMemory :=
  { memory with
    words := pokes.foldl (fun words (index, word) => words.setIfInBounds index word) memory.words }

/-- Make an access under the hooks: the first failure among those that strike stands for it; or else,
if it succeeds, their pokes follow it. -/
def access {α : Type} (kind : AccessKind) (address : Nat) (refuse : Error → α)
    (make : SharedMemory → α × SharedMemory) (value : α → Option AccessValue) (world : World) :
    α × World :=
  let watching := fun hook : Hook => hook.watches kind address
  let striking := world.hooks.filter fun hook => watching hook && hook.strikes
  let hooks := world.hooks.map fun hook =>
    if watching hook then { hook with seen := hook.seen + 1 } else hook
  match striking.findSome? (·.failure) with
  | some error =>
    (refuse error, { world with hooks, accesses := ⟨kind, address, none⟩ :: world.accesses })
  | none =>
    let (answer, memory) := make world.memory
    let shown := value answer
    let memory :=
      if shown.isSome then striking.foldl (fun memory hook => poke memory hook.pokes) memory
      else memory
    (answer, { world with memory, hooks, accesses := ⟨kind, address, shown⟩ :: world.accesses })

def shownIf (value : AccessValue) : Except Error Unit → Option AccessValue
  | .ok () => some value
  | .error _ => none

def onBus : Handler Bus World
  | .load address =>
    access .load address .error (SharedMemory.onBus (.load address)) fun answer =>
      answer.toOption.map .word
  | .store address word =>
    access .store address .error (SharedMemory.onBus (.store address word)) (shownIf (.word word))
  | .loadChunk address =>
    access .loadChunk address .error (SharedMemory.onBus (.loadChunk address)) fun answer =>
      answer.toOption.map fun chunk => .words chunk.toList
  | .storeChunk address chunk =>
    access .storeChunk address .error (SharedMemory.onBus (.storeChunk address chunk))
      (shownIf (.words chunk.toList))

def onLink : Handler Link World
  | .fetch address size =>
    access .fetch address (⟨[], some ·⟩) (SharedMemory.onLink (.fetch address size))
      fun transfer => if transfer.failure.isSome then none else some (.bytes transfer.moved)
  | .store address bytes =>
    access .storeBytes address .error (SharedMemory.onLink (.store address bytes))
      (shownIf (.bytes bytes))

def note (event : Event) (world : World) : World := { world with events := event :: world.events }

/-- Give a frame to the network. -/
def transmit (channel : UInt8) (payload : Bytes) (world : World) : Except Error Handoff × World :=
  let world := world.note (.transmit channel payload)
  match world.outcomes with
  | [] => (.ok .queued, world)
  | outcome :: outcomes => (outcome, { world with outcomes })

/-- A refused object moves nothing. -/
def readObject (object : ObjectRef) (room : Nat) (world : World) : Host.Reading :=
  match world.dictionary.read object room with
  | .error code => ⟨[], .error code⟩
  | .ok value => ⟨value, .ok ()⟩

def writeObject (object : ObjectRef) (value : Bytes) (world : World) :
    Except AbortCode Unit × World :=
  let (result, dictionary) := world.dictionary.write object value
  (result, { world.note (.objectWrite object value) with dictionary })

/-- Go through the actions of a cycle, on a copy of the outgoing image. -/
def runCycle (received : ProcessData.Image) : (transmitted : ProcessData.Image) →
    List CycleAction → World → Host.Cycle × World
  | _, [], world => (⟨[], .ok ()⟩, world)
  | transmitted, action :: rest, world =>
    let set (object : ObjectRef) (data : Bytes) : Host.Cycle × World :=
      match transmitted.setObject object data with
      | .error error => (⟨[], .error error⟩, world)
      | .ok transmitted =>
        let (cycle, world) := runCycle received transmitted rest world
        ({ cycle with settings := (object, data) :: cycle.settings }, world)
    match action with
    | .loop source target =>
      match received.object source with
      | .error error => (⟨[], .error error⟩, world)
      | .ok data => set target data
    | .set object data => set object data
    | .showImages =>
      runCycle received transmitted rest (world.note (.images received.bytes transmitted.bytes))
    | .fail error => (⟨[], .error error⟩, world)

def resultOf : Option Error → Except Error Unit
  | none => .ok ()
  | some error => .error error

def onHost : Handler Host World
  | .medium request, world => (Bus.answer request).run onBus world
  | .readObject object room, world => (world.readObject object room, world)
  | .writeObject object value, world => world.writeObject object value
  | .transmit channel payload, world => world.transmit channel payload
  | .deliver channel payload, world => ((), world.note (.service channel payload))
  | .serves channel, world => (world.script.routes.all (·.contains channel), world)
  | .deliverFrame channel frame, world => ((), world.note (.frame channel frame))
  | .record entry, world => ((), world.note (.log entry))
  | .report source error, world => ((), world.note (.error source error))
  | .enter, world => ((), if world.showSection then world.note .enter else world)
  | .leave, world => ((), if world.showSection then world.note .leave else world)
  | .beforeCycle, world => (resultOf world.script.before, world.note .beforeCycle)
  | .afterCycle, world => (resultOf world.script.after, world.note .afterCycle)
  | .cycle received transmitted, world =>
    runCycle received transmitted world.script.cycle
      { world.note .cycle with cycles := world.cycles + 1 }

end World

end NodeLink.Bench

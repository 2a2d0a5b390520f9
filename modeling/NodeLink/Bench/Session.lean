import NodeLink.Bench.Command

/-! A bench's session: named items, timers, pools and dictionaries on one shared memory, and the effect
of each command on them. Pools and dictionaries are there, empty, once they are named. -/

namespace NodeLink.Bench

/-- Values by name. -/
abbrev Table (α : Type) := List (String × α)

namespace Table

variable {α : Type}

def get? (table : Table α) (name : String) : Option α := table.lookup name

def erase (table : Table α) (name : String) : Table α := table.filter (·.1 ≠ name)

def set (table : Table α) (name : String) (value : α) : Table α := (name, value) :: table.erase name

end Table

structure Session where
  memory : SharedMemory
  hooks : List Hook
  outcomes : List (Except Error Handoff)
  items : Table Item
  /-- Handles of timers, with the pool each one is from. -/
  timers : Table (String × TimerPool.Handle)
  pools : Table TimerPool
  dictionaries : Table Dictionary

/-- What a command did besides its reply. -/
structure Trace where
  events : List Event
  accesses : List Access

def Trace.none : Trace := ⟨[], []⟩

/-- What an operation finds around it. -/
structure Setting where
  dictionary : String
  script : Script
  showSection : Bool
  cycles : Nat

def Setting.plain : Setting := ⟨"od", .idle, false, 0⟩

def Setting.on (dictionary : String) : Setting := { Setting.plain with dictionary }

def Setting.routing (routes : Option (List UInt8)) : Setting :=
  { Setting.plain with script := { Script.idle with routes } }

namespace Session

/-- What a command leaves: the session, its reply, and what was seen of it. -/
abbrev Result := Session × Reply × Trace

def start (base : Nat) (words : Nat) : Session :=
  ⟨.zeroed base words, [], [], [], [], [], []⟩

def pool (session : Session) (name : String) : TimerPool := (session.pools.get? name).getD .empty

def setPool (session : Session) (name : String) (pool : TimerPool) : Session :=
  { session with pools := session.pools.set name pool }

def dictionary (session : Session) (name : String) : Dictionary :=
  (session.dictionaries.get? name).getD .empty

def setDictionary (session : Session) (name : String) (dictionary : Dictionary) : Session :=
  { session with dictionaries := session.dictionaries.set name dictionary }

def setItem (session : Session) (name : String) (item : Item) : Session :=
  { session with items := session.items.set name item }

def dropItem (session : Session) (name : String) : Session :=
  { session with items := session.items.erase name }

def find (session : Session) (name : String) {α : Type} (part : Part α) : Option (Item × α) := do
  let item ← session.items.get? name
  return (item, ← part.find item)

def quiet (session : Session) (reply : Reply) : Result := (session, reply, .none)

def world (session : Session) (setting : Setting) : World where
  memory := session.memory
  hooks := session.hooks
  outcomes := session.outcomes
  dictionary := session.dictionary setting.dictionary
  script := setting.script
  showSection := setting.showSection
  cycles := setting.cycles
  accesses := []
  events := []

/-- Take over what a run left of its surroundings. -/
def absorb (session : Session) (setting : Setting) (world : World) : Session × Trace :=
  let session := session.setDictionary setting.dictionary world.dictionary
  ({ session with memory := world.memory, hooks := world.hooks, outcomes := world.outcomes },
    ⟨world.events.reverse, world.accesses.reverse⟩)

def run (session : Session) (setting : Setting) {α : Type} (program : Prog Host α) :
    α × Session × World × Trace :=
  let (value, world) := program.run World.onHost (session.world setting)
  let (session, trace) := session.absorb setting world
  (value, session, world, trace)

section Replies

variable {α : Type}

def reply (ok : α → Reply) : Except Fault α → Reply
  | .ok value => ok value
  | .error fault => .fault fault

def replyError (ok : α → Reply) : Except Error α → Reply
  | .ok value => ok value
  | .error error => .fault (.error error)

def done (_ : α) : Reply := .done

end Replies

section Items

variable {α σ : Type}

/-- Run an operation on a part of an item. -/
def act (session : Session) (name : String) (setting : Setting) (part : Part σ)
    (action : Action Host σ α) (ok : α → Reply) : Result :=
  match session.find name part with
  | none => session.quiet .noObject
  | some (item, state) =>
    let ((result, state), session, _, trace) := session.run setting (action state)
    (session.setItem name (part.put state item), reply ok result, trace)

/-- Run an operation on a part of an item and a pool of timers. -/
def actTimed (session : Session) (name : String) (pool : String) (part : Part σ)
    (action : Action Host (σ × TimerPool) α) (ok : α → Reply) : Result :=
  match session.find name part with
  | none => session.quiet .noObject
  | some (item, state) =>
    let ((result, state, timers), session, _, trace) :=
      session.run .plain (action (state, session.pool pool))
    ((session.setPool pool timers).setItem name (part.put state item), reply ok result, trace)

/-- Change a part of an item, if the change is possible. -/
def change (session : Session) (name : String) (part : Part σ) (change : σ → Except Error σ) :
    Result :=
  match session.find name part with
  | none => session.quiet .noObject
  | some (item, state) =>
    match change state with
    | .error error => session.quiet (.fault (.error error))
    | .ok state => (session.setItem name (part.put state item)).quiet .done

/-- Look at a part of an item. -/
def view (session : Session) (name : String) (part : Part σ) (ok : σ → Reply) : Result :=
  match session.find name part with
  | none => session.quiet .noObject
  | some (_, state) => session.quiet (ok state)

/-- Keep an item that was made; one that could not be made leaves none of its name. -/
def keep (session : Session) (name : String) (made : Except Fault Item) : Session × Reply :=
  match made with
  | .error fault => (session.dropItem name, .fault fault)
  | .ok item => (session.setItem name item, .done)

/-- Run a program that makes an item. -/
def making (session : Session) (name : String) (program : Prog Host (Except Fault Item)) : Result :=
  let (made, session, _, trace) := session.run .plain program
  let (session, reply) := session.keep name made
  (session, reply, trace)

end Items

section Buffers

def onMedium {α : Type} (program : Prog Medium α) : Prog Host α := program.interpret Host.answer

def makeBuffer (session : Session) (name : String)
    (program : Prog Medium (Except Fault TripleBuffer)) : Result :=
  session.making name ((onMedium program).bind fun made => .done (made.map .buffer))

/-- Make a producer, attach a consumer, and keep the first and then the second. -/
def pair (session : Session) (descriptor : Descriptor) : Result :=
  let program := (onMedium (TripleBuffer.create .producer descriptor)).bind fun producer =>
    (onMedium (TripleBuffer.attach .consumer descriptor 0)).bind fun consumer =>
      .done (producer, consumer)
  let ((producer, consumer), session, _, trace) := session.run .plain program
  match producer, consumer with
  | .error fault, _ => (session, .fault fault, trace)
  | .ok producer, .error fault => (session.setItem "p" (.buffer producer), .fault fault, trace)
  | .ok producer, .ok consumer =>
    ((session.setItem "p" (.buffer producer)).setItem "c" (.buffer consumer), .done, trace)

/-- Attach over the link and make in turn the calls that an end there offers. -/
def remote (session : Session) (role : Role) (descriptor : Descriptor) (lastSeen : Sequence)
    (calls : List TripleBuffer.Call) : Result :=
  let operations := (calls.filterMap TripleBuffer.Remote.Call.ofBus?).map (·.perform)
  let program : Prog Medium Reply :=
    (TripleBuffer.Remote.attach role descriptor lastSeen).bind fun
      | .error fault => .done (.fault fault)
      | .ok buffer => (TripleBuffer.performEach operations buffer).bind fun (replies, buffer) =>
        .done (reply (.remote · buffer.lastSeen) replies)
  let (reply, world) := (program.interpret Link.answer).run World.onLink (session.world .plain)
  let (session, trace) := session.absorb .plain world
  (session, reply, trace)

/-- Make an end with a timer from a pool. -/
def makeTimed {σ : Type} (session : Session) (name : String) (pool : String) (item : σ → Item)
    (new : TimerPool → Except Error (σ × TimerPool)) : Result :=
  match new (session.pool pool) with
  | .error error => (session.dropItem name).quiet (.fault (.error error))
  | .ok (state, timers) => ((session.setPool pool timers).setItem name (item state)).quiet .done

/-- Make an end without a timer. -/
def makePlain {σ : Type} (session : Session) (name : String) (item : σ → Item)
    (made : Except Error σ) : Result :=
  let (session, reply) := session.keep name ((made.map item).mapError Fault.error)
  session.quiet reply

/-- Hand a buffer over to the end made of it. -/
def make (session : Session) (name : String) (making : Making) (bufferName : String) : Result :=
  match session.find bufferName .buffer with
  | none => session.quiet .noObject
  | some (_, buffer) =>
    let session := session.dropItem bufferName
    match making with
    | .sender channel => session.makePlain name .sender (Channel.Sender.new buffer channel)
    | .receiver =>
      session.makePlain name (fun receiver => .receiver ⟨receiver, none⟩)
        (Channel.Receiver.new buffer)
    | .statusProducer => session.makePlain name .statusProducer (Status.new .producer buffer)
    | .statusConsumer => session.makePlain name .statusConsumer (Status.new .consumer buffer)
    | .configurationProducer =>
      session.makePlain name .configurationProducer (ConfigurationChannel.Producer.new buffer)
    | .configurationConsumer =>
      session.makePlain name .configurationConsumer (ConfigurationChannel.Consumer.new buffer)
    | .pdoProducer => session.makePlain name .pdoProducer (ProcessData.Producer.new buffer)
    | .pdoConsumer => session.makePlain name .pdoConsumer (ProcessData.Consumer.new buffer)
    | .outboundProducer channel =>
      session.makePlain name .outboundProducer (Ssdo.Outbound.Producer.new buffer channel)
    | .outboundConsumer limit pool =>
      session.makeTimed name pool .outboundConsumer (Ssdo.Outbound.Consumer.new buffer limit)
    | .inboundProducer channel limit pool =>
      session.makeTimed name pool .inboundProducer (Ssdo.Inbound.Producer.new buffer channel limit)
    | .inboundConsumer =>
      session.makePlain name .inboundConsumer (Ssdo.Inbound.Consumer.new buffer)
    | .asyncSender channel => session.makePlain name .asyncSender (Async.Sender.new buffer channel)
    | .asyncReceiver => session.makePlain name .asyncReceiver (Async.Receiver.new buffer)
    | .logbookProducer limit pool =>
      session.makeTimed name pool .logbookProducer (Logbook.Producer.new buffer limit)
    | .logbookConsumer => session.makePlain name .logbookConsumer (Logbook.Consumer.new buffer)

end Buffers

section Channels

def poll (room : Nat) : Action Host Polling (Option Channel.Message) := do
  let message ← Action.part (·.receiver) (fun receiver polling => { polling with receiver })
    (Channel.Receiver.poll room).onHost
  if message.isSome then Action.modify fun polling => { polling with last := message }
  return message

/-- Acknowledge the message polled last. -/
def acknowledgeLast (session : Session) (name : String) : Result :=
  match session.find name .receiver with
  | some (_, ⟨_, some message⟩) =>
    session.act name .plain .receiver (Action.part (·.receiver)
      (fun receiver polling => { polling with receiver })
      (Channel.Receiver.acknowledge message).onHost) done
  | _ => session.quiet .noObject

def readPdo {σ : Type} (session : Session) (name : String) (part : Part σ)
    (image : σ → ProcessData.Image) (object : ObjectRef) : Result :=
  session.view name part fun state => replyError (.bytes ∘ some) ((image state).object object)

/-- Link the image at either end. -/
def linkPdo (session : Session) (name : String) (dictionary : String)
    (links : List ProcessData.Link) : Result :=
  let sizeOf := (session.dictionary dictionary).sizeOf
  match session.items.get? name with
  | some (.pdoProducer _) => session.change name .pdoProducer (·.link sizeOf links)
  | some (.pdoConsumer _) => session.change name .pdoConsumer (·.link sizeOf links)
  | _ => session.quiet .noObject

/-- Link a part of an item, keeping what an error leaves linked. -/
def linkWith {σ : Type} (session : Session) (name : String) (part : Part σ)
    (link : σ → Except Error Unit × σ) : Result :=
  match session.find name part with
  | none => session.quiet .noObject
  | some (item, state) =>
    let (result, state) := link state
    (session.setItem name (part.put state item)).quiet (replyError done result)

end Channels

section Safety

/-- Change bytes on the way out; an offset past the end changes none. -/
def flip (flips : List (Nat × UInt8)) (message : Bytes) : Bytes :=
  flips.foldl (fun message (offset, mask) => message.modify offset (· ^^^ mask)) message

/-- Send a message through the sender of another item, or note that it was sent. -/
def send (session : Session) (outlet : Outlet) (message : Bytes) : Result :=
  match outlet with
  | .via name => session.act name .plain .asyncSender (Async.Sender.transmit message).onHost done
  | .recorded outcome => (session, reply done outcome, ⟨[.sent message], []⟩)

def reachable (session : Session) : Outlet → Bool
  | .via name => (session.find name .asyncSender).isSome
  | .recorded _ => true

/-- Build a message and send it. -/
def postMessage (session : Session) (name : String) (format : Channel.Format) (slim : Bool)
    (address : UInt16) (id : UInt8) (data : Bytes) (outlet : Outlet) (flips : List (Nat × UInt8)) :
    Result :=
  match session.find name .builder with
  | none => session.quiet .noObject
  | some (_, builder) =>
    if session.reachable outlet then
      let (built, builder) := builder.build format slim address id data
      let session := session.setItem name (.builder builder)
      match built with
      | .error error => session.quiet (.fault (.error error))
      | .ok message => session.send outlet (flip flips message)
    else session.quiet .noObject

end Safety

section Timers

def timerNew (session : Session) (name : String) (limit : Nat) (pool : String) : Result :=
  match (session.pool pool).create limit with
  | .error error => session.quiet (.fault (.error error))
  | .ok (handle, timers) =>
    let session := session.setPool pool timers
    { session with timers := session.timers.set name (pool, handle) }.quiet .done

def TimerChange.apply : TimerChange → TimerPool → TimerPool.Handle → Except Error TimerPool
  | .start => TimerPool.start
  | .stop => TimerPool.stop
  | .tick => TimerPool.tick
  | .destroy => TimerPool.destroy

def timerChange (session : Session) (name : String) (change : TimerChange) (pool : Option String) :
    Result :=
  match session.timers.get? name with
  | none => session.quiet .noObject
  | some (own, handle) =>
    let pool := pool.getD own
    match TimerChange.apply change (session.pool pool) handle with
    | .error error => session.quiet (.fault (.error error))
    | .ok timers => (session.setPool pool timers).quiet .done

def timerPhase (session : Session) (name : String) (pool : Option String) : Result :=
  match session.timers.get? name with
  | none => session.quiet .noObject
  | some (own, handle) =>
    session.quiet (replyError .phase ((session.pool (pool.getD own)).phase handle))

def fifoTake (session : Session) (name : String) (room : Nat) : Result :=
  match session.find name .fifo with
  | none => session.quiet .noObject
  | some (_, fifo) =>
    match fifo.fifo.take room with
    | .error error => session.quiet (.taken (.error error) room)
    | .ok (element, rest) =>
      (session.setItem name (.fifo { fifo with fifo := rest })).quiet (.taken (.ok element) room)

end Timers

section Processors

def makeCommunication (session : Session) (name : String) (configuration : Configuration) :
    Result :=
  session.making name ((Side.Communication.init configuration ()).bind fun (made, _) =>
    .done (made.map .communication))

def makeApplication (session : Session) (name : String) (configuration : Configuration)
    (showSection : Bool) : Result :=
  session.making name ((Side.Application.init configuration ()).bind fun (made, _) =>
    .done (made.map fun side => .application ⟨side, .idle, showSection, 0⟩))

/-- Run an operation of an application processor, with its application around it. -/
def actStation {α : Type} (session : Session) (name : String)
    (action : Side.Application.Operation α) (ok : α → Reply) : Result :=
  match session.find name .application with
  | none => session.quiet .noObject
  | some (_, station) =>
    let setting := ⟨"od", station.script, station.showSection, station.cycles⟩
    let ((result, side), session, world, trace) := session.run setting (action station.side)
    (session.setItem name (.application { station with side, cycles := world.cycles }),
      reply ok result, trace)

/-- Let a processor's end take what the network brings. -/
def acceptInbound (arrival : Ssdo.Inbound.Arrival) : Action Host Ssdo.Inbound.Producer Unit :=
  fun producer =>
    match producer.accept arrival with
    | .error fault => .done (.error fault, producer)
    | .ok producer => .done (.ok (), producer)

def inboundOf : Part Ssdo.Inbound.Producer where
  find | .communication side => some side.inbound | _ => none
  put
    | inbound, .communication side => .communication { side with inbound }
    | _, item => item

def stationScript (session : Session) (name : String) (script : Script) : Result :=
  session.change name .application fun station => .ok { station with script }

end Processors

/-- The effect of a command. -/
def execute (session : Session) (name : String) : Command → Result
  | .poke pokes =>
    { session with memory := World.poke session.memory pokes }.quiet .done
  | .hook hook => { session with hooks := session.hooks ++ [hook] }.quiet .done
  | .unhook => { session with hooks := [] }.quiet .done
  | .drop => (session.dropItem name).quiet .done
  | .transport outcomes => { session with outcomes := session.outcomes ++ outcomes }.quiet .done
  | .create role descriptor => session.makeBuffer name (TripleBuffer.create role descriptor)
  | .attach role descriptor => session.makeBuffer name (TripleBuffer.attach role descriptor 0)
  | .pair descriptor => session.pair descriptor
  | .call call => session.act name .plain .buffer call.perform.onHost .call
  | .describe => session.view name .buffer .description
  | .remote role descriptor lastSeen calls => session.remote role descriptor lastSeen calls
  | .make making buffer => session.make name making buffer
  | .senderPost format data =>
    session.act name .plain .sender (Channel.Sender.post format data).onHost (.number ·.val)
  | .senderRepost number format data =>
    session.act name .plain .sender (Channel.Sender.repost number format data).onHost done
  | .senderReady => session.act name .plain .sender Channel.Sender.ready.onHost .flag
  | .senderChannel channel => session.change name .sender fun sender => .ok { sender with channel }
  | .senderRaw data =>
    session.act name .plain .sender (Channel.Sender.onBuffer (TripleBuffer.write data)).onHost
      (.number ·.toNat)
  | .receiverPoll room => session.act name .plain .receiver (poll room) .message
  | .receiverAcknowledge => session.acknowledgeLast name
  | .receiverRawAcknowledge seq =>
    session.act name .plain .receiver (Action.part (·.receiver)
      (fun receiver polling => { polling with receiver })
      (Channel.Receiver.onBuffer (TripleBuffer.acknowledge seq)).onHost) done
  | .statusState state => session.change name .statusProducer fun side => .ok (side.withState state)
  | .statusPublish timestamp =>
    session.act name .plain .statusProducer (Status.publish timestamp).onHost done
  | .statusRefresh => session.act name .plain .statusConsumer Status.refresh.onHost .flag
  | .configurationWrite object data =>
    session.act name .plain .configurationProducer
      (ConfigurationChannel.Producer.writeObject object data).onHost done
  | .configurationPost =>
    session.act name .plain .configurationProducer ConfigurationChannel.Producer.process.onHost done
  | .configurationLink dictionary links =>
    session.linkWith name .configurationConsumer
      (·.link (session.dictionary dictionary).sizeOf links)
  | .configurationApply dictionary =>
    session.act name (.on dictionary) .configurationConsumer ConfigurationChannel.Consumer.process
      .objectWrite
  | .pdoLink dictionary links => session.linkPdo name dictionary links
  | .pdoSet object data => session.change name .pdoProducer (·.setObject object data)
  | .pdoCopyFrom dictionary =>
    session.act name (.on dictionary) .pdoProducer ProcessData.Producer.copyFrom done
  | .pdoFinish => session.change name .pdoProducer fun producer => .ok producer.finish
  | .pdoPublish => session.act name .plain .pdoProducer ProcessData.Producer.publish.onHost .flag
  | .pdoRefresh => session.act name .plain .pdoConsumer ProcessData.Consumer.refresh.onHost .flag
  | .pdoObject object => session.readPdo name .pdoConsumer (·.image) object
  | .pdoCopyTo dictionary =>
    session.act name (.on dictionary) .pdoConsumer ProcessData.Consumer.copyTo done
  | .outboundPost data =>
    session.act name .plain .outboundProducer (Ssdo.Outbound.Producer.post data).onHost done
  | .outboundReady =>
    session.act name .plain .outboundProducer Ssdo.Outbound.Producer.ready.onHost .flag
  | .outboundProcess pool =>
    session.actTimed name pool .outboundConsumer Ssdo.Outbound.Consumer.process done
  | .outboundFinish => session.change name .outboundConsumer Ssdo.Outbound.Consumer.finish
  | .outboundTick pool =>
    session.actTimed name pool .outboundConsumer Ssdo.Outbound.Consumer.tick done
  | .inboundAccept arrival => session.act name .plain .inboundProducer (acceptInbound arrival) done
  | .inboundProcess pool =>
    session.actTimed name pool .inboundProducer Ssdo.Inbound.Producer.process.onHost done
  | .inboundTick pool =>
    session.actTimed name pool .inboundProducer Ssdo.Inbound.Producer.tick.onHost done
  | .inboundDeliver =>
    session.act name .plain .inboundConsumer Ssdo.Inbound.Consumer.process .flag
  | .asyncPost format data =>
    session.act name .plain .ownAsyncSender (Async.Sender.post format data).onHost done
  | .asyncTransmit data =>
    session.act name .plain .asyncSender (Async.Sender.transmit data).onHost done
  | .asyncReady => session.act name .plain .asyncSender Async.Sender.ready.onHost .flag
  | .asyncChannel channel =>
    session.change name .asyncSender fun sender => .ok (sender.onChannel channel)
  | .asyncRegister channel => session.change name .asyncReceiver (·.register channel)
  | .asyncProcess routes =>
    session.act name (.routing routes) .ownAsyncReceiver Async.Receiver.process .flag
  | .builderNew => (session.setItem name (.builder .new)).quiet .done
  | .builderTimebase timebase =>
    session.change name .builder fun builder => .ok (builder.withTimebase timebase)
  | .builderBuild format slim address id data =>
    session.act name .plain .builder (Action.update (·.build format slim address id data))
      (.number ·.length)
  | .builderPost format slim address id data outlet flips =>
    session.postMessage name format slim address id data outlet flips
  | .logbookPost entry pool =>
    session.actTimed name pool .logbookProducer (Logbook.Producer.post entry).onHost done
  | .logbookTick pool =>
    session.actTimed name pool .logbookProducer Logbook.Producer.tick.onHost done
  | .logbookReady =>
    session.act name .plain .logbookProducer (Action.part (·.sender)
      (fun sender producer => { producer with sender }) Channel.Sender.ready).onHost .flag
  | .logbookProcess => session.act name .plain .logbookConsumer Logbook.Consumer.process .flag
  | .timerNew limit pool => session.timerNew name limit pool
  | .timerChange change pool => session.timerChange name change pool
  | .timerPhase pool => session.timerPhase name pool
  | .poolAvailable pool => session.quiet (.number (session.pool pool).available)
  | .fifoNew capacity largest elementSize =>
    session.makePlain name (fun fifo => .fifo ⟨capacity, largest, fifo⟩)
      (ElementFifo.new elementSize)
  | .fifoInsert data =>
    session.change name .fifo fun fifo =>
      (fifo.fifo.insert data).map fun next => { fifo with fifo := next }
  | .fifoTake room => session.fifoTake name room
  | .fifoPeek => session.view name .fifo fun fifo => .bytes fifo.fifo.peek?
  | .fifoDiscard =>
    session.change name .fifo fun fifo =>
      fifo.fifo.discard.map fun next => { fifo with fifo := next }
  | .fifoFlush => session.change name .fifo fun fifo => .ok { fifo with fifo := fifo.fifo.flush }
  | .dictionarySet dictionary entries =>
    (session.setDictionary dictionary
      (entries.foldl Dictionary.insert (session.dictionary dictionary))).quiet .done
  | .dictionaryErase dictionary object =>
    (session.setDictionary dictionary ((session.dictionary dictionary).erase object)).quiet .done
  | .dictionaryDump dictionary => session.quiet (.entries (session.dictionary dictionary).entries)
  | .communicationInit configuration => session.makeCommunication name configuration
  | .communicationLink dictionary receivePdo transmitPdo objects =>
    session.linkWith name .communication
      (·.link (session.dictionary dictionary).sizeOf receivePdo transmitPdo objects)
  | .communicationCycle dictionary timestamp =>
    session.act name (.on dictionary) .communication (Side.Communication.cycle timestamp) done
  | .communicationPoll dictionary routes =>
    session.act name { Setting.routing routes with dictionary } .communication
      Side.Communication.poll done
  | .communicationAccept arrival => session.act name .plain inboundOf (acceptInbound arrival) done
  | .communicationFinish =>
    session.change name .communication fun side =>
      side.outbound.finish.map fun outbound => { side with outbound }
  | .communicationState state =>
    session.change name .communication fun side =>
      .ok { side with status := side.status.withState state }
  | .applicationInit configuration showSection =>
    session.makeApplication name configuration showSection
  | .applicationLink dictionary receivePdo transmitPdo =>
    let sizeOf := (session.dictionary dictionary).sizeOf
    session.linkWith name .application fun station =>
      let (result, side) := station.side.link sizeOf receivePdo transmitPdo
      (result, { station with side })
  | .applicationCycle => session.actStation name Side.Application.cycle done
  | .applicationPoll => session.actStation name Side.Application.poll done
  | .applicationPost data =>
    session.actStation name (Side.Application.onOutbound (Ssdo.Outbound.Producer.post data)) done
  | .applicationWrite object data =>
    session.actStation name (Side.Application.onConfiguration
      (ConfigurationChannel.Producer.writeObject object data)) done
  | .applicationLog entry =>
    session.actStation name (Side.Application.onLogbook (Logbook.Producer.post entry)) done
  | .applicationObject object => session.readPdo name .application (·.side.receivePdo.image) object
  | .applicationScript script => session.stationScript name script

end Session

/-- What is seen of a step. -/
structure Observation where
  reply : Reply
  /-- The item of the step's name, after it. -/
  item : Option Item
  /-- The words that changed, by index. -/
  changes : List (Nat × UInt32)
  trace : Trace

/-- The words of a memory that differ from those it had. -/
def changes (before after : Array UInt32) : List (Nat × UInt32) :=
  (before.toList.zip after.toList).zipIdx.filterMap fun ((old, new), index) =>
    if old = new then none else some (index, new)

def Session.step (session : Session) (step : Step) : Session × Observation :=
  let (next, reply, trace) := session.execute step.name step.command
  (next, {
    reply := reply
    item := next.items.get? step.name
    changes := changes session.memory.words next.memory.words
    trace := trace
  })

end NodeLink.Bench

import NodeLink.Queue
import NodeLink.Ssdo.Outbound

/-! Service frames from the network to the application. The communication processor queues frames and
writes the oldest one until the application acknowledges it; that frame is then kept, so that it can
be written again when the network asks for it. The application delivers a frame once, however often it
is written. -/

namespace NodeLink.Ssdo.Inbound

def queueDepth : Nat := 4

/-- A frame and the number that the network gave it. -/
structure QueuedFrame where
  seq : UInt8
  payload : Bytes
  deriving DecidableEq, Repr

/-- What the network brings: a frame, or the request to have the frame of that number again. -/
structure Arrival where
  seq : UInt8
  retry : Bool
  payload : Bytes
  deriving DecidableEq, Repr

inductive Phase where
  | waitForFrame
  | waitForAcknowledge
  | repostFrame
  deriving DecidableEq, Repr

/-- What the buffer carries for which an acknowledge is awaited. -/
inductive Pending where
  | nothing
  | head (number : Channel.MessageNumber)
  | acknowledged
  deriving DecidableEq, Repr

/-- The communication processor's end. -/
structure Producer where
  sender : Channel.Sender
  phase : Phase
  queue : Queue QueuedFrame queueDepth
  /-- The frame that the application acknowledged last, and the number of its message. -/
  acknowledged : Option (Channel.MessageNumber × QueuedFrame)
  /-- The network's number of the last frame accepted. -/
  lastSeq : Option UInt8
  pending : Pending
  repostRequested : Bool
  timer : TimerPool.Handle

namespace Producer

/-- The end and the pool of timers it shares with others. -/
abbrev State := Producer × TimerPool

def new (buffer : TripleBuffer) (channel : UInt8) (ackTimeout : Nat) (pool : TimerPool) :
    Except Error State := do
  let sender ← Channel.Sender.new buffer channel
  let (timer, pool) ← pool.create ackTimeout
  return ({
    sender := sender
    phase := .waitForFrame
    queue := .empty
    acknowledged := none
    lastSeq := none
    pending := .nothing
    repostRequested := false
    timer := timer
  }, pool)

def lastAcknowledged (producer : Producer) : Option Bytes :=
  producer.acknowledged.map fun (_, frame) => frame.payload

/-- Note that the network wants the acknowledged frame again. -/
def requestRepost (producer : Producer) : Producer :=
  if producer.phase = .waitForFrame then { producer with phase := .repostFrame }
  else { producer with repostRequested := true }

/-- Put a new frame into the queue. -/
def enqueue (producer : Producer) (arrival : Arrival) : Except Fault Producer :=
  match producer.queue.push? ⟨arrival.seq, arrival.payload⟩ with
  | none => .error .busy
  | some queue => .ok { producer with queue, lastSeq := some arrival.seq }

/-- Take what the network brings. Busy when the queue is full. A request for any but the acknowledged
frame, and a frame that comes twice in a row, change nothing. -/
def accept (producer : Producer) (arrival : Arrival) : Except Fault Producer :=
  if maxPayload < arrival.payload.length then .error (.error .payloadTooLarge)
  else if arrival.retry then
    if producer.acknowledged.any fun (_, frame) => frame.seq == arrival.seq then
      .ok producer.requestRepost
    else .ok producer
  else if producer.lastSeq = some arrival.seq then .ok producer
  else producer.enqueue arrival

def onSender {α : Type} : Channel.Sender.Operation α → Action Medium State α :=
  Action.part (·.1.sender) fun sender state => ({ state.1 with sender }, state.2)

abbrev onTimer (change : TimerPool → TimerPool.Handle → Except Error TimerPool) :
    Action Medium State Unit := Action.onTimer Producer.timer change

def change (change : Producer → Producer) : Action Medium State Unit :=
  Action.modify fun (producer, pool) => (change producer, pool)

def enter (phase : Phase) : Action Medium State Unit :=
  change fun producer => { producer with phase }

/-- Wait for an acknowledge from now on. -/
def await : Action Medium State Unit := do
  onTimer TimerPool.start
  enter .waitForAcknowledge

def format : UInt8 := Channel.Format.serviceData.toByte

/-- Write the frame that waits for its acknowledge again, or else the acknowledged frame. -/
def repost : Action Medium State Unit := do
  let producer := (← Action.get).1
  match producer.pending, producer.acknowledged with
  | .head number, _ =>
    match producer.queue.head? with
    | none => Action.fail (.error .fifoEmpty)
    | some frame =>
      onSender (Channel.Sender.repost number format frame.payload)
      await
  | _, some (number, frame) =>
    onSender (Channel.Sender.repost number format frame.payload)
    change fun producer => { producer with pending := .acknowledged }
    await
  | _, none => enter .waitForFrame

/-- Write the oldest frame. -/
def postHead : Action Medium State Unit := do
  match (← Action.get).1.queue.head? with
  | none => return
  | some frame =>
    let number ← onSender (Channel.Sender.post format frame.payload)
    change fun producer => { producer with pending := .head number }
    await

/-- Keep the frame that was acknowledged and no longer queue it. -/
def settle : Action Medium State Unit := do
  onTimer TimerPool.stop
  let producer := (← Action.get).1
  match producer.pending with
  | .head number =>
    match producer.queue.head? with
    | none => Action.fail (.error .fifoEmpty)
    | some frame =>
      change fun producer =>
        { producer with queue := producer.queue.tail, acknowledged := some (number, frame) }
  | _ => pure ()
  change fun producer => { producer with pending := .nothing }
  enter .waitForFrame

def awaitAcknowledge : Action Medium State Unit := do
  if ← onSender Channel.Sender.ready then settle
  else
    let (producer, pool) ← Action.get
    match ← Action.ofExcept (pool.phase producer.timer) with
    | .expired =>
      enter .repostFrame
      repost
    | _ => Action.fail .busy

def process : Action Medium State Unit := do
  let producer := (← Action.get).1
  match producer.phase with
  | .waitForFrame =>
    if producer.repostRequested then
      change fun producer => { producer with repostRequested := false }
      enter .repostFrame
      repost
    else postHead
  | .waitForAcknowledge => awaitAcknowledge
  | .repostFrame => repost

/-- Count a cycle. -/
def tick : Action Medium State Unit := onTimer TimerPool.tick

end Producer

/-- The application's end. -/
structure Consumer where
  receiver : Channel.Receiver
  deriving DecidableEq

namespace Consumer

def new (buffer : TripleBuffer) : Except Error Consumer := (⟨·⟩) <$> Channel.Receiver.new buffer

def onReceiver {α : Type} (operation : Channel.Receiver.Operation α) : Action Host Consumer α :=
  Action.part (·.receiver) (fun receiver consumer => { consumer with receiver }) operation.onHost

/-- Deliver a fresh frame and acknowledge it. A frame written again is acknowledged alone. Returns
whether one was delivered. -/
def process : Action Host Consumer Bool := do
  match ← onReceiver (Channel.Receiver.poll Channel.maxMessage) with
  | none => return false
  | some message =>
    if !message.duplicate then
      Action.ask (Host.deliver message.header.channel message.payload)
    onReceiver (Channel.Receiver.acknowledge message)
    return !message.duplicate

end Consumer

end NodeLink.Ssdo.Inbound

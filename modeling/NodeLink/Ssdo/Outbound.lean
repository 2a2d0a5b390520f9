import NodeLink.Channel.Receiver
import NodeLink.Channel.Sender
import NodeLink.Host
import NodeLink.Timer

/-! Service frames from the application to the network. The communication processor takes one frame at
a time, offers it until the network takes or refuses it, and acknowledges it once it was sent or
dropped. A frame whose peer address is unknown is offered again on a timer, at most three times. -/

namespace NodeLink.Ssdo

def maxPayload : Nat := 256

namespace Outbound

def maxRetries : Nat := 3

/-- The application's end. -/
structure Producer where
  sender : Channel.Sender
  deriving DecidableEq

namespace Producer

def new (buffer : TripleBuffer) (channel : UInt8) : Except Error Producer :=
  (⟨·⟩) <$> Channel.Sender.new buffer channel

def onSender {α : Type} : Channel.Sender.Operation α → Action Medium Producer α :=
  Action.part (·.sender) fun sender producer => { producer with sender }

/-- Post a frame. Busy until the frame before was sent or dropped. -/
def post (payload : Bytes) : Action Medium Producer Unit := do
  if maxPayload < payload.length then Action.fail (.error .payloadTooLarge)
  else
    let _ ← onSender (Channel.Sender.post Channel.Format.serviceData.toByte payload)

def ready : Action Medium Producer Bool := onSender Channel.Sender.ready

end Producer

inductive Phase where
  | waitForFrame
  | offerFrame
  | waitUntilSent
  | waitForRetry
  | sent
  deriving DecidableEq, Repr

/-- The communication processor's end, with the pool that its timer is in. -/
structure Consumer where
  receiver : Channel.Receiver
  phase : Phase
  /-- The frame taken from the buffer and not yet acknowledged. -/
  frame : Option Channel.Message
  timer : TimerPool.Handle
  /-- How often the frame was offered again. -/
  retries : Nat
  deriving DecidableEq

namespace Consumer

/-- The end and the pool of timers it shares with others. -/
abbrev State := Consumer × TimerPool

def new (buffer : TripleBuffer) (retryCycles : Nat) (pool : TimerPool) : Except Error State := do
  let receiver ← Channel.Receiver.new buffer
  let (timer, pool) ← pool.create retryCycles
  return (⟨receiver, .waitForFrame, none, timer, 0⟩, pool)

def onReceiver {α : Type} (operation : Channel.Receiver.Operation α) : Action Host State α :=
  Action.part (·.1.receiver) (fun receiver state => ({ state.1 with receiver }, state.2))
    operation.onHost

abbrev onTimer (change : TimerPool → TimerPool.Handle → Except Error TimerPool) :
    Action Host State Unit := Action.onTimer Consumer.timer change

def change (change : Consumer → Consumer) : Action Host State Unit :=
  Action.modify fun (consumer, pool) => (change consumer, pool)

def enter (phase : Phase) : Action Host State Unit := change fun consumer => { consumer with phase }

/-- Acknowledge the current frame, and wait for the next one. -/
def release : Action Host State Unit := do
  let frame := (← Action.get).1.frame
  change fun consumer => { consumer with frame := none }
  if let some message := frame then onReceiver (Channel.Receiver.acknowledge message)
  change fun consumer => { consumer with retries := 0 }
  onTimer TimerPool.stop
  enter .waitForFrame

/-- Go on after the network's answer to an offer. -/
def settle (answer : Except Error Handoff) : Action Host State Unit := do
  match answer with
  | .ok .queued =>
    onTimer TimerPool.stop
    enter .waitUntilSent
  | .ok .addressPending =>
    if (← Action.get).1.retries < maxRetries then
      change fun consumer => { consumer with retries := consumer.retries + 1 }
      onTimer TimerPool.start
      enter .waitForRetry
      Action.fail .busy
    else
      release
      Action.fail (.error .transport)
  | .error error =>
    release
    Action.fail (.error error)

/-- Offer the current frame to the network. -/
def offer : Action Host State Unit := do
  match (← Action.get).1.frame with
  | none => enter .waitForFrame
  | some message =>
    settle (← Action.ask (Host.transmit message.header.channel message.payload))

/-- Take a fresh frame and offer it. One that was seen before is acknowledged and dropped. -/
def takeFrame : Action Host State Unit := do
  match ← onReceiver (Channel.Receiver.poll Channel.maxMessage) with
  | none => return
  | some message =>
    if message.duplicate then onReceiver (Channel.Receiver.acknowledge message)
    else
      change fun consumer => { consumer with frame := some message }
      enter .offerFrame
      offer

def process : Action Host State Unit := do
  let (consumer, pool) ← Action.get
  match consumer.phase with
  | .waitForFrame => takeFrame
  | .offerFrame => offer
  | .waitForRetry =>
    match ← Action.ofExcept (pool.phase consumer.timer) with
    | .expired =>
      enter .offerFrame
      offer
    | _ => Action.fail .busy
  | .waitUntilSent => Action.fail .busy
  | .sent => release

/-- The network sent the frame. -/
def finish (consumer : Consumer) : Except Error Consumer :=
  if consumer.phase = .waitUntilSent then .ok { consumer with phase := .sent }
  else .error .invalidOperation

/-- Count a cycle. -/
def tick : Action Host State Unit := onTimer TimerPool.tick

end Consumer

end Outbound

end NodeLink.Ssdo

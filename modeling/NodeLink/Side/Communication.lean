import NodeLink.Async.Receiver
import NodeLink.Async.Sender
import NodeLink.ConfigurationChannel.Consumer
import NodeLink.Logbook.Consumer
import NodeLink.ProcessData.Consumer
import NodeLink.Side.Report
import NodeLink.Ssdo.Inbound
import NodeLink.Status

/-! The communication processor: it makes every buffer and drives its ends of them, in every fieldbus
cycle and from its main loop. -/

namespace NodeLink.Side

structure Communication where
  status : Status.End
  configuration : ConfigurationChannel.Consumer
  receivePdo : ProcessData.Producer
  transmitPdo : ProcessData.Consumer
  outbound : Ssdo.Outbound.Consumer
  inbound : Ssdo.Inbound.Producer
  asyncTransmit : Async.Receiver
  asyncReceive : Async.Sender
  logbook : Logbook.Consumer
  timers : TimerPool

namespace Communication

abbrev Operation := Action Host Communication

/-- Make the buffer of an id in the shared memory. -/
def createBuffer (configuration : Configuration) (id : BufferId) :
    Prog Host (Except Fault TripleBuffer) :=
  match configuration.required id with
  | .error error => .done (.error (.error error))
  | .ok descriptor =>
    (TripleBuffer.create (id.roleOf .communication) descriptor).interpret Host.answer

/-- Make a buffer, then the end that it is for. -/
def build {α : Type} (configuration : Configuration) (id : BufferId)
    (new : TripleBuffer → Except Error α) : Action Host Unit α := do
  let buffer ← fun state =>
    (createBuffer configuration id).bind fun result => .done (result, state)
  Action.ofExcept (new buffer)

/-- Make every buffer. The first that cannot be made fails the whole. -/
def init (configuration : Configuration) : Action Host Unit Communication := do
  let (outbound, timers) ← build configuration .ssdoTransmit
    (Ssdo.Outbound.Consumer.new · configuration.addressRetryCycles .empty)
  let (inbound, timers) ← build configuration .ssdoReceive
    (Ssdo.Inbound.Producer.new · configuration.ssdoChannel configuration.ssdoAckTimeout timers)
  let status ← build configuration .status (Status.new .producer)
  let objects ← build configuration .configuration ConfigurationChannel.Consumer.new
  let receivePdo ← build configuration .receivePdo ProcessData.Producer.new
  let transmitPdo ← build configuration .transmitPdo ProcessData.Consumer.new
  let asyncTransmit ← build configuration .asyncTransmit Async.Receiver.new
  let asyncReceive ← build configuration .asyncReceive
    (Async.Sender.new · configuration.asyncChannel)
  let logbook ← build configuration .logbook Logbook.Consumer.new
  return {
    status := status
    configuration := objects
    receivePdo := receivePdo
    transmitPdo := transmitPdo
    outbound := outbound
    inbound := inbound
    asyncTransmit := asyncTransmit
    asyncReceive := asyncReceive
    logbook := logbook
    timers := timers
  }

section Parts

variable {α : Type}

def onStatus (action : Action Medium Status.End α) : Operation α :=
  Action.part (·.status) (fun status side => { side with status }) action.onHost

def onReceivePdo (action : Action Host ProcessData.Producer α) : Operation α :=
  Action.part (·.receivePdo) (fun receivePdo side => { side with receivePdo }) action

def onTransmitPdo (action : Action Host ProcessData.Consumer α) : Operation α :=
  Action.part (·.transmitPdo) (fun transmitPdo side => { side with transmitPdo }) action

def onOutbound (action : Action Host Ssdo.Outbound.Consumer.State α) : Operation α :=
  Action.part (fun side => (side.outbound, side.timers))
    (fun (outbound, timers) side => { side with outbound, timers }) action

def onInbound (action : Action Medium Ssdo.Inbound.Producer.State α) : Operation α :=
  Action.part (fun side => (side.inbound, side.timers))
    (fun (inbound, timers) side => { side with inbound, timers }) action.onHost

def onConfiguration (action : Action Host ConfigurationChannel.Consumer α) : Operation α :=
  Action.part (·.configuration) (fun configuration side => { side with configuration }) action

def onAsyncTransmit (action : Action Host Async.Receiver α) : Operation α :=
  Action.part (·.asyncTransmit) (fun asyncTransmit side => { side with asyncTransmit }) action

def onAsyncReceive (action : Async.Sender.Operation α) : Operation α :=
  Action.part (·.asyncReceive) (fun asyncReceive side => { side with asyncReceive }) action.onHost

def onLogbook (action : Action Host Logbook.Consumer α) : Operation α :=
  Action.part (·.logbook) (fun logbook side => { side with logbook }) action

end Parts

/-- Link the process images and the accepted objects. Tables before the first wrong one stay linked. -/
def link (sizeOf : ObjectRef → Option Nat) (receivePdo transmitPdo : List ProcessData.Link)
    (objects : List ConfigurationChannel.Link) (side : Communication) :
    Except Error Unit × Communication :=
  match side.receivePdo.link sizeOf receivePdo with
  | .error error => (.error error, side)
  | .ok producer =>
    let side := { side with receivePdo := producer }
    match side.transmitPdo.link sizeOf transmitPdo with
    | .error error => (.error error, side)
    | .ok consumer =>
      let (result, configuration) := side.configuration.link sizeOf objects
      (result, { side with transmitPdo := consumer, configuration })

/-- Publish the image that the dictionary gives. -/
def publishImage : Action Host ProcessData.Producer Bool := do
  ProcessData.Producer.copyFrom
  Action.modify ProcessData.Producer.finish
  ProcessData.Producer.publish.onHost

/-- The work of a fieldbus cycle. -/
def cycle (timestamp : UInt64) : Operation Unit := do
  reportOn .status (onStatus (Status.publish timestamp))
  reportOn .receivePdo (onReceivePdo publishImage)
  let refreshed ← report (.buffer .transmitPdo) (onTransmitPdo ProcessData.Consumer.refresh.onHost)
  if refreshed = some true then
    reportOn .transmitPdo (onTransmitPdo ProcessData.Consumer.copyTo)
  reportOn .ssdoTransmit (onOutbound Ssdo.Outbound.Consumer.tick)
  reportOn .ssdoReceive (onInbound Ssdo.Inbound.Producer.tick)

/-- The work of the main loop. -/
def poll : Operation Unit := do
  reportOn .ssdoTransmit (onOutbound Ssdo.Outbound.Consumer.process)
  reportOn .ssdoReceive (onInbound Ssdo.Inbound.Producer.process)
  reportOn .configuration (onConfiguration ConfigurationChannel.Consumer.process)
  reportOn .asyncTransmit (onAsyncTransmit Async.Receiver.process)
  reportOn .logbook (onLogbook Logbook.Consumer.process)

end Communication

end NodeLink.Side

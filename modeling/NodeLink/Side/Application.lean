import NodeLink.Async.Receiver
import NodeLink.Async.Sender
import NodeLink.ConfigurationChannel.Producer
import NodeLink.Logbook.Producer
import NodeLink.ProcessData.Consumer
import NodeLink.Side.Report
import NodeLink.Ssdo.Inbound
import NodeLink.Status

/-! The application processor: it attaches to the buffers that the other one made. In a cycle the
application runs between taking one process image and publishing the other, and only on an image that
could be read. -/

namespace NodeLink.Side

structure Application where
  status : Status.End
  configuration : ConfigurationChannel.Producer
  receivePdo : ProcessData.Consumer
  transmitPdo : ProcessData.Producer
  outbound : Ssdo.Outbound.Producer
  inbound : Ssdo.Inbound.Consumer
  asyncTransmit : Async.Sender
  asyncReceive : Async.Receiver
  logbook : Logbook.Producer
  timers : TimerPool

namespace Application

abbrev Operation := Action Host Application

/-- Attach to the buffer of an id. -/
def attachBuffer (configuration : Configuration) (id : BufferId) :
    Prog Host (Except Fault TripleBuffer) :=
  match configuration.required id with
  | .error error => .done (.error (.error error))
  | .ok descriptor =>
    (TripleBuffer.attach (id.roleOf .application) descriptor 0).interpret Host.answer

/-- Attach to a buffer, then make the end that it is for. -/
def build {α : Type} (configuration : Configuration) (id : BufferId)
    (new : TripleBuffer → Except Error α) : Action Host Unit α := do
  let buffer ← fun state =>
    (attachBuffer configuration id).bind fun result => .done (result, state)
  Action.ofExcept (new buffer)

/-- Attach to every buffer. The first that does not fit fails the whole. -/
def init (configuration : Configuration) : Action Host Unit Application := do
  let status ← build configuration .status (Status.new .consumer)
  let objects ← build configuration .configuration ConfigurationChannel.Producer.new
  let receivePdo ← build configuration .receivePdo ProcessData.Consumer.new
  let transmitPdo ← build configuration .transmitPdo ProcessData.Producer.new
  let outbound ← build configuration .ssdoTransmit
    (Ssdo.Outbound.Producer.new · configuration.ssdoChannel)
  let inbound ← build configuration .ssdoReceive Ssdo.Inbound.Consumer.new
  let asyncTransmit ← build configuration .asyncTransmit
    (Async.Sender.new · configuration.asyncChannel)
  let asyncReceive ← build configuration .asyncReceive Async.Receiver.new
  let (logbook, timers) ← build configuration .logbook
    (Logbook.Producer.new · configuration.logbookTimeout .empty)
  return {
    status := status
    configuration := objects
    receivePdo := receivePdo
    transmitPdo := transmitPdo
    outbound := outbound
    inbound := inbound
    asyncTransmit := asyncTransmit
    asyncReceive := asyncReceive
    logbook := logbook
    timers := timers
  }

section Parts

variable {α : Type}

def onStatus (action : Action Medium Status.End α) : Operation α :=
  Action.part (·.status) (fun status side => { side with status }) action.onHost

def onConfiguration (action : ConfigurationChannel.Producer.Operation α) : Operation α :=
  Action.part (·.configuration) (fun configuration side => { side with configuration })
    action.onHost

def onReceivePdo (action : Action Medium ProcessData.Consumer α) : Operation α :=
  Action.part (·.receivePdo) (fun receivePdo side => { side with receivePdo }) action.onHost

def onTransmitPdo (action : Action Medium ProcessData.Producer α) : Operation α :=
  Action.part (·.transmitPdo) (fun transmitPdo side => { side with transmitPdo }) action.onHost

def onOutbound (action : Action Medium Ssdo.Outbound.Producer α) : Operation α :=
  Action.part (·.outbound) (fun outbound side => { side with outbound }) action.onHost

def onInbound (action : Action Host Ssdo.Inbound.Consumer α) : Operation α :=
  Action.part (·.inbound) (fun inbound side => { side with inbound }) action

def onAsyncTransmit (action : Async.Sender.Operation α) : Operation α :=
  Action.part (·.asyncTransmit) (fun asyncTransmit side => { side with asyncTransmit })
    action.onHost

def onAsyncReceive (action : Action Host Async.Receiver α) : Operation α :=
  Action.part (·.asyncReceive) (fun asyncReceive side => { side with asyncReceive }) action

def onLogbook (action : Action Medium Logbook.Producer.State α) : Operation α :=
  Action.part (fun side => (side.logbook, side.timers))
    (fun (logbook, timers) side => { side with logbook, timers }) action.onHost

end Parts

/-- Link the process images. The first table stays linked if the second is wrong. -/
def link (sizeOf : ObjectRef → Option Nat) (receivePdo transmitPdo : List ProcessData.Link)
    (side : Application) : Except Error Unit × Application :=
  match side.receivePdo.link sizeOf receivePdo with
  | .error error => (.error error, side)
  | .ok consumer =>
    let side := { side with receivePdo := consumer }
    match side.transmitPdo.link sizeOf transmitPdo with
    | .error error => (.error error, side)
    | .ok producer => (.ok (), { side with transmitPdo := producer })

/-- Set objects one after the other; one that cannot be set is left out. -/
def settle (producer : ProcessData.Producer) : List (ObjectRef × Bytes) → ProcessData.Producer
  | [] => producer
  | (object, data) :: rest =>
    settle ((producer.setObject object data).toOption.getD producer) rest

/-- Let the application compute one image from the other, and publish it. -/
def exchange : Operation Unit := do
  let side ← Action.get
  let cycle ← Action.ask (Host.cycle side.receivePdo.image side.transmitPdo.image)
  Action.modify fun side => { side with transmitPdo := settle side.transmitPdo cycle.settings }
  Action.ofExcept cycle.result
  Action.modify fun side => { side with transmitPdo := side.transmitPdo.finish }
  reportOn .transmitPdo (onTransmitPdo ProcessData.Producer.publish)

/-- What is left of a cycle once the application ran or was passed over. -/
def closeCycle : Operation Unit := do
  reportOn .logbook (onLogbook Logbook.Producer.tick)
  let _ ← report .stream (Action.attempt Host.afterCycle)

/-- A cycle within its section. A failing action before it ends it. -/
def cycleBody : Operation Unit := do
  match ← report .stream (Action.attempt Host.beforeCycle) with
  | none => return
  | some () =>
    reportOn .status (onStatus Status.refresh)
    let refreshed ← report (.buffer .receivePdo) (onReceivePdo ProcessData.Consumer.refresh)
    if refreshed.isSome then exchange
    closeCycle

/-- The work of a fieldbus cycle. Fails only with the application's own error. -/
def cycle : Operation Unit := do
  Action.ask Host.enter
  let result ← Action.outcome cycleBody
  Action.ask Host.leave
  fun side => .done (result, side)

/-- The work of the main loop. -/
def poll : Operation Unit := do
  reportOn .ssdoReceive (onInbound Ssdo.Inbound.Consumer.process)
  reportOn .asyncReceive (onAsyncReceive Async.Receiver.process)
  reportOn .configuration (onConfiguration ConfigurationChannel.Producer.process)

end Application

end NodeLink.Side

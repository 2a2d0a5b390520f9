import NodeLink.Bench.World
import NodeLink.ElementFifo
import NodeLink.Side.Application
import NodeLink.Side.Communication

/-! The things a bench holds by name. A `Part` finds something to act on in an item and puts it back,
so that an operation works on an end of its own and on that end within a whole processor. -/

namespace NodeLink.Bench

/-- A receiver and the message that it polled last. -/
structure Polling where
  receiver : Channel.Receiver
  last : Option Channel.Message

/-- An application processor with what its application does. -/
structure Station where
  side : Side.Application
  script : Script
  showSection : Bool
  cycles : Nat

/-- A queue of elements whose capacity and largest element are its own. -/
structure Fifo where
  capacity : Nat
  largest : Nat
  fifo : ElementFifo capacity largest

inductive Item where
  | buffer (buffer : TripleBuffer)
  | sender (sender : Channel.Sender)
  | receiver (polling : Polling)
  | statusProducer (side : Status.End)
  | statusConsumer (side : Status.End)
  | configurationProducer (producer : ConfigurationChannel.Producer)
  | configurationConsumer (consumer : ConfigurationChannel.Consumer)
  | pdoProducer (producer : ProcessData.Producer)
  | pdoConsumer (consumer : ProcessData.Consumer)
  | outboundProducer (producer : Ssdo.Outbound.Producer)
  | outboundConsumer (consumer : Ssdo.Outbound.Consumer)
  | inboundProducer (producer : Ssdo.Inbound.Producer)
  | inboundConsumer (consumer : Ssdo.Inbound.Consumer)
  | asyncSender (sender : Async.Sender)
  | asyncReceiver (receiver : Async.Receiver)
  | builder (builder : Safety.Builder)
  | logbookProducer (producer : Logbook.Producer)
  | logbookConsumer (consumer : Logbook.Consumer)
  | fifo (fifo : Fifo)
  | communication (side : Side.Communication)
  | application (station : Station)

structure Part (α : Type) where
  find : Item → Option α
  put : α → Item → Item

namespace Part

def buffer : Part TripleBuffer where
  find | .buffer buffer => some buffer | _ => none
  put buffer _ := .buffer buffer

def sender : Part Channel.Sender where
  find | .sender sender => some sender | _ => none
  put sender _ := .sender sender

def receiver : Part Polling where
  find | .receiver polling => some polling | _ => none
  put polling _ := .receiver polling

def statusProducer : Part Status.End where
  find | .statusProducer side => some side | _ => none
  put side _ := .statusProducer side

def statusConsumer : Part Status.End where
  find | .statusConsumer side => some side | _ => none
  put side _ := .statusConsumer side

def configurationProducer : Part ConfigurationChannel.Producer where
  find | .configurationProducer producer => some producer | _ => none
  put producer _ := .configurationProducer producer

def configurationConsumer : Part ConfigurationChannel.Consumer where
  find | .configurationConsumer consumer => some consumer | _ => none
  put consumer _ := .configurationConsumer consumer

def pdoProducer : Part ProcessData.Producer where
  find | .pdoProducer producer => some producer | _ => none
  put producer _ := .pdoProducer producer

def pdoConsumer : Part ProcessData.Consumer where
  find | .pdoConsumer consumer => some consumer | _ => none
  put consumer _ := .pdoConsumer consumer

def outboundProducer : Part Ssdo.Outbound.Producer where
  find | .outboundProducer producer => some producer | _ => none
  put producer _ := .outboundProducer producer

def outboundConsumer : Part Ssdo.Outbound.Consumer where
  find | .outboundConsumer consumer => some consumer | _ => none
  put consumer _ := .outboundConsumer consumer

def inboundProducer : Part Ssdo.Inbound.Producer where
  find | .inboundProducer producer => some producer | _ => none
  put producer _ := .inboundProducer producer

def inboundConsumer : Part Ssdo.Inbound.Consumer where
  find | .inboundConsumer consumer => some consumer | _ => none
  put consumer _ := .inboundConsumer consumer

def ownAsyncSender : Part Async.Sender where
  find | .asyncSender sender => some sender | _ => none
  put sender _ := .asyncSender sender

/-- An async sender, also that of a processor. -/
def asyncSender : Part Async.Sender where
  find
    | .asyncSender sender => some sender
    | .communication side => some side.asyncReceive
    | .application station => some station.side.asyncTransmit
    | _ => none
  put
    | sender, .communication side => .communication { side with asyncReceive := sender }
    | sender, .application station =>
      .application { station with side := { station.side with asyncTransmit := sender } }
    | sender, _ => .asyncSender sender

def ownAsyncReceiver : Part Async.Receiver where
  find | .asyncReceiver receiver => some receiver | _ => none
  put receiver _ := .asyncReceiver receiver

/-- An async receiver, also that of a processor. -/
def asyncReceiver : Part Async.Receiver where
  find
    | .asyncReceiver receiver => some receiver
    | .communication side => some side.asyncTransmit
    | .application station => some station.side.asyncReceive
    | _ => none
  put
    | receiver, .communication side => .communication { side with asyncTransmit := receiver }
    | receiver, .application station =>
      .application { station with side := { station.side with asyncReceive := receiver } }
    | receiver, _ => .asyncReceiver receiver

def builder : Part Safety.Builder where
  find | .builder builder => some builder | _ => none
  put builder _ := .builder builder

def logbookProducer : Part Logbook.Producer where
  find | .logbookProducer producer => some producer | _ => none
  put producer _ := .logbookProducer producer

def logbookConsumer : Part Logbook.Consumer where
  find | .logbookConsumer consumer => some consumer | _ => none
  put consumer _ := .logbookConsumer consumer

def fifo : Part Fifo where
  find | .fifo fifo => some fifo | _ => none
  put fifo _ := .fifo fifo

def communication : Part Side.Communication where
  find | .communication side => some side | _ => none
  put side _ := .communication side

def application : Part Station where
  find | .application station => some station | _ => none
  put station _ := .application station

end Part

end NodeLink.Bench

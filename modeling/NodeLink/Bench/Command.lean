import NodeLink.Bench.Item
import NodeLink.TripleBuffer.Remote

/-! What can be asked of a bench, and what it replies. A command acts on the item of the step's name, or
makes it. -/

namespace NodeLink.Bench

/-- Ends that take a buffer over. -/
inductive Making where
  | sender (channel : UInt8)
  | receiver
  | statusProducer
  | statusConsumer
  | configurationProducer
  | configurationConsumer
  | pdoProducer
  | pdoConsumer
  | outboundProducer (channel : UInt8)
  | outboundConsumer (limit : Nat) (pool : String)
  | inboundProducer (channel : UInt8) (limit : Nat) (pool : String)
  | inboundConsumer
  | asyncSender (channel : UInt8)
  | asyncReceiver
  | logbookProducer (limit : Nat) (pool : String)
  | logbookConsumer

inductive TimerChange where
  | start
  | stop
  | tick
  | destroy

/-- How a built safety message goes out. -/
inductive Outlet where
  /-- Through the async sender of this name. -/
  | via (name : String)
  | recorded (outcome : Except Fault Unit)

inductive Command where
  | poke (pokes : Pokes)
  | hook (hook : Hook)
  | unhook
  | drop
  | transport (outcomes : List (Except Error Handoff))
  -- Triple buffers
  | create (role : Role) (descriptor : Descriptor)
  | attach (role : Role) (descriptor : Descriptor)
  | pair (descriptor : Descriptor)
  | call (call : TripleBuffer.Call)
  | describe
  | remote (role : Role) (descriptor : Descriptor) (lastSeen : Sequence)
      (calls : List TripleBuffer.Call)
  | make (making : Making) (buffer : String)
  -- Message channels
  | senderPost (format : UInt8) (data : Bytes)
  | senderRepost (number : Channel.MessageNumber) (format : UInt8) (data : Bytes)
  | senderReady
  | senderChannel (channel : UInt8)
  | senderRaw (data : Bytes)
  | receiverPoll (room : Nat)
  | receiverAcknowledge
  | receiverRawAcknowledge (seq : Sequence)
  -- Status, configuration and process data
  | statusState (state : UInt8)
  | statusPublish (timestamp : UInt64)
  | statusRefresh
  | configurationWrite (object : ObjectRef) (data : Bytes)
  | configurationPost
  | configurationLink (dictionary : String) (links : List ConfigurationChannel.Link)
  | configurationApply (dictionary : String)
  | pdoLink (dictionary : String) (links : List ProcessData.Link)
  | pdoSet (object : ObjectRef) (data : Bytes)
  | pdoCopyFrom (dictionary : String)
  | pdoFinish
  | pdoPublish
  | pdoRefresh
  | pdoObject (object : ObjectRef)
  | pdoCopyTo (dictionary : String)
  -- Service frames
  | outboundPost (data : Bytes)
  | outboundReady
  | outboundProcess (pool : String)
  | outboundFinish
  | outboundTick (pool : String)
  | inboundAccept (arrival : Ssdo.Inbound.Arrival)
  | inboundProcess (pool : String)
  | inboundTick (pool : String)
  | inboundDeliver
  -- Safety messages
  | asyncPost (format : Channel.Format) (data : Bytes)
  | asyncTransmit (data : Bytes)
  | asyncReady
  | asyncChannel (channel : UInt8)
  | asyncRegister (channel : UInt8)
  | asyncProcess (routes : Option (List UInt8))
  | builderNew
  | builderTimebase (timebase : UInt64)
  | builderBuild (format : Channel.Format) (slim : Bool) (address : UInt16) (id : UInt8)
      (data : Bytes)
  | builderPost (format : Channel.Format) (slim : Bool) (address : UInt16) (id : UInt8)
      (data : Bytes) (outlet : Outlet) (flips : List (Nat × UInt8))
  -- Logbook
  | logbookPost (entry : Logbook.Entry) (pool : String)
  | logbookTick (pool : String)
  | logbookReady
  | logbookProcess
  -- Timers and queues
  | timerNew (limit : Nat) (pool : String)
  | timerChange (change : TimerChange) (pool : Option String)
  | timerPhase (pool : Option String)
  | poolAvailable (pool : String)
  | fifoNew (capacity largest elementSize : Nat)
  | fifoInsert (data : Bytes)
  | fifoTake (room : Nat)
  | fifoPeek
  | fifoDiscard
  | fifoFlush
  -- Dictionaries
  | dictionarySet (dictionary : String) (entries : List Dictionary.Entry)
  | dictionaryErase (dictionary : String) (object : ObjectRef)
  | dictionaryDump (dictionary : String)
  -- Whole processors
  | communicationInit (configuration : Configuration)
  | communicationLink (dictionary : String) (receivePdo transmitPdo : List ProcessData.Link)
      (objects : List ConfigurationChannel.Link)
  | communicationCycle (dictionary : String) (timestamp : UInt64)
  | communicationPoll (dictionary : String) (routes : Option (List UInt8))
  | communicationAccept (arrival : Ssdo.Inbound.Arrival)
  | communicationFinish
  | communicationState (state : UInt8)
  | applicationInit (configuration : Configuration) (showSection : Bool)
  | applicationLink (dictionary : String) (receivePdo transmitPdo : List ProcessData.Link)
  | applicationCycle
  | applicationPoll
  | applicationPost (data : Bytes)
  | applicationWrite (object : ObjectRef) (data : Bytes)
  | applicationLog (entry : Logbook.Entry)
  | applicationObject (object : ObjectRef)
  | applicationScript (script : Script)

inductive Reply where
  /-- There is no item of the name and kind. -/
  | noObject
  | fault (fault : Fault)
  | done
  | flag (value : Bool)
  | number (value : Nat)
  | bytes (value : Option Bytes)
  | call (reply : TripleBuffer.Reply)
  | description (buffer : TripleBuffer)
  | remote (replies : List TripleBuffer.Reply) (lastSeen : Sequence)
  | message (message : Option Channel.Message)
  | objectWrite (write : Option ConfigurationChannel.ObjectWrite)
  | phase (phase : Timer.Phase)
  | taken (result : Except Error Bytes) (room : Nat)
  | entries (entries : List Dictionary.Entry)

structure Step where
  name : String
  command : Command

end NodeLink.Bench

import NodeLink.Proofs.Ssdo.InboundProducer
import NodeLink.Proofs.Surroundings

/-! The application's end for frames from the network. A call polls the latest message, delivers it
unless it has the number of the one before, and acknowledges it. -/
namespace NodeLink.Ssdo.Inbound

open Channel (number)

/-- The payloads that were given to the application. -/
def deliveries (events : List Host.Event) : List Bytes := events.filterMap fun event =>
  match event.request with
  | .deliver _ payload => some payload
  | _ => none

theorem deliveries_deliver (events : List Host.Event) (channel : UInt8) (payload : Bytes)
    (answer : Host.Answer (.deliver channel payload)) :
    deliveries (events ++ [⟨.deliver channel payload, answer⟩]) = deliveries events ++ [payload] := by
  rw [deliveries, List.filterMap_append]
  rfl

namespace Consumer

/-- The parts of a call, between which the other processor may do something. -/
def poll : Action Host Consumer (Option Channel.Message) :=
  onReceiver (Channel.Receiver.poll Channel.maxMessage)

def hand (message : Channel.Message) : Action Host Consumer Unit :=
  if message.duplicate then pure ()
  else Action.ask (Host.deliver message.header.channel message.payload)

def acknowledge (message : Channel.Message) : Action Host Consumer Unit :=
  onReceiver (Channel.Receiver.acknowledge message)

theorem process_eq : process = (do
    match ← poll with
    | none => return false
    | some message =>
      hand message
      acknowledge message
      return !message.duplicate) := by
  unfold process
  congr 1
  funext polled
  cases polled with
  | none => rfl
  | some message =>
    cases duplicate : message.duplicate with
    | true =>
      simp only [hand, duplicate]
      rfl
    | false =>
      simp only [hand, duplicate]
      rfl

variable {faults : Prop} {d : Descriptor} {world : World} {consumer : Consumer}
  {published : List Bytes} {acked lastSeen : Sequence} {frames : List QueuedFrame}
  {posted taken : Nat} {message : Channel.Message}

/-- A polled message carries the frame at a place of those accepted. -/
structure Carried (frames : List QueuedFrame) (taken index : Nat) (message : Channel.Message) :
    Prop where
  frame : ∃ frame, frames[index]? = some frame ∧ frame.payload = message.payload
  number : message.header.number = number (index + 1)
  duplicate : message.duplicate = (Channel.number (index + 1) == Channel.number taken)

theorem onReceiver_meets {α : Type} {operation : Channel.Receiver.Operation α}
    {may : Words.Request → Prop} {ok : α → Consumer → World → Prop}
    {failed : Fault → Consumer → World → Prop}
    (holds : operation.Ensures faults may consumer.receiver world.memory
      (fun value receiver memory => ∀ after : World, after.memory = memory →
        after.events = world.events → ok value { consumer with receiver } after)
      fun fault receiver memory => ∀ after : World, after.memory = memory →
        after.events = world.events → failed fault { consumer with receiver } after) :
    (onReceiver operation).Meets faults consumer world ok failed := Action.Ensures.part_onHost holds

theorem poll_meets (consuming : consumer.receiver.buffer.Consumes d lastSeen)
    (numbered : consumer.receiver.delivered = number taken)
    (carries : d.Carries world.memory published acked) (tells : Tells frames posted published) :
    poll.Meets faults consumer world
      (fun polled left after => left.receiver.delivered = number taken ∧
        d.Carries after.memory published acked ∧ after.events = world.events ∧
        match polled with
        | none => (Sequence.ofCount published.length).isFresh lastSeen = false ∧
          left.receiver.buffer.Consumes d lastSeen
        | some message => (Sequence.ofCount published.length).isFresh lastSeen = true ∧
          left.receiver.buffer.Consumes d (.ofCount published.length) ∧
          message.write = Sequence.ofCount published.length ∧
          ∃ index, posted = index + 1 ∧ Carried frames taken index message)
      fun fault left after => left.receiver.delivered = number taken ∧
        d.Carries after.memory published acked ∧ after.events = world.events ∧
        left.receiver.buffer.Consumes d lastSeen ∧ faults ∧ fault = .error .medium := by
  refine onReceiver_meets ((Channel.Receiver.poll_ensures consuming carries fun _ => tells.told).mono
    (fun _ granted => granted) ?_ ?_)
  · rintro polled left _ ⟨polled', delivered, carries⟩ after rfl quiet
    refine ⟨delivered.trans numbered, carries, quiet, ?_⟩
    cases polled with
    | none => exact polled'
    | some message =>
      obtain ⟨fresh, consuming, last, heads, write, duplicate⟩ := polled'
      obtain ⟨index, header, frame, count, found, same, named, heads'⟩ := tells _ last
      obtain ⟨rfl, payload⟩ := heads.unique heads' same
      refine ⟨fresh, consuming, write, index, count, ⟨frame, found, payload.symm⟩, ?_, ?_⟩
      · rw [named, count]
      · rw [duplicate, named, count, numbered]
  · rintro fault left _ ⟨consuming, delivered, carries, lost⟩ after rfl quiet
    exact ⟨delivered.trans numbered, carries, quiet, consuming, lost⟩

theorem hand_meets : (hand message).Meets faults consumer world
    (fun _ left after => left = consumer ∧ after.memory = world.memory ∧
      deliveries after.events =
        deliveries world.events ++ if message.duplicate then [] else [message.payload])
    fun _ _ _ => False := by
  unfold hand
  cases duplicate : message.duplicate with
  | true => exact ⟨rfl, rfl, (List.append_nil _).symm⟩
  | false =>
    refine ⟨trivial, fun answer after given => ⟨rfl, given.1, ?_⟩⟩
    rw [given.2, deliveries_deliver]
    rfl

theorem acknowledge_meets (consuming : consumer.receiver.buffer.Consumes d lastSeen)
    (carries : d.Carries world.memory published acked) :
    (acknowledge message).Meets faults consumer world
      (fun _ left after => left.receiver.delivered = message.header.number ∧
        left.receiver.buffer.Consumes d lastSeen ∧ after.events = world.events ∧
        d.Carries after.memory published message.write)
      fun _ left after => left.receiver.delivered = message.header.number ∧
        left.receiver.buffer.Consumes d lastSeen ∧ after.events = world.events ∧
        d.Carries after.memory published acked ∧ faults := by
  refine onReceiver_meets ((Channel.Receiver.acknowledge_ensures consuming carries).mono
    (fun _ granted => granted) ?_ ?_)
  · rintro _ _ _ ⟨rfl, carries⟩ after rfl quiet
    exact ⟨rfl, consuming, quiet, carries⟩
  · rintro fault _ _ ⟨rfl, same, lost, _⟩ after rfl quiet
    exact ⟨rfl, consuming, quiet, same ▸ carries, lost⟩

end Consumer

end NodeLink.Ssdo.Inbound

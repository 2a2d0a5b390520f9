import NodeLink.Channel.Receiver
import NodeLink.Channel.Sender
import NodeLink.Proofs.TripleBuffer.Exchange

/-! Messages from one end of a channel to the other. The sender adds messages to what the buffer shows;
the receiver polls the latest one, whole and with its header, once. -/
namespace NodeLink.Channel

open TripleBuffer (anyAccess)

variable {faults : Prop} {d : Descriptor} {memory : SharedMemory} {published : List Bytes}
  {acked lastSeen : Sequence}

/-- The number of the latest of so many messages. -/
def number : Nat → MessageNumber
  | 0 => .none
  | count + 1 => (number count).next

theorem number_succ_ne_zero (count : Nat) : number (count + 1) ≠ 0 :=
  MessageNumber.next_ne_zero (number count)

theorem number_succ_ne (count : Nat) : number (count + 1) ≠ number count := by
  change (number count).next ≠ number count
  generalize number count = assigned
  revert assigned
  decide

/-- A header as a sender writes it in front of a payload. -/
structure Header.Heads (header : Header) (payload : Bytes) : Prop where
  numbered : header.number ≠ 0
  size : header.size.toNat = payload.length
  fits : headerSize + payload.length ≤ maxMessage

theorem Header.Heads.decode {header : Header} {payload : Bytes} (heads : header.Heads payload) :
    Header.decode (header.toBytes ++ payload) = .ok header :=
  decode_toBytes header payload heads.numbered (Nat.le_of_eq heads.size)

theorem Header.Heads.slice {header : Header} {payload : Bytes} (heads : header.Heads payload) :
    (header.toBytes ++ payload).slice headerSize header.size.toNat = payload := by
  rw [Bytes.slice, heads.size, List.drop_left' (length_toBytes header), List.take_length]

/-- A message has one header and one payload. -/
theorem Header.Heads.unique {header other : Header} {payload rest : Bytes}
    (heads : header.Heads payload) (others : other.Heads rest)
    (same : header.toBytes ++ payload = other.toBytes ++ rest) : header = other ∧ payload = rest := by
  have decoded := heads.decode
  rw [same, others.decode] at decoded
  obtain rfl := Except.ok.inj decoded
  exact ⟨rfl, List.append_cancel_left same⟩

/-- The latest message is one that a sender wrote. -/
def Told (published : List Bytes) : Prop := ∀ bytes, published.getLast? = some bytes →
  ∃ header payload, bytes = Header.toBytes header ++ payload ∧ header.Heads payload

namespace Sender

variable {sender : Sender} {number : MessageNumber} {retry : Bool} {format : UInt8} {payload : Bytes}

/-- The header of a message of this sender. -/
def header (sender : Sender) (number : MessageNumber) (retry : Bool) (format : UInt8)
    (payload : Bytes) : Header where
  number := number
  retry := retry
  format := format
  channel := sender.channel
  size := UInt16.ofNat payload.length

/-- The message does not fit the channel or the buffer. -/
def Oversize (d : Descriptor) (payload : Bytes) : Prop :=
  maxMessage < headerSize + payload.length ∨ d.size < headerSize + payload.length

theorem header_heads (numbered : number ≠ 0) (fits : ¬ Oversize d payload) :
    (sender.header number retry format payload).Heads payload where
  numbered := numbered
  size := by
    simp only [Oversize, maxMessage, headerSize, maxPayload] at fits
    change (UInt16.ofNat payload.length).toNat = payload.length
    rw [UInt16.toNat_ofNat']
    omega
  fits := Nat.not_lt.mp fun large => fits (.inl large)

theorem onBuffer_ensures {α : Type} {may : Words.Request → Prop}
    {operation : TripleBuffer.Operation α} {ok : α → Sender → SharedMemory → Prop}
    {failed : Fault → Sender → SharedMemory → Prop}
    (holds : operation.Ensures faults may sender.buffer memory
      (fun value buffer => ok value { sender with buffer })
      fun fault buffer => failed fault { sender with buffer }) :
    (onBuffer operation).Ensures faults may sender memory ok failed := Action.ensures_part holds

theorem ready_looks (producing : sender.buffer.Produces d)
    (carries : d.Carries memory published acked) :
    ready.Ensures faults (LoadsFrom d.IsControl) sender memory
      (fun answered left after => answered = (Sequence.ofCount published.length == acked) ∧
        left = sender ∧ after = memory)
      fun fault left after => left = sender ∧ after = memory ∧ faults ∧ fault = .error .medium := by
  refine onBuffer_ensures ((TripleBuffer.acknowledged_looks producing carries).mono
    (fun _ granted => granted) ?_ ?_)
  · rintro answered _ after ⟨told, rfl, same⟩
    exact ⟨told, rfl, same⟩
  · rintro fault _ after ⟨rfl, same, lost⟩
    exact ⟨rfl, same, lost⟩

theorem ready_ensures (producing : sender.buffer.Produces d)
    (carries : d.Carries memory published acked) :
    ready.Ensures faults anyAccess sender memory
      (fun answered left after => answered = (Sequence.ofCount published.length == acked) ∧
        left = sender ∧ after = memory)
      fun fault left after => left = sender ∧ after = memory ∧ faults ∧ fault = .error .medium :=
  (ready_looks producing carries).mono (fun _ _ => trivial) (fun _ _ _ answered => answered)
    fun _ _ _ lost => lost

section Shown

variable {latest : UInt8} {control : ControlWord}

theorem write_shows (producing : sender.buffer.Produces d)
    (shows : d.Shows memory published latest control) :
    (write number retry format payload).Ensures faults (LoadsFrom d.IsControl) sender memory
      (fun _ left after => left = sender ∧ ¬ Oversize d payload ∧
        d.Shows after
          (published ++ [(sender.header number retry format payload).toBytes ++ payload])
          (TripleBuffer.freeSlot latest control.slot) control)
      fun fault left after => left = sender ∧ d.Shows after published latest control ∧
        (faults ∧ fault = .error .medium ∨ Oversize d payload ∧ fault = .error .payloadTooLarge) := by
  have size : sender.buffer.slotSize = d.size := congrArg Descriptor.size producing.region
  apply Action.get_then
  by_cases large : Oversize d payload
  · rw [if_pos (size ▸ large)]
    exact ⟨rfl, shows, .inr ⟨large, rfl⟩⟩
  rw [if_neg (size ▸ large)]
  refine Action.Ensures.bind _ (onBuffer_ensures ((TripleBuffer.write_shows producing
    shows).mono (fun _ granted => granted) ?_ ?_)) (fun _ _ _ done => done)
  · rintro seq _ after ⟨rfl, _, shows⟩
    exact ⟨rfl, large, shows⟩
  · rintro fault _ after ⟨rfl, shows, lost | ⟨small, _⟩⟩
    · exact ⟨rfl, shows, .inl lost⟩
    · refine absurd (.inr ?_) large
      rwa [List.length_append, Header.length_toBytes] at small

/-- A new message is posted when the latest write has been acknowledged. -/
theorem post_shows (producing : sender.buffer.Produces d)
    (shows : d.Shows memory published latest control) :
    (post format payload).Ensures faults (LoadsFrom d.IsControl) sender memory
      (fun number left after => number = sender.next ∧ left = { sender with next := sender.next.next } ∧
        Sequence.ofCount published.length = control.seq ∧ ¬ Oversize d payload ∧
        d.Shows after
          (published ++ [(sender.header sender.next false format payload).toBytes ++ payload])
          (TripleBuffer.freeSlot latest control.slot) control)
      fun fault left after => left = sender ∧ d.Shows after published latest control ∧
        (faults ∧ fault = .error .medium ∨ Oversize d payload ∧ fault = .error .payloadTooLarge ∨
          Sequence.ofCount published.length ≠ control.seq ∧ fault = .busy) := by
  refine Action.Ensures.bind _ ((ready_looks producing ⟨_, _, shows⟩).mono (fun _ granted => granted)
    (fun _ _ _ answered => answered) ?_) ?_
  · rintro fault _ _ ⟨rfl, rfl, lost⟩
    exact ⟨rfl, shows, .inl lost⟩
  rintro answered left _ ⟨rfl, rfl, rfl⟩
  by_cases settled : Sequence.ofCount published.length = control.seq
  · rw [if_pos (beq_iff_eq.mpr settled)]
    refine Action.get_then (Action.Ensures.bind _ ((write_shows producing shows).mono
      (fun _ granted => granted) (fun _ _ _ written => written) ?_) ?_)
    · rintro fault _ after ⟨rfl, shows, refused⟩
      exact ⟨rfl, shows, refused.imp_right .inl⟩
    · rintro _ _ after ⟨rfl, fits, shows⟩
      exact ⟨rfl, rfl, settled, fits, shows⟩
  · rw [if_neg (fun same => settled (beq_iff_eq.mp same))]
    exact ⟨rfl, shows, .inr (.inr ⟨settled, rfl⟩)⟩

end Shown

theorem write_ensures (producing : sender.buffer.Produces d)
    (carries : d.Carries memory published acked) :
    (write number retry format payload).Ensures faults anyAccess sender memory
      (fun _ left after => left = sender ∧ ¬ Oversize d payload ∧
        d.Carries after (published ++ [(sender.header number retry format payload).toBytes ++ payload])
          acked)
      fun fault left after => left = sender ∧ d.Carries after published acked ∧
        (faults ∧ fault = .error .medium ∨ Oversize d payload ∧ fault = .error .payloadTooLarge) := by
  obtain ⟨latest, slot, shows⟩ := carries
  apply (write_shows producing shows).mono (fun _ _ => trivial)
  · rintro _ left after ⟨same, fits, shows⟩
    exact ⟨same, fits, _, _, shows⟩
  · rintro fault left after ⟨same, shows, refused⟩
    exact ⟨same, ⟨_, _, shows⟩, refused⟩

theorem post_ensures (producing : sender.buffer.Produces d)
    (carries : d.Carries memory published acked) :
    (post format payload).Ensures faults anyAccess sender memory
      (fun number left after => number = sender.next ∧ left = { sender with next := sender.next.next } ∧
        Sequence.ofCount published.length = acked ∧ ¬ Oversize d payload ∧
        d.Carries after
          (published ++ [(sender.header sender.next false format payload).toBytes ++ payload]) acked)
      fun fault left after => left = sender ∧ d.Carries after published acked ∧
        (faults ∧ fault = .error .medium ∨ Oversize d payload ∧ fault = .error .payloadTooLarge ∨
          Sequence.ofCount published.length ≠ acked ∧ fault = .busy) := by
  obtain ⟨latest, slot, shows⟩ := carries
  apply (post_shows producing shows).mono (fun _ _ => trivial)
  · rintro number left after ⟨assigned, same, settled, fits, shows⟩
    exact ⟨assigned, same, settled, fits, _, _, shows⟩
  · rintro fault left after ⟨same, shows, refused⟩
    exact ⟨same, ⟨_, _, shows⟩, refused⟩

end Sender

namespace Receiver

variable {receiver : Receiver}

theorem onBuffer_ensures {α : Type} {may : Words.Request → Prop}
    {operation : TripleBuffer.Operation α} {ok : α → Receiver → SharedMemory → Prop}
    {failed : Fault → Receiver → SharedMemory → Prop}
    (holds : operation.Ensures faults may receiver.buffer memory
      (fun value buffer => ok value { receiver with buffer })
      fun fault buffer => failed fault { receiver with buffer }) :
    (onBuffer operation).Ensures faults may receiver memory ok failed := Action.ensures_part holds

/-- What a poll makes of the latest message. -/
def Polled (d : Descriptor) (published : List Bytes) (lastSeen : Sequence) (receiver : Receiver) :
    Option Message → Receiver → Prop
  | none, left => (Sequence.ofCount published.length).isFresh lastSeen = false ∧
    left.buffer.Consumes d lastSeen
  | some message, left => (Sequence.ofCount published.length).isFresh lastSeen = true ∧
    left.buffer.Consumes d (.ofCount published.length) ∧
    published.getLast? = some (message.header.toBytes ++ message.payload) ∧
    message.header.Heads message.payload ∧ message.write = Sequence.ofCount published.length ∧
    message.duplicate = (message.header.number == receiver.delivered)

theorem accepted_ensures {header : Header} {payload : Bytes} {write : Sequence}
    {ok : Option Message → Receiver → SharedMemory → Prop}
    {failed : Fault → Receiver → SharedMemory → Prop} (heads : header.Heads payload)
    (holds : ok (some ⟨header, write, header.number == receiver.delivered, payload⟩) receiver memory) :
    (some <$> accept write (header.toBytes ++ payload)).Ensures faults anyAccess receiver memory ok
      failed := by
  have accepted : accept write (header.toBytes ++ payload) receiver =
      .done (.ok ⟨header, write, header.number == receiver.delivered, payload⟩, receiver) := by
    unfold accept
    rw [heads.decode]
    simp only [heads.slice]
    rfl
  change ((accept write (header.toBytes ++ payload) receiver).bind _).inWords.Ensures _ _ _ _
  rw [accepted]
  exact holds

/-- What a poll makes of the latest message, which its slot shows, and what it leaves. -/
def Fetched (d : Descriptor) (published : List Bytes) (acked : Sequence) (latest : UInt8)
    (receiver : Receiver) (memory : SharedMemory) :
    Option Message → Receiver → SharedMemory → Prop
  | none, left, after =>
    (Sequence.ofCount published.length).isFresh receiver.buffer.lastSeen = false ∧
      left = receiver ∧ after = memory
  | some message, left, after =>
    (Sequence.ofCount published.length).isFresh receiver.buffer.lastSeen = true ∧
      left = { receiver with buffer := receiver.buffer.taken published latest } ∧
      d.Shows after published latest ⟨acked, latest⟩ ∧
      published.getLast? = some (message.header.toBytes ++ message.payload) ∧
      message.header.Heads message.payload ∧ message.write = Sequence.ofCount published.length ∧
      message.duplicate = (message.header.number == receiver.delivered)

theorem poll_shows {room : Nat} {latest slot : UInt8}
    (consuming : receiver.buffer.Consumes d lastSeen)
    (shows : d.Shows memory published latest ⟨acked, slot⟩)
    (told : (Sequence.ofCount published.length).isFresh lastSeen = true → Told published)
    (fits : (Sequence.ofCount published.length).isFresh lastSeen = true →
      ∀ bytes, published.getLast? = some bytes → bytes.length ≤ room) :
    (poll room).Ensures faults anyAccess receiver memory
      (Fetched d published acked latest receiver memory)
      fun fault left after => (∃ reading, left = { receiver with buffer.reading := reading }) ∧
        d.Carries after published acked ∧ faults ∧ fault = .error .medium := by
  obtain rfl := consuming.seen
  refine Action.Ensures.bind (fun fresh left after =>
    fresh = (Sequence.ofCount published.length).isFresh receiver.buffer.lastSeen ∧
      left = receiver ∧ after = memory)
    (onBuffer_ensures ((TripleBuffer.hasFresh_ensures consuming ⟨_, _, shows⟩).mono
      (fun _ granted => granted) ?_ ?_)) ?_
  · rintro fresh _ _ ⟨rfl, rfl, rfl⟩
    exact ⟨rfl, rfl, rfl⟩
  · rintro fault _ _ ⟨rfl, rfl, lost⟩
    exact ⟨⟨_, rfl⟩, ⟨_, _, shows⟩, lost⟩
  rintro _ receiver memory ⟨rfl, rfl, rfl⟩
  cases fresh : (Sequence.ofCount published.length).isFresh receiver.buffer.lastSeen with
  | false => exact ⟨fresh, rfl, rfl⟩
  | true =>
    refine Action.Ensures.bind (fun result left after =>
      TripleBuffer.Latest published receiver.buffer.lastSeen result.1 result.2 ∧
        left = { receiver with buffer := receiver.buffer.taken published latest } ∧
        d.Shows after published latest ⟨acked, latest⟩)
      (onBuffer_ensures ((TripleBuffer.read_shows consuming shows).mono
        (fun _ granted => granted) ?_ ?_)) ?_
    · rintro result _ after ⟨found, rfl, shows⟩
      exact ⟨found, rfl, shows⟩
    · rintro fault _ after ⟨⟨reading, rfl⟩, carries, lost | ⟨⟨bytes, last, long⟩, _⟩⟩
      · exact ⟨⟨reading, rfl⟩, carries, lost⟩
      · exact absurd (fits fresh bytes last) (Nat.not_le.mpr long)
    · rintro ⟨snapshot, bytes⟩ left after ⟨found, same, shows⟩
      change TripleBuffer.Latest published receiver.buffer.lastSeen snapshot bytes at found
      rcases found with ⟨rfl, -, -⟩ | ⟨bytes, last, rfl, rfl⟩
      · contradiction
      · obtain ⟨header, payload, rfl, heads⟩ := told fresh _ last
        simp only [fresh, if_true]
        apply accepted_ensures heads
        exact ⟨fresh, same, shows, last, heads, rfl, by rw [same]⟩

theorem poll_ensures (consuming : receiver.buffer.Consumes d lastSeen)
    (carries : d.Carries memory published acked)
    (told : (Sequence.ofCount published.length).isFresh lastSeen = true → Told published) :
    (poll maxMessage).Ensures faults anyAccess receiver memory
      (fun message left after => Polled d published lastSeen receiver message left ∧
        left.delivered = receiver.delivered ∧ d.Carries after published acked)
      fun fault left after => left.buffer.Consumes d lastSeen ∧ left.delivered = receiver.delivered ∧
        d.Carries after published acked ∧ faults ∧ fault = .error .medium := by
  obtain ⟨latest, slot, shows⟩ := carries
  apply (poll_shows consuming shows told ?_).mono (fun _ granted => granted)
  · intro message left after fetched
    obtain rfl := consuming.seen
    cases message with
    | none =>
      obtain ⟨stale, rfl, rfl⟩ := fetched
      exact ⟨⟨stale, consuming⟩, rfl, _, _, shows⟩
    | some message =>
      obtain ⟨fresh, rfl, shows, last, heads, write, duplicate⟩ := fetched
      have seen := consuming.taken published latest
      unfold TripleBuffer.seenAfter at seen
      rw [if_pos fresh] at seen
      exact ⟨⟨fresh, seen, last, heads, write, duplicate⟩, rfl, _, _, shows⟩
  · rintro fault _ after ⟨⟨reading, rfl⟩, carries, lost⟩
    exact ⟨consuming.claimed, rfl, carries, lost⟩
  · intro fresh bytes last
    obtain ⟨header, payload, rfl, heads⟩ := told fresh bytes last
    rw [List.length_append, Header.length_toBytes]
    exact heads.fits

theorem acknowledge_shows {message : Message} {latest slot : UInt8}
    (consuming : receiver.buffer.Consumes d lastSeen)
    (shows : d.Shows memory published latest ⟨acked, slot⟩) :
    (acknowledge message).Ensures faults anyAccess receiver memory
      (fun _ left after => left = { receiver with delivered := message.header.number } ∧
        d.Shows after published latest ⟨message.write, receiver.buffer.reading⟩)
      fun fault left after => left = { receiver with delivered := message.header.number } ∧
        after = memory ∧ faults ∧ fault = .error .medium := by
  refine Action.modify_then (onBuffer_ensures ((TripleBuffer.acknowledge_shows consuming
    shows).mono (fun _ granted => granted) ?_ ?_))
  · rintro _ _ after ⟨rfl, shows⟩
    exact ⟨rfl, shows⟩
  · rintro fault _ after ⟨rfl, lost⟩
    exact ⟨rfl, lost⟩

theorem acknowledge_ensures {message : Message} (consuming : receiver.buffer.Consumes d lastSeen)
    (carries : d.Carries memory published acked) :
    (acknowledge message).Ensures faults anyAccess receiver memory
      (fun _ left after => left = { receiver with delivered := message.header.number } ∧
        d.Carries after published message.write)
      fun fault left after => left = { receiver with delivered := message.header.number } ∧
        after = memory ∧ faults ∧ fault = .error .medium := by
  obtain ⟨latest, slot, shows⟩ := carries
  apply (acknowledge_shows consuming shows).mono (fun _ granted => granted)
  · rintro _ left after ⟨same, shows⟩
    exact ⟨same, _, _, shows⟩
  · intro fault left after lost
    exact lost

end Receiver

end NodeLink.Channel

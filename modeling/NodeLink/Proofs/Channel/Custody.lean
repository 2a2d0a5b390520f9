import NodeLink.Proofs.Channel
import NodeLink.Proofs.Surroundings

/-! Where the latest message of a channel is: acknowledged, waiting to be polled, or polled and owed an
acknowledge. Any access may fail. A poll that fails leaves the message where it was; an acknowledge that
fails leaves it owed, and then neither end can move it on. -/
namespace NodeLink.Channel

open TripleBuffer (anyAccess)

inductive Custody where
  /-- The latest message, if there is one, was acknowledged. -/
  | settled
  | waiting (header : Header) (payload : Bytes)
  | owed

namespace Custody

/-- What is published when so many messages were acknowledged. -/
def Published (count : Nat) (published : List Bytes) : Custody → Prop
  | settled => published.length = count
  | waiting header payload => ∃ earlier, published = earlier ++ [header.toBytes ++ payload] ∧
      earlier.length = count ∧ header.number = number (count + 1) ∧ header.Heads payload
  | owed => published.length = count + 1

/-- How many messages were posted. -/
def posted (count : Nat) : Custody → Nat
  | settled => count
  | waiting _ _ | owed => count + 1

/-- How many messages were polled. -/
def polled (count : Nat) : Custody → Nat
  | settled | waiting _ _ => count
  | owed => count + 1

variable {count : Nat} {published : List Bytes} {custody : Custody}

theorem Published.length (shown : custody.Published count published) :
    published.length = custody.posted count := by
  cases custody with
  | settled => exact shown
  | waiting header payload =>
    obtain ⟨earlier, rfl, rfl, _⟩ := shown
    exact List.length_append
  | owed => exact shown

/-- The number of the latest message is acknowledged in this state alone. -/
theorem ofCount_posted_iff :
    Sequence.ofCount (custody.posted count) = Sequence.ofCount count ↔ custody = .settled := by
  have apart := Sequence.ofCount_succ_ne count
  cases custody with
  | settled => simp only [posted]
  | waiting header payload => simp only [posted, apart, reduceCtorEq]
  | owed => simp only [posted, apart, reduceCtorEq]

/-- A message that waits is the only one that the receiver has not seen. -/
theorem isFresh_iff :
    (Sequence.ofCount (custody.posted count)).isFresh (.ofCount (custody.polled count)) = true ↔
      ∃ header payload, custody = .waiting header payload := by
  cases custody with
  | settled => simp [posted, polled, Sequence.isFresh_self]
  | waiting header payload => simp [posted, polled, Sequence.isFresh_ofCount_succ]
  | owed => simp [posted, polled, Sequence.isFresh_self]

/-- What a poll returns, and where it leaves the message. -/
inductive Polls (count : Nat) : Custody → Option Message → Custody → Prop where
  | settled : Polls count .settled none .settled
  | owed : Polls count .owed none .owed
  | waiting (header : Header) (payload : Bytes) : Polls count (.waiting header payload)
      (some ⟨header, Sequence.ofCount (count + 1), false, payload⟩) .owed

end Custody

/-- The receiver has acknowledged so many messages, and the next one is where its custody says. -/
structure Keeps (d : Descriptor) (count : Nat) (custody : Custody) (receiver : Receiver)
    (memory : SharedMemory) : Prop where
  consuming : receiver.buffer.Consumes d (.ofCount (custody.polled count))
  delivered : custody ≠ .owed → receiver.delivered = number count
  carries : ∃ published, custody.Published count published ∧
    d.Carries memory published (.ofCount count)

/-- The message that is owed an acknowledge. -/
structure Due (count : Nat) (message : Message) : Prop where
  write : message.write = Sequence.ofCount (count + 1)
  numbered : message.header.number = number (count + 1)

variable {faults : Prop} {d : Descriptor} {count : Nat} {custody : Custody} {receiver : Receiver}
  {memory : SharedMemory}

theorem Receiver.new_of_consumes {buffer : TripleBuffer} {lastSeen : Sequence}
    (consumes : buffer.Consumes d lastSeen) : Receiver.new buffer = .ok ⟨buffer, .none⟩ :=
  if_pos consumes.role

/-- A poll takes a message that waits, if no access fails. -/
theorem Keeps.poll (keeps : Keeps d count custody receiver memory) :
    (Receiver.poll maxMessage).Ensures faults anyAccess receiver memory
      (fun message left after => ∃ next, custody.Polls count message next ∧
        Keeps d count next left after)
      fun fault left after => faults ∧ fault = .error .medium ∧ Keeps d count custody left after := by
  obtain ⟨published, shown, carries⟩ := keeps.carries
  have fresh_iff : (Sequence.ofCount published.length).isFresh (.ofCount (custody.polled count)) = true ↔
      ∃ header payload, custody = .waiting header payload := shown.length ▸ Custody.isFresh_iff
  have told : (Sequence.ofCount published.length).isFresh (.ofCount (custody.polled count)) = true →
      Told published := by
    intro fresh bytes last
    obtain ⟨header, payload, rfl⟩ := fresh_iff.mp fresh
    obtain ⟨earlier, rfl, _, _, heads⟩ := shown
    rw [List.getLast?_concat, Option.some.injEq] at last
    exact ⟨header, payload, last.symm, heads⟩
  apply (Receiver.poll_ensures keeps.consuming carries told).mono (fun _ granted => granted)
  · intro message left after ended
    obtain ⟨polled, delivered, carries⟩ := ended
    cases message with
    | none =>
      obtain ⟨stale, consuming⟩ := polled
      cases custody with
      | settled => exact ⟨_, .settled, consuming, fun _ => delivered.trans (keeps.delivered nofun),
          published, shown, carries⟩
      | owed => exact ⟨_, .owed, consuming, fun unlike => absurd rfl unlike, published, shown, carries⟩
      | waiting header payload =>
        rw [fresh_iff.mpr ⟨header, payload, rfl⟩] at stale
        contradiction
    | some message =>
      obtain ⟨fresh, consuming, last, heads', write, duplicate⟩ := polled
      obtain ⟨header, payload, rfl⟩ := fresh_iff.mp fresh
      have length : published.length = count + 1 := shown.length
      obtain ⟨earlier, rfl, _, numbered, heads⟩ := shown
      rw [length] at write consuming
      rw [List.getLast?_concat, Option.some.injEq] at last
      obtain ⟨header', write', duplicate', payload'⟩ := message
      simp only at write duplicate
      obtain ⟨rfl, rfl⟩ := heads.unique heads' last
      have new : header.number ≠ receiver.delivered := by
        rw [numbered, keeps.delivered nofun]
        exact number_succ_ne count
      rw [write, duplicate, beq_false_of_ne new]
      exact ⟨_, .waiting header payload, consuming, fun unlike => absurd rfl unlike, _, length, carries⟩
  · intro fault left after ended
    obtain ⟨consuming, delivered, carries, allowed, lost⟩ := ended
    exact ⟨allowed, lost, consuming, fun unlike => delivered.trans (keeps.delivered unlike), published,
      shown, carries⟩

/-- An acknowledge settles the message that it is owed to, if no access fails. -/
theorem Keeps.acknowledge {message : Message} (keeps : Keeps d count .owed receiver memory)
    (due : Due count message) :
    (Receiver.acknowledge message).Ensures faults anyAccess receiver memory
      (fun _ left after => Keeps d (count + 1) .settled left after)
      fun fault left after => faults ∧ fault = .error .medium ∧ Keeps d count .owed left after := by
  obtain ⟨published, shown, carries⟩ := keeps.carries
  apply (Receiver.acknowledge_ensures keeps.consuming carries).mono (fun _ granted => granted)
  · intro _ left after ended
    obtain ⟨rfl, carries⟩ := ended
    rw [due.write] at carries
    exact ⟨keeps.consuming, fun _ => due.numbered, published, shown, carries⟩
  · intro fault left after ended
    obtain ⟨rfl, rfl, allowed, lost⟩ := ended
    exact ⟨allowed, lost, keeps.consuming, fun unlike => absurd rfl unlike, published, shown, carries⟩

/-- The sender's number of the next message, and its end of the buffer. -/
structure Offers (d : Descriptor) (count : Nat) (sender : Sender) : Prop where
  producing : sender.buffer.Produces d
  numbered : sender.next = number (count + 1)

theorem Offers.new {buffer : TripleBuffer} (channel : UInt8) (produces : buffer.Produces d) :
    ∃ sender, Sender.new buffer channel = .ok sender ∧ Offers d 0 sender :=
  ⟨⟨buffer, channel, .first⟩, if_pos produces.role, produces, rfl⟩

theorem Offers.next {sender : Sender} (offers : Offers d count sender) :
    Offers d (count + 1) { sender with next := sender.next.next } :=
  ⟨offers.producing, congrArg MessageNumber.next offers.numbered⟩

/-- A post waits until the message before it is settled. -/
theorem Keeps.post {sender : Sender} {format : UInt8} {payload : Bytes}
    (keeps : Keeps d count custody receiver memory) (offers : Offers d (custody.posted count) sender) :
    (Sender.post format payload).Ensures faults anyAccess sender memory
      (fun _ left after => custody = .settled ∧
        left = { sender with next := sender.next.next } ∧
        Keeps d count (.waiting (sender.header sender.next false format payload) payload) receiver after)
      fun _ left after => left = sender ∧ Keeps d count custody receiver after := by
  obtain ⟨published, shown, carries⟩ := keeps.carries
  apply (Sender.post_ensures offers.producing carries).mono (fun _ granted => granted)
  · intro number left after ended
    obtain ⟨_, same, ready, fits, carries⟩ := ended
    rw [shown.length, Custody.ofCount_posted_iff] at ready
    subst ready
    have numbered : sender.next = Channel.number (count + 1) := offers.numbered
    have heads : (sender.header sender.next false format payload).Heads payload :=
      Sender.header_heads (numbered ▸ number_succ_ne_zero count) fits
    exact ⟨rfl, same, keeps.consuming, fun _ => keeps.delivered nofun, _,
      ⟨published, rfl, shown, numbered, heads⟩, carries⟩
  · intro fault left after ended
    obtain ⟨same, carries, _⟩ := ended
    exact ⟨same, keeps.consuming, keeps.delivered, published, shown, carries⟩

/-- The sender is ready when nothing waits or is owed. -/
theorem Keeps.ready {sender : Sender} (keeps : Keeps d count custody receiver memory)
    (producing : sender.buffer.Produces d) :
    Sender.ready.Ensures faults anyAccess sender memory
      (fun answered left after => (answered = true ↔ custody = .settled) ∧ left = sender ∧ after = memory)
      fun fault left after => left = sender ∧ after = memory ∧ faults ∧ fault = .error .medium := by
  obtain ⟨published, shown, carries⟩ := keeps.carries
  apply (Sender.ready_ensures producing carries).mono (fun _ granted => granted)
  · intro answered left after ended
    obtain ⟨rfl, same, quiet⟩ := ended
    rw [beq_iff_eq, shown.length]
    exact ⟨Custody.ofCount_posted_iff, same, quiet⟩
  · intro fault left after ended
    exact ended

/-! The operations above as parts of larger ends, on the side of the sender and of the receiver. -/

/-- An end is ready when its sender is. -/
theorem Keeps.part_ready {σ : Type} {read : σ → Sender} {write : Sender → σ → σ} {state : σ}
    (keeps : Keeps d count custody receiver memory) (whole : write (read state) state = state)
    (producing : (read state).buffer.Produces d) :
    (Action.part read write Sender.ready).Ensures faults anyAccess state memory
      (fun answer left after => (answer = true ↔ custody = .settled) ∧ left = state ∧ after = memory)
      fun _ left after => faults ∧ left = state ∧ after = memory := by
  apply Action.ensures_part
  apply (keeps.ready producing).mono (fun _ granted => granted)
  · intro answer left after answered
    obtain ⟨ready, rfl, quiet⟩ := answered
    exact ⟨ready, whole, quiet⟩
  · intro fault left after lost
    obtain ⟨rfl, quiet, allowed, _⟩ := lost
    exact ⟨allowed, whole, quiet⟩

section Taking

variable {σ α : Type} {read : σ → Receiver} {write : Receiver → σ → σ} {header : Header}
  {payload : Bytes} {state : σ} {world : World} {ok : α → σ → World → Prop}
  {failed : Fault → σ → World → Prop}

/-- A poll with nothing to take leaves all as it is. -/
theorem Keeps.poll_none_then {next : Option Message → Action Host σ α}
    (keeps : Keeps d count custody (read state) world.memory)
    (polls : custody.Polls count none custody)
    (rest : ∀ receiver after, Keeps d count custody receiver after.memory →
      after.events = world.events → (next none).Meets faults (write receiver state) after ok failed)
    (lost : ∀ receiver after, faults → Keeps d count custody receiver after.memory →
      failed (.error .medium) (write receiver state) after) :
    (Action.part read write (Receiver.poll maxMessage).onHost >>= next).Meets faults state world ok
      failed := by
  apply Action.Meets.bind (fun polled left after => polled = none ∧ ∃ receiver,
    left = write receiver state ∧ Keeps d count custody receiver after.memory ∧
      after.events = world.events)
  · apply Action.Ensures.part_onHost
    apply keeps.poll.mono (fun _ granted => granted)
    · intro polled left memory ended after same quiet
      obtain ⟨moved, polls', keeps⟩ := ended
      rw [← same] at keeps
      cases polls with
      | settled =>
        cases polls'
        exact ⟨rfl, left, rfl, keeps, quiet⟩
      | owed =>
        cases polls'
        exact ⟨rfl, left, rfl, keeps, quiet⟩
    · intro fault left memory ended after same _
      obtain ⟨allowed, rfl, keeps⟩ := ended
      exact lost left after allowed (same ▸ keeps)
  · intro polled left after ended
    obtain ⟨rfl, receiver, rfl, keeps, quiet⟩ := ended
    exact rest receiver after keeps quiet

/-- A message that waits is taken, if no access fails. -/
theorem Keeps.poll_some_then {next : Option Message → Action Host σ α}
    (keeps : Keeps d count (.waiting header payload) (read state) world.memory)
    (taken : ∀ message receiver after, message.header = header → message.payload = payload →
      message.duplicate = false → Due count message → Keeps d count .owed receiver after.memory →
      after.events = world.events →
        (next (some message)).Meets faults (write receiver state) after ok failed)
    (missed : ∀ receiver after, faults → Keeps d count (.waiting header payload) receiver after.memory →
      failed (.error .medium) (write receiver state) after) :
    (Action.part read write (Receiver.poll maxMessage).onHost >>= next).Meets faults state world ok
      failed := by
  obtain ⟨published, ⟨_, _, _, numbered, _⟩, _⟩ := keeps.carries
  apply Action.Meets.bind (fun polled left after => ∃ receiver, left = write receiver state ∧
    polled = some ⟨header, Sequence.ofCount (count + 1), false, payload⟩ ∧
    Keeps d count .owed receiver after.memory ∧ after.events = world.events)
  · apply Action.Ensures.part_onHost
    apply keeps.poll.mono (fun _ granted => granted)
    · intro polled left memory ended after same quiet
      obtain ⟨moved, polls, keeps⟩ := ended
      cases polls
      exact ⟨left, rfl, rfl, same ▸ keeps, quiet⟩
    · intro fault left memory ended after same _
      obtain ⟨allowed, rfl, keeps⟩ := ended
      exact missed left after allowed (same ▸ keeps)
  · intro polled left after ended
    obtain ⟨receiver, rfl, rfl, keeps, quiet⟩ := ended
    exact taken _ receiver after rfl rfl rfl ⟨rfl, numbered⟩ keeps quiet

/-- A message that was taken is settled, if the acknowledge does not fail. -/
theorem Keeps.acknowledge_then {message : Message} {next : Unit → Action Host σ α}
    (keeps : Keeps d count .owed (read state) world.memory) (due : Due count message)
    (settled : ∀ receiver after, Keeps d (count + 1) .settled receiver after.memory →
      after.events = world.events → (next ()).Meets faults (write receiver state) after ok failed)
    (lost : ∀ receiver after, faults → Keeps d count .owed receiver after.memory →
      failed (.error .medium) (write receiver state) after) :
    (Action.part read write (Receiver.acknowledge message).onHost >>= next).Meets faults state world ok
      failed := by
  apply Action.Meets.bind (fun _ left after => ∃ receiver, left = write receiver state ∧
    Keeps d (count + 1) .settled receiver after.memory ∧ after.events = world.events)
  · apply Action.Ensures.part_onHost
    apply (keeps.acknowledge due).mono (fun _ granted => granted)
    · intro _ left memory ended after same quiet
      exact ⟨left, rfl, same ▸ ended, quiet⟩
    · intro fault left memory ended after same _
      obtain ⟨allowed, rfl, keeps⟩ := ended
      exact lost left after allowed (same ▸ keeps)
  · intro _ left after ended
    obtain ⟨receiver, rfl, keeps, quiet⟩ := ended
    exact settled receiver after keeps quiet

end Taking

end NodeLink.Channel

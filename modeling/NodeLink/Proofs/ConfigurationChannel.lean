import NodeLink.ConfigurationChannel.Consumer
import NodeLink.ConfigurationChannel.Producer
import NodeLink.Proofs.Acyclic

/-! The configuration channel as an acyclic channel. A write is handled when the dictionary has answered
it, or when its object is not linked. It is judged after the acknowledge, so one whose acknowledge fails
is lost. -/
namespace NodeLink.ConfigurationChannel

open Channel (Custody Keeps)
open TripleBuffer (anyAccess)

/-- A call of the application's end. -/
inductive Request where
  | write (object : ObjectRef) (data : Bytes)
  | process

/-- A table of accepted objects, and the dictionary that it is checked against. -/
structure Table where
  sizeOf : ObjectRef → Option Nat
  links : List Link

inductive Handles (links : List Link) (write : ObjectWrite) (events : List Host.Event) :
    Except Fault (Option ObjectWrite) → Prop where
  | written (linked : links.any (·.accepts write))
      (asked : ⟨.writeObject write.object write.data, .ok ()⟩ ∈ events) :
      Handles links write events (.ok (some write))
  | refused {code : AbortCode} (linked : links.any (·.accepts write))
      (asked : ⟨.writeObject write.object write.data, .error code⟩ ∈ events) :
      Handles links write events (.error (.error (.abort code)))
  | unlinked (unlinked : ¬ links.any (·.accepts write)) :
      Handles links write events (.error (.error (.unlinkedObject write.object)))

/-- A call that applies a write: all that it asks, and what it returns. -/
inductive Applies (links : List Link) (write : ObjectWrite) :
    List Host.Event → Except Fault (Option ObjectWrite) → Prop where
  | written (linked : links.any (·.accepts write)) :
      Applies links write [⟨.writeObject write.object write.data, .ok ()⟩] (.ok (some write))
  | refused {code : AbortCode} (linked : links.any (·.accepts write)) :
      Applies links write [⟨.writeObject write.object write.data, .error code⟩]
        (.error (.error (.abort code)))
  | unlinked (unlinked : ¬ links.any (·.accepts write)) :
      Applies links write [] (.error (.error (.unlinkedObject write.object)))

theorem Applies.handles {links : List Link} {write : ObjectWrite} {events : List Host.Event}
    {result : Except Fault (Option ObjectWrite)} (applies : Applies links write events result) :
    Handles links write events result := by
  cases applies with
  | written linked => exact .written linked List.mem_cons_self
  | refused linked => exact .refused linked List.mem_cons_self
  | unlinked unlinked => exact .unlinked unlinked

theorem Applies.sound {links : List Link} {write : ObjectWrite} {events : List Host.Event}
    {result : Except Fault (Option ObjectWrite)} (applies : Applies links write events result) :
    result ≠ .error (.error .medium) := by
  cases applies <;> exact nofun

def acyclic : Acyclic where
  Producer := Producer
  Consumer := Consumer
  Item := ObjectWrite
  Request := Request
  Report := Option ObjectWrite
  Setting := Table
  Options := Unit
  produce _ := Producer.new
  consume := Consumer.new
  receiver consumer := consumer.receiver
  serve
    | .write object data => Producer.writeObject object data
    | .process => Producer.process
  posts producer
    | .write _ _ => none
    | .process => producer.queue.head?
  ready := Producer.onSender Channel.Sender.ready
  configure table consumer := (consumer.link table.sizeOf table.links).2
  process := Consumer.process
  Handles consumer := Handles consumer.links

def terms : Acyclic.Terms acyclic where
  Offers d count producer := Channel.Offers d count producer.sender
  Tells write _ payload := payload = write.toBytes

variable {faults : Prop} {d : Descriptor} {count : Nat} {custody : Custody}
  {receiver : Channel.Receiver} {memory : SharedMemory} {producer : Producer}

theorem Producer.ready_ensures (offers : Channel.Offers d (custody.posted count) producer.sender)
    (keeps : Keeps d count custody receiver memory) :
    (onSender Channel.Sender.ready).Ensures faults anyAccess producer memory
      (fun answer left after =>
        (answer = true ↔ custody = .settled) ∧ left = producer ∧ after = memory)
      fun _ left after => faults ∧ left = producer ∧ after = memory := by
  unfold onSender
  exact keeps.part_ready rfl offers.producing

theorem Producer.writeObject_ensures (object : ObjectRef) (data : Bytes)
    (offers : Channel.Offers d (custody.posted count) producer.sender)
    (keeps : Keeps d count custody receiver memory) :
    (writeObject object data).Ensures faults anyAccess producer memory
      (fun _ => terms.Posted d count custody receiver none)
      fun _ => terms.Posted d count custody receiver none := by
  unfold Action.Ensures writeObject
  split
  · exact ⟨offers, keeps⟩
  · split
    · exact ⟨offers, keeps⟩
    · exact ⟨offers, keeps⟩

/-- The oldest write is posted and leaves the queue, or nothing changes. -/
theorem Producer.process_posts (offers : Channel.Offers d (custody.posted count) producer.sender)
    (keeps : Keeps d count custody receiver memory) :
    process.Ensures faults anyAccess producer memory
      (fun _ left after => left.queue.toList = producer.queue.toList.tail ∧
        terms.Posted d count custody receiver producer.queue.head? left after)
      fun _ left after => left.queue = producer.queue ∧
        terms.Posted d count custody receiver none left after := by
  unfold process
  apply Action.get_then
  cases head : producer.queue.head? with
  | none =>
    have empty : producer.queue.toList = [] := List.head?_eq_none_iff.mp head
    exact ⟨by rw [empty]; rfl, offers, keeps⟩
  | some write =>
    apply Action.Ensures.bind (fun _ left after => left.queue = producer.queue ∧
      terms.Posted d count custody receiver (some write) left after)
    · apply Action.ensures_part
      apply (keeps.post offers).mono (fun _ granted => granted)
      · intro _ left after posted
        obtain ⟨rfl, rfl, keeps⟩ := posted
        exact ⟨rfl, rfl, offers.next, _, _, rfl, keeps⟩
      · intro fault left after refused
        obtain ⟨rfl, keeps⟩ := refused
        exact ⟨rfl, offers, keeps⟩
    · rintro _ left after ⟨same, posted⟩
      exact ⟨congrArg (fun queue : Queue ObjectWrite queueDepth => queue.toList.tail) same, posted⟩

/-- A write goes to the dictionary if its object is linked. -/
theorem Consumer.apply_applies {consumer : Consumer} {world : World} (write : ObjectWrite) :
    (apply write).Meets faults consumer world
      (fun report left after => left = consumer ∧ after.memory = world.memory ∧
        ∃ more, after.events = world.events ++ more ∧
          Applies consumer.links write more (.ok (some report)))
      fun fault left after => left = consumer ∧ after.memory = world.memory ∧
        ∃ more, after.events = world.events ++ more ∧
          Applies consumer.links write more (.error fault) := by
  unfold apply
  apply Action.Meets.get_then
  split
  · rename_i linked
    apply Action.Meets.ask_then
    · intro access same
      cases same
    · intro answer after memory told
      cases answer with
      | error code => exact ⟨rfl, memory, _, told, .refused linked⟩
      | ok done => exact ⟨rfl, memory, _, told, .written linked⟩
  · rename_i unlinked
    exact ⟨rfl, rfl, [], (List.append_nil _).symm, .unlinked unlinked⟩

/-- The write that waits is taken and applied, if no access fails. -/
theorem Consumer.process_waiting {consumer : Consumer} {world : World} {header : Channel.Header}
    {write : ObjectWrite} {post : Except Fault (Option ObjectWrite) → Consumer → World → Prop}
    (keeps : Keeps d count (.waiting header write.toBytes) consumer.receiver world.memory)
    (applied : ∀ result receiver after more, after.events = world.events ++ more →
      Applies consumer.links write more result → Keeps d (count + 1) .settled receiver after.memory →
        post result ⟨receiver, consumer.links⟩ after)
    (missed : ∀ receiver after, faults →
      Keeps d count (.waiting header write.toBytes) receiver after.memory →
        post (.error (.error .medium)) ⟨receiver, consumer.links⟩ after)
    (lost : ∀ receiver after, faults → Keeps d count .owed receiver after.memory →
      post (.error (.error .medium)) ⟨receiver, consumer.links⟩ after) :
    Consumer.process.Meets faults consumer world (fun report => post (.ok report))
      fun fault => post (.error fault) := by
  apply keeps.poll_some_then
  · intro message receiver after _ same single due owed quiet
    simp only [same, single]
    apply owed.acknowledge_then due
    · intro receiver after settled same
      rw [quiet] at same
      apply Action.Meets.ofExcept_then write.decode_toBytes
      have applies : (apply write).Meets faults ⟨receiver, consumer.links⟩ after _ _ :=
        apply_applies write
      apply Action.Meets.bind _ (applies.mono (fun _ _ _ ended => ended) ?_)
      · rintro report _ last ⟨rfl, memory, more, told, applies⟩
        rw [same] at told
        exact applied _ receiver last more told applies (memory ▸ settled)
      · rintro fault _ last ⟨rfl, memory, more, told, applies⟩
        rw [same] at told
        exact applied _ receiver last more told applies (memory ▸ settled)
    · intro receiver after allowed owed
      exact lost receiver after allowed owed
  · intro receiver after allowed waiting
    exact missed receiver after allowed waiting

theorem Consumer.process_handles {consumer : Consumer} {world : World} {header : Channel.Header}
    {write : ObjectWrite}
    (keeps : Keeps d count (.waiting header write.toBytes) consumer.receiver world.memory) :
    Consumer.process.Meets faults consumer world
      (fun report => Acyclic.Processed acyclic faults d count header write.toBytes write
        consumer world.events (.ok report))
      fun fault => Acyclic.Processed acyclic faults d count header write.toBytes write
        consumer world.events (.error fault) := by
  apply process_waiting keeps
  · intro result receiver after more told applies settled
    exact .handled told applies.sound applies.handles settled
  · intro receiver after allowed waiting
    exact .missed allowed waiting
  · intro receiver after allowed owed
    exact .lost allowed owed

theorem Producer.new_offers {buffer : TripleBuffer} (produces : buffer.Produces d)
    (made : Producer.new buffer = .ok producer) : Channel.Offers d 0 producer.sender := by
  obtain ⟨sender, opened, offers⟩ := Channel.Offers.new 0 produces
  unfold Producer.new at made
  split at made
  · contradiction
  rw [opened] at made
  cases made
  exact offers

theorem lawful : terms.Lawful where
  produces := Producer.new_offers
  consumes {d buffer consumer} consumes made := by
    change Consumer.new buffer = .ok consumer at made
    unfold Consumer.new at made
    rw [Channel.Receiver.new_of_consumes consumes] at made
    cases made
    rfl
  serves request offers keeps := by
    cases request with
    | write object data => exact Producer.writeObject_ensures object data offers keeps
    | process =>
      exact (Producer.process_posts offers keeps).mono (fun _ granted => granted)
        (fun _ _ _ posted => posted.2) fun _ _ _ refused => refused.2
  answers offers keeps := Producer.ready_ensures offers keeps
  configures table consumer := rfl
  rests polls keeps := by
    apply keeps.poll_none_then polls
    · intro receiver after kept _
      exact kept
    · intro receiver after _ kept
      exact kept
  processes {faults d count header payload item consumer world} tells keeps := by
    change payload = item.toBytes at tells
    subst tells
    exact Consumer.process_handles keeps

end NodeLink.ConfigurationChannel

import NodeLink.Proofs.ConfigurationChannel
import Mathlib.Data.List.Forall2

/-! Object writes from the application to the dictionary, where no access fails. An accepted write is
queued, then in the buffer until it is acknowledged, then applied; they pass through in order, and none
is in two places. -/
namespace NodeLink.ConfigurationChannel

open Channel (Custody Keeps)
open TripleBuffer (anyAccess)

/-- A call of either end. -/
inductive Call where
  | write (object : ObjectRef) (data : Bytes)
  | post
  | apply

/-- What is seen of a call. -/
inductive Sight where
  /-- With the number of writes that were queued before. -/
  | wrote (object : ObjectRef) (data : Bytes) (queued : Nat) (result : Except Fault Unit)
  | posted (result : Except Fault Unit)
  | applied (events : List Host.Event) (result : Except Fault (Option ObjectWrite))

namespace Sight

/-- The write that a call accepted. -/
def accepted? : Sight → Option (ObjectRef × Bytes)
  | wrote object data _ (.ok ()) => some (object, data)
  | _ => none

/-- A call that found something to apply. -/
def handling? : Sight → Option (List Host.Event × Except Fault (Option ObjectWrite))
  | applied [] (.ok none) => none
  | applied events result => some (events, result)
  | _ => none

/-- A write is refused for its length, or because the queue is full. -/
def Answered : Sight → Prop
  | wrote _ data queued result => result =
    if maxData < data.length then .error (.error .payloadTooLarge)
    else if queued = queueDepth then .error .busy else .ok ()
  | _ => True

end Sight

def ObjectWrite.content (write : ObjectWrite) : ObjectRef × Bytes := (write.object, write.data)

/-- The write in the buffer that is not acknowledged, as an onlooker with ends of its own finds it. -/
def unacknowledged (d : Descriptor) (memory : SharedMemory) : Option ObjectWrite :=
  match (TripleBuffer.acknowledged.runFailing (fun _ => false) (.new .producer d 0) memory).1.1,
    ((Channel.Receiver.poll Channel.maxMessage).runFailing (fun _ => false)
      ⟨.new .consumer d 0, .none⟩ memory).1.1 with
  | .ok false, .ok (some message) => (ObjectWrite.decode message.payload).toOption
  | _, _ => none

/-- Both ends and the world they work in. -/
structure Line where
  producer : Producer
  consumer : Consumer
  world : World
  log : List Sight

namespace Line

/-- Start a channel over memory without faults, and link the table. -/
def setUp (owner : Role) (d : Descriptor) (table : Table) (memory : SharedMemory) :
    Except Fault Line :=
  match Acyclic.System.setUp acyclic owner d () memory with
  | .error fault => .error fault
  | .ok system =>
    match Consumer.link system.consumer table.sizeOf table.links with
    | (.error error, _) => .error (.error error)
    | (.ok (), consumer) => .ok ⟨system.producer, consumer, system.world, []⟩

def write (surroundings : Surroundings) (line : Line) (object : ObjectRef) (data : Bytes) : Line :=
  let ((result, producer), world) :=
    (Producer.writeObject object data).onHost.run surroundings.onHost line.producer line.world
  { line with
    producer, world, log := line.log ++ [.wrote object data line.producer.queue.size result] }

def post (surroundings : Surroundings) (line : Line) : Line :=
  let ((result, producer), world) :=
    Producer.process.onHost.run surroundings.onHost line.producer line.world
  { line with producer, world, log := line.log ++ [.posted result] }

def apply (surroundings : Surroundings) (line : Line) : Line :=
  let ((result, consumer), world) :=
    Consumer.process.run surroundings.onHost line.consumer line.world
  let events := world.events.drop line.world.events.length
  { line with consumer, world, log := line.log ++ [.applied events result] }

def call (surroundings : Surroundings) (line : Line) : Call → Line
  | .write object data => line.write surroundings object data
  | .post => line.post surroundings
  | .apply => line.apply surroundings

def after (surroundings : Surroundings) (line : Line) (calls : List Call) : Line :=
  calls.foldl (call surroundings) line

end Line

variable {faults : Prop} {d : Descriptor} {count : Nat} {custody : Custody}
  {receiver : Channel.Receiver} {memory : SharedMemory} {links : List Link} {line : Line}
  {handled : List ObjectWrite} {waiting : Option ObjectWrite}

/-- The write that the buffer holds unacknowledged. -/
inductive Occupies : Custody → Option ObjectWrite → Prop where
  | settled : Occupies .settled none
  | waiting (header : Channel.Header) (write : ObjectWrite) :
      Occupies (.waiting header write.toBytes) (some write)

/-- An onlooker learns whether the last write was acknowledged. -/
theorem onlooker_told {published : List Bytes} {acked : Sequence}
    (carries : d.Carries memory published acked) :
    (TripleBuffer.acknowledged.runFailing (fun _ => false) (.new .producer d 0) memory).1.1 =
      .ok (Sequence.ofCount published.length == acked) := by
  have told : TripleBuffer.acknowledged.Ensures (Action.Fails fun _ => false) anyAccess
      (.new .producer d 0) memory _ _ := TripleBuffer.acknowledged_ensures ⟨rfl, rfl⟩ carries
  have asked := told.runFailing
  generalize TripleBuffer.acknowledged.runFailing (fun _ => false) (.new .producer d 0) memory =
    answer at asked
  obtain ⟨⟨fault | answer, _⟩, _⟩ := answer
  · exact absurd asked.2.2.1 Action.not_fails
  · exact congrArg Except.ok asked.1

/-- An onlooker that has seen no number finds the last message. -/
theorem onlooker_polls {earlier : List Bytes} {payload : Bytes} {acked : Sequence}
    {header : Channel.Header} (heads : header.Heads payload)
    (carries : d.Carries memory (earlier ++ [header.toBytes ++ payload]) acked) :
    ∃ message : Channel.Message, message.payload = payload ∧
      ((Channel.Receiver.poll Channel.maxMessage).runFailing (fun _ => false)
        ⟨.new .consumer d 0, .none⟩ memory).1.1 = .ok (some message) := by
  have last : (earlier ++ [header.toBytes ++ payload]).getLast? = some (header.toBytes ++ payload) :=
    List.getLast?_concat
  have polls : (Channel.Receiver.poll Channel.maxMessage).Ensures (Action.Fails fun _ => false)
      anyAccess ⟨.new .consumer d 0, .none⟩ memory _ _ :=
    Channel.Receiver.poll_ensures ⟨rfl, rfl, rfl⟩ carries fun _ bytes found =>
      ⟨header, payload, (Option.some.inj (last.symm.trans found)).symm, heads⟩
  have polled := polls.runFailing
  generalize (Channel.Receiver.poll Channel.maxMessage).runFailing (fun _ => false)
    ⟨.new .consumer d 0, .none⟩ memory = looked at polled
  obtain ⟨⟨fault | message, _⟩, _⟩ := looked
  · exact absurd polled.2.2.2.1 Action.not_fails
  obtain ⟨found, -⟩ := polled
  cases message with
  | none =>
    have fresh : (Sequence.ofCount (earlier.length + 1)).isFresh 0 = true := by
      simp [Sequence.isFresh, Sequence.ofCount_eq_zero_iff]
    have stale := found.1
    rw [List.length_append, List.length_singleton] at stale
    cases fresh.symm.trans stale
  | some message =>
    obtain ⟨-, -, latest, heads', -⟩ := found
    obtain ⟨-, same⟩ := heads.unique heads' (Option.some.inj (last.symm.trans latest))
    exact ⟨message, same.symm, rfl⟩

/-- An onlooker finds the write that waits, and no other. -/
theorem Occupies.unacknowledged (occupies : Occupies custody waiting)
    (keeps : Keeps d count custody receiver memory) : unacknowledged d memory = waiting := by
  obtain ⟨published, shown, carries⟩ := keeps.carries
  unfold ConfigurationChannel.unacknowledged
  rw [onlooker_told carries, shown.length]
  cases occupies with
  | settled => simp only [Custody.posted, beq_self_eq_true]
  | waiting header write =>
    obtain ⟨earlier, rfl, -, -, heads⟩ := shown
    obtain ⟨message, payload, polls⟩ := onlooker_polls heads carries
    simp only [Custody.posted, beq_false_of_ne (Sequence.ofCount_succ_ne _), polls, payload,
      write.decode_toBytes]
    rfl

/-- The table is linked as it is, or not at all. -/
theorem checkLinks_ok {sizeOf : ObjectRef → Option Nat} {linked result : List Link}
    (checked : Consumer.checkLinks sizeOf linked links = (.ok (), result)) :
    result = linked ++ links := by
  induction links generalizing linked with
  | nil =>
    cases checked
    exact (List.append_nil _).symm
  | cons link rest ih =>
    unfold Consumer.checkLinks at checked
    split at checked
    · cases checked
    · split at checked
      · cases checked
      · rw [ih checked, List.append_assoc]
        rfl

/-- The writes that a log shows: those that were handled, and those that are to be. -/
structure Accounts (links : List Link) (log : List Sight) (handled ahead : List ObjectWrite) :
    Prop where
  accepted : log.filterMap Sight.accepted? = (handled ++ ahead).map ObjectWrite.content
  applied : List.Forall₂ (fun write handling => Applies links write handling.1 handling.2) handled
    (log.filterMap Sight.handling?)
  answered : ∀ sight ∈ log, sight.Answered

namespace Accounts

variable {log : List Sight} {ahead : List ObjectWrite} {sight : Sight}

theorem answered_append (accounts : Accounts links log handled ahead) (answered : sight.Answered) :
    ∀ other ∈ log ++ [sight], other.Answered := by
  intro other member
  rcases List.mem_append.mp member with earlier | last
  · exact accounts.answered other earlier
  · exact List.mem_singleton.mp last ▸ answered

theorem quiet (accounts : Accounts links log handled ahead) (unaccepted : sight.accepted? = none)
    (idle : sight.handling? = none) (answered : sight.Answered) :
    Accounts links (log ++ [sight]) handled ahead where
  accepted := by
    simp only [List.filterMap_append, List.filterMap_cons, unaccepted, List.filterMap_nil,
      List.append_nil, accounts.accepted]
  applied := by
    simpa only [List.filterMap_append, List.filterMap_cons, idle, List.filterMap_nil,
      List.append_nil] using accounts.applied
  answered := accounts.answered_append answered

theorem accept {write : ObjectWrite} (accounts : Accounts links log handled ahead)
    (taken : sight.accepted? = some write.content) (idle : sight.handling? = none)
    (answered : sight.Answered) : Accounts links (log ++ [sight]) handled (ahead ++ [write]) where
  accepted := by
    simp only [List.filterMap_append, List.filterMap_cons, taken, List.filterMap_nil,
      accounts.accepted, List.map_append, List.map_cons, List.map_nil, List.append_assoc]
  applied := by
    simpa only [List.filterMap_append, List.filterMap_cons, idle, List.filterMap_nil,
      List.append_nil] using accounts.applied
  answered := accounts.answered_append answered

theorem handle {write : ObjectWrite} {events : List Host.Event}
    {result : Except Fault (Option ObjectWrite)} (accounts : Accounts links log handled (write :: ahead))
    (applies : Applies links write events result) :
    Accounts links (log ++ [.applied events result]) (handled ++ [write]) ahead where
  accepted := by
    simp only [List.filterMap_append, List.filterMap_cons, Sight.accepted?, List.filterMap_nil,
      List.append_nil, accounts.accepted, List.append_assoc, List.singleton_append]
  applied := by
    have shown : (Sight.applied events result).handling? = some (events, result) := by
      cases applies <;> rfl
    rw [List.filterMap_append, List.filterMap_cons, shown]
    exact List.rel_append accounts.applied (.cons applies .nil)
  answered := accounts.answered_append trivial

end Accounts

/-- A call of the consumer that applied a write. -/
def Consumer.Took (d : Descriptor) (count : Nat) (consumer : Consumer) (world : World)
    (write : ObjectWrite) (result : Except Fault (Option ObjectWrite)) (left : Consumer)
    (after : World) : Prop :=
  left.links = consumer.links ∧ Keeps d (count + 1) .settled left.receiver after.memory ∧
    ∃ more, after.events = world.events ++ more ∧ Applies consumer.links write more result

/-- The writes accepted so far, by where they are. -/
structure Line.Stands (d : Descriptor) (links : List Link) (line : Line) (count : Nat)
    (custody : Custody) (handled : List ObjectWrite) (waiting : Option ObjectWrite) : Prop where
  offers : Channel.Offers d (custody.posted count) line.producer.sender
  keeps : Keeps d count custody line.consumer.receiver line.world.memory
  linked : line.consumer.links = links
  occupies : Occupies custody waiting
  accounts : Accounts links line.log handled (waiting.toList ++ line.producer.queue.toList)

namespace Line.Stands

/-- A write that is accepted joins the queue. -/
theorem write (surroundings : Surroundings) (stands : line.Stands d links count custody handled waiting)
    (object : ObjectRef) (data : Bytes) :
    (line.write surroundings object data).Stands d links count custody handled waiting := by
  obtain ⟨offers, keeps, linked, occupies, accounts⟩ := stands
  have ran {result : Except Fault Unit} {producer : Producer}
      (ends : Producer.writeObject object data line.producer = .done (result, producer)) :
      line.write surroundings object data = { line with
        producer, log := line.log ++ [.wrote object data line.producer.queue.size result] } := by
    simp only [Line.write, Action.run, Action.onHost, Action.interpret, ends, Prog.interpret,
      Prog.run_done]
  by_cases short : data.length ≤ maxData
  · have fits : ¬ maxData < data.length := Nat.not_lt.mpr short
    cases pushed : line.producer.queue.push? ⟨object, data, short⟩ with
    | none =>
      have full : line.producer.queue.size = queueDepth := (Queue.push?_eq_none _ _).mp pushed
      have busy : Producer.writeObject object data line.producer =
          .done (.error .busy, line.producer) := by
        simp only [Producer.writeObject, ObjectWrite.new, dif_pos short, pushed]
      rw [ran busy]
      refine ⟨offers, keeps, linked, occupies, accounts.quiet rfl rfl ?_⟩
      simp only [Sight.Answered, if_neg fits, if_pos full]
    | some queue =>
      obtain ⟨room, grown⟩ := (Queue.push?_eq_some _ _ _).mp pushed
      have taken : Producer.writeObject object data line.producer =
          .done (.ok (), { line.producer with queue }) := by
        simp only [Producer.writeObject, ObjectWrite.new, dif_pos short, pushed]
      have accepted : Accounts links
          (line.log ++ [.wrote object data line.producer.queue.size (.ok ())]) handled
          (waiting.toList ++ line.producer.queue.toList ++ [⟨object, data, short⟩]) := by
        refine accounts.accept rfl rfl ?_
        simp only [Sight.Answered, if_neg fits, if_neg (Nat.ne_of_lt room)]
      rw [List.append_assoc, ← grown] at accepted
      rw [ran taken]
      exact ⟨offers, keeps, linked, occupies, accepted⟩
  · have large : Producer.writeObject object data line.producer =
        .done (.error (.error .payloadTooLarge), line.producer) := by
      simp only [Producer.writeObject, ObjectWrite.new, dif_neg short]
    rw [ran large]
    refine ⟨offers, keeps, linked, occupies, accounts.quiet rfl rfl ?_⟩
    exact (if_pos (Nat.lt_of_not_le short)).symm

/-- The oldest queued write moves into the buffer, or nothing does. -/
theorem post (surroundings : Surroundings)
    (stands : line.Stands d links count custody handled waiting) :
    ∃ moved taken, (line.post surroundings).Stands d links count moved handled taken := by
  obtain ⟨offers, keeps, linked, occupies, accounts⟩ := stands
  have posts : Producer.process.Ensures surroundings.Faulty anyAccess line.producer line.world.memory
      _ _ := Producer.process_posts offers keeps
  have ended := posts.onHost.run surroundings
  unfold Line.post
  generalize Producer.process.onHost.run surroundings.onHost line.producer line.world = outcome at ended
  obtain ⟨⟨fault | done, producer⟩, world⟩ := outcome
  · obtain ⟨⟨queue, offers, keeps⟩, -⟩ := ended
    exact ⟨custody, waiting, offers, keeps, linked, occupies, (queue ▸ accounts).quiet rfl rfl trivial⟩
  · obtain ⟨⟨queue, posted⟩, -⟩ := ended
    cases head : line.producer.queue.head? with
    | none =>
      have empty : line.producer.queue.toList = [] := List.head?_eq_none_iff.mp head
      have same : producer.queue.toList = line.producer.queue.toList := by rw [queue, empty]; rfl
      rw [head] at posted
      exact ⟨custody, waiting, posted.1, posted.2, linked, occupies,
        (same ▸ accounts).quiet rfl rfl trivial⟩
    | some write =>
      rw [head] at posted
      obtain ⟨rfl, offers, header, _, rfl, keeps⟩ := posted
      cases occupies
      obtain ⟨rest, split⟩ : ∃ rest, line.producer.queue.toList = write :: rest :=
        List.head?_eq_some_iff.mp head
      have same : write :: producer.queue.toList = line.producer.queue.toList := by
        rw [queue, split]
        rfl
      exact ⟨.waiting header write.toBytes, some write, offers, keeps, linked, .waiting header write,
        (same ▸ accounts).quiet rfl rfl trivial⟩

/-- A call with nothing to apply changes nothing. -/
theorem rest {surroundings : Surroundings} (calm : ¬ surroundings.Faulty)
    (stands : line.Stands d links count .settled handled none) :
    (line.apply surroundings).Stands d links count .settled handled none := by
  obtain ⟨offers, keeps, rfl, _, accounts⟩ := stands
  have rests : Consumer.process.Meets surroundings.Faulty line.consumer line.world
      (fun report left after => report = none ∧ left.links = line.consumer.links ∧
        after.events = line.world.events ∧ Keeps d count .settled left.receiver after.memory)
      fun _ _ _ => False := by
    refine keeps.poll_none_then .settled ?_ ?_
    · intro receiver after keeps quiet
      exact ⟨rfl, rfl, quiet, keeps⟩
    · intro receiver after faulty _
      exact calm faulty
  have ended := rests.run surroundings
  unfold Line.apply
  generalize Consumer.process.run surroundings.onHost line.consumer line.world = outcome at ended
  obtain ⟨⟨fault | report, consumer⟩, world⟩ := outcome
  · exact ended.elim
  · obtain ⟨rfl, linked, quiet, keeps⟩ := ended
    refine ⟨offers, keeps, linked, .settled, ?_⟩
    change world.events = _ at quiet
    simp only [quiet, List.drop_length]
    exact accounts.quiet rfl rfl trivial

/-- The write that waits is applied and settled. -/
theorem take {surroundings : Surroundings} {header : Channel.Header} {write : ObjectWrite}
    (calm : ¬ surroundings.Faulty) (stands : line.Stands d links count
      (.waiting header write.toBytes) handled (some write)) :
    (line.apply surroundings).Stands d links (count + 1) .settled (handled ++ [write]) none := by
  obtain ⟨offers, keeps, rfl, _, accounts⟩ := stands
  have processes : Consumer.process.Meets surroundings.Faulty line.consumer line.world
      (fun report => Consumer.Took d count line.consumer line.world write (.ok report))
      fun fault => Consumer.Took d count line.consumer line.world write (.error fault) := by
    apply Consumer.process_waiting keeps
    · intro result receiver after more told applies keeps
      exact ⟨rfl, keeps, more, told, applies⟩
    · intro receiver after faulty _
      exact absurd faulty calm
    · intro receiver after faulty _
      exact absurd faulty calm
  have ended := processes.run surroundings
  unfold Line.apply
  generalize Consumer.process.run surroundings.onHost line.consumer line.world = outcome at ended
  obtain ⟨⟨result, consumer⟩, world⟩ := outcome
  have took : Consumer.Took d count line.consumer line.world write result consumer world := by
    cases result <;> exact ended
  obtain ⟨linked, keeps, more, told, applies⟩ := took
  refine ⟨offers, keeps, linked, .settled, ?_⟩
  simp only [told, List.drop_left]
  exact accounts.handle applies

theorem call {surroundings : Surroundings} (calm : ¬ surroundings.Faulty)
    (stands : line.Stands d links count custody handled waiting) (call : Call) :
    ∃ next moved handled waiting,
      (line.call surroundings call).Stands d links next moved handled waiting := by
  cases call with
  | write object data => exact ⟨_, _, _, _, stands.write surroundings object data⟩
  | post =>
    obtain ⟨moved, taken, stands⟩ := stands.post surroundings
    exact ⟨_, _, _, _, stands⟩
  | apply =>
    have occupies := stands.occupies
    cases occupies with
    | settled => exact ⟨_, _, _, _, stands.rest calm⟩
    | waiting header write => exact ⟨_, _, _, _, stands.take calm⟩

theorem after {surroundings : Surroundings} (calm : ¬ surroundings.Faulty)
    (stands : line.Stands d links count custody handled waiting) (calls : List Call) :
    ∃ next moved handled waiting,
      (line.after surroundings calls).Stands d links next moved handled waiting := by
  induction calls generalizing line count custody handled waiting with
  | nil => exact ⟨_, _, _, _, stands⟩
  | cons call rest ih =>
    obtain ⟨_, _, _, _, stands⟩ := stands.call calm call
    exact ih stands

end Line.Stands

theorem Producer.new_empty {buffer : TripleBuffer} {producer : Producer}
    (made : Producer.new buffer = .ok producer) : producer.queue = .empty := by
  unfold Producer.new at made
  split at made
  · contradiction
  · cases opened : Channel.Sender.new buffer 0 with
    | error error =>
      rw [opened] at made
      cases made
    | ok sender =>
      rw [opened] at made
      cases made
      rfl

theorem setUp_empty {owner : Role} {system : Acyclic.System acyclic}
    (made : Acyclic.System.setUp acyclic owner d () memory = .ok system) :
    system.producer.queue = .empty := by
  unfold Acyclic.System.setUp at made
  split at made
  · contradiction
  · split at made
    · rename_i opened _
      cases made
      exact Producer.new_empty opened
    · contradiction
    · contradiction

theorem Line.setUp_stands {owner : Role} {table : Table}
    (made : Line.setUp owner d table memory = .ok line) :
    line.Stands d table.links 0 .settled [] none := by
  unfold Line.setUp at made
  split at made
  · contradiction
  rename_i system started
  have stands := Acyclic.System.setUp_stands lawful started
  split at made
  · contradiction
  rename_i consumer linked
  cases made
  obtain ⟨checked, rfl⟩ := Prod.mk.inj linked
  have empty := setUp_empty started
  refine ⟨stands.offers, stands.keeps, ?_, .settled, ⟨by rw [empty]; rfl, .nil, nofun⟩⟩
  exact (checkLinks_ok (Prod.ext checked rfl)).trans (List.nil_append _)

/-- Where no access fails, the writes that were applied are the first ones accepted, in order and each
once; one goes to the dictionary, as it was given, if the table accepts it, and is reported as unlinked
if not. The others are queued but for one, which may be in the buffer unacknowledged. A write is refused
for its length or for a full queue alone. -/
theorem accepted_applied_in_order {owner : Role} {d : Descriptor} {table : Table}
    {memory : SharedMemory} {line : Line} (made : Line.setUp owner d table memory = .ok line)
    (surroundings : Surroundings) (calls : List Call) :
    let last := line.after surroundings.calm calls
    ∃ handled : List ObjectWrite,
      List.Forall₂ (fun write handling => Applies table.links write handling.1 handling.2) handled
        (last.log.filterMap Sight.handling?) ∧
      last.log.filterMap Sight.accepted? =
        (handled ++ (unacknowledged d last.world.memory).toList ++ last.producer.queue.toList).map
          ObjectWrite.content ∧
      ∀ sight ∈ last.log, sight.Answered := by
  intro last
  obtain ⟨_, _, handled, waiting, stands⟩ :=
    (Line.setUp_stands made).after surroundings.not_faulty_calm calls
  refine ⟨handled, stands.accounts.applied, ?_, stands.accounts.answered⟩
  rw [stands.occupies.unacknowledged stands.keeps, List.append_assoc]
  exact stands.accounts.accepted

/-- Two of four accepted writes were applied, one to the dictionary and one that is not linked; the third
is in the buffer and the fourth is queued. -/
theorem accepted_applied_in_order_halfway :
    let object : ObjectRef := ⟨0x2000, 1⟩
    let table : Table := ⟨fun asked => if asked = object then some 2 else none, [⟨object, 2⟩]⟩
    let surroundings : Surroundings := ⟨fun _ => true, fun _ => Surroundings.plainAnswer⟩
    let calls : List Call := [.write object [1, 2], .write ⟨0x3000, 0⟩ [7],
      .write object (Bytes.zeros 9), .post, .apply, .post, .apply, .write object [3, 4],
      .write object [5, 6], .post, .post]
    ∃ line, Line.setUp .consumer ⟨.configuration, 0, 18⟩ table (.zeroed 0 28) = .ok line ∧
      let last := line.after surroundings.calm calls
      last.log.filterMap Sight.accepted? =
        [(object, [1, 2]), (⟨0x3000, 0⟩, [7]), (object, [3, 4]), (object, [5, 6])] ∧
      ∃ handled : List ObjectWrite,
        handled.map ObjectWrite.content = [(object, [1, 2]), (⟨0x3000, 0⟩, [7])] ∧
        List.Forall₂ (fun write handling => Applies table.links write handling.1 handling.2) handled
          (last.log.filterMap Sight.handling?) := by
  intro object table surroundings calls
  have started : ∃ line, Line.setUp .consumer ⟨.configuration, 0, 18⟩ table (.zeroed 0 28) = .ok line ∧
      (line.after surroundings.calm calls).log.filterMap Sight.accepted? =
        [(object, [1, 2]), (⟨0x3000, 0⟩, [7]), (object, [3, 4]), (object, [5, 6])] ∧
      (unacknowledged ⟨.configuration, 0, 18⟩
        (line.after surroundings.calm calls).world.memory).toList.map ObjectWrite.content =
        [(object, [3, 4])] ∧
      (line.after surroundings.calm calls).producer.queue.toList.map ObjectWrite.content =
        [(object, [5, 6])] :=
    ⟨_, rfl, by decide +kernel, by decide +kernel, by decide +kernel⟩
  obtain ⟨line, made, accepted, waiting, queued⟩ := started
  obtain ⟨handled, applied, order, -⟩ := accepted_applied_in_order made surroundings calls
  refine ⟨line, made, accepted, handled, ?_, applied⟩
  rw [List.map_append, List.map_append, waiting, queued, accepted, List.append_assoc] at order
  exact (List.append_cancel_right order).symm

end NodeLink.ConfigurationChannel

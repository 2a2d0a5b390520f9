import NodeLink.Proofs.Agreement
import NodeLink.Proofs.Channel.Custody
import NodeLink.Proofs.Log
import NodeLink.Proofs.TripleBuffer.Connection

/-! Acyclic channels. One end posts a message once the one before was acknowledged; the other takes,
handles and acknowledges it in a single call. When an access fails in that call, the message is still
there for a later one, or it was taken and its acknowledge is lost for good. -/
namespace NodeLink

open Channel (Custody Keeps)
open TripleBuffer (anyAccess)

/-- The ends of an acyclic channel, and when one of its messages counts as handled. -/
structure Acyclic where
  Producer : Type
  Consumer : Type
  /-- What one message tells. -/
  Item : Type
  /-- A call of the producer. -/
  Request : Type
  /-- What a call of the consumer returns. -/
  Report : Type
  /-- A change of what the consumer accepts. -/
  Setting : Type
  Options : Type
  produce : Options → TripleBuffer → Except Error Producer
  consume : TripleBuffer → Except Error Consumer
  receiver : Consumer → Channel.Receiver
  serve : Request → Action Medium Producer Unit
  /-- What a call posts if it succeeds. -/
  posts : Producer → Request → Option Item
  ready : Action Medium Producer Bool
  configure : Setting → Consumer → Consumer
  process : Action Host Consumer Report
  /-- Whether a call handled an item, from what it asked its surroundings and what it returned. -/
  Handles : Consumer → Item → List Host.Event → Except Fault Report → Prop

namespace Acyclic

inductive Call (channel : Acyclic) where
  | serve (request : channel.Request)
  | configure (setting : channel.Setting)
  | process

/-- What can be seen of a call. -/
inductive Sight (channel : Acyclic) where
  | posted (item : channel.Item)
  | processed (before after : channel.Consumer) (events : List Host.Event)
    (result : Except Fault channel.Report)

structure System (channel : Acyclic) where
  producer : channel.Producer
  consumer : channel.Consumer
  world : World
  log : List (Sight channel)

variable {channel : Acyclic}

namespace Sight

def Handles (item : channel.Item) : Sight channel → Prop
  | posted _ => False
  | processed before _ events result => channel.Handles before item events result

/-- A message was taken, but the call failed on the memory all the same. -/
def Loses : Sight channel → Prop
  | processed before after _ (.error (.error .medium)) =>
    (channel.receiver after).buffer.lastSeen ≠ (channel.receiver before).buffer.lastSeen
  | _ => False

instance : DecidablePred (Loses : Sight channel → Prop)
  | posted _ => .isFalse id
  | processed _ _ _ (.ok _) => .isFalse id
  | processed _ _ _ (.error .busy) => .isFalse id
  | processed before after events (.error (.error error)) =>
    if medium : error = .medium then
      decidable_of_iff
        ((channel.receiver after).buffer.lastSeen ≠ (channel.receiver before).buffer.lastSeen)
        (by rw [medium]; rfl)
    else .isFalse (by unfold Loses; split <;> simp_all)

end Sight

namespace System

/-- Start a channel over memory without faults. -/
def setUp (channel : Acyclic) (owner : Role) (d : Descriptor) (options : channel.Options)
    (memory : SharedMemory) : Except Fault (System channel) :=
  match (TripleBuffer.connect owner d).inWords.run SharedMemory.onWords memory with
  | (.error fault, _) => .error fault
  | (.ok (producing, consuming), memory) =>
    match channel.produce options producing, channel.consume consuming with
    | .ok producer, .ok consumer => .ok ⟨producer, consumer, ⟨memory, 0, []⟩, []⟩
    | .error error, _ | _, .error error => .error (.error error)

def serve (surroundings : Surroundings) (system : System channel) (request : channel.Request) :
    System channel :=
  let ((result, producer), world) :=
    (channel.serve request).onHost.run surroundings.onHost system.producer system.world
  match result, channel.posts system.producer request with
  | .ok _, some item => { system with producer, world, log := system.log ++ [.posted item] }
  | _, _ => { system with producer, world }

def process (surroundings : Surroundings) (system : System channel) : System channel :=
  let ((result, consumer), world) :=
    channel.process.run surroundings.onHost system.consumer system.world
  let events := world.events.drop system.world.events.length
  { system with
    consumer, world, log := system.log ++ [.processed system.consumer consumer events result] }

def call (surroundings : Surroundings) (system : System channel) : Call channel → System channel
  | .serve request => system.serve surroundings request
  | .configure setting => { system with consumer := channel.configure setting system.consumer }
  | .process => system.process surroundings

def after (surroundings : Surroundings) (system : System channel) (calls : List (Call channel)) :
    System channel := calls.foldl (call surroundings) system

/-- Whether the producer may post, where no access fails. -/
def ready (system : System channel) : Except Fault Bool :=
  (channel.ready.runFailing (fun _ => false) system.producer system.world.memory).1.1

/-- Every message that was posted has been handled since. -/
def Served (system : System channel) : Prop :=
  ∀ earlier item later, system.log = earlier ++ .posted item :: later →
    ∃ sight ∈ later, sight.Handles item

end System

section Processed

variable (channel : Acyclic) (faults : Prop) (d : Descriptor) (count : Nat) (header : Channel.Header)
  (payload : Bytes) (item : channel.Item) (consumer : channel.Consumer) (events : List Host.Event)

/-- Where a call of `process` leaves the item that waits. -/
inductive Processed : Except Fault channel.Report → channel.Consumer → World → Prop where
  | missed {left : channel.Consumer} {after : World} (allowed : faults)
      (keeps : Keeps d count (.waiting header payload) (channel.receiver left) after.memory) :
      Processed (.error (.error .medium)) left after
  | lost {left : channel.Consumer} {after : World} (allowed : faults)
      (keeps : Keeps d count .owed (channel.receiver left) after.memory) :
      Processed (.error (.error .medium)) left after
  | handled {result : Except Fault channel.Report} {left : channel.Consumer} {after : World}
      {more : List Host.Event} (told : after.events = events ++ more)
      (sound : result ≠ .error (.error .medium)) (handles : channel.Handles consumer item more result)
      (keeps : Keeps d (count + 1) .settled (channel.receiver left) after.memory) :
      Processed result left after

end Processed

/-- What the ends of a channel agree on: what the producer keeps when so many messages were posted, and
how an item is written. -/
structure Terms (channel : Acyclic) where
  Offers : Descriptor → Nat → channel.Producer → Prop
  Tells : channel.Item → Channel.Header → Bytes → Prop

namespace Terms

variable (terms : Terms channel)

/-- What a call of the producer leaves, if it posts this item or none. -/
def Posted (d : Descriptor) (count : Nat) (custody : Custody) (receiver : Channel.Receiver) :
    Option channel.Item → channel.Producer → SharedMemory → Prop
  | none, producer, memory => terms.Offers d (custody.posted count) producer ∧
    Keeps d count custody receiver memory
  | some item, producer, memory => custody = .settled ∧ terms.Offers d (count + 1) producer ∧
    ∃ header payload, terms.Tells item header payload ∧
      Keeps d count (.waiting header payload) receiver memory

/-- What each call of a channel ensures. -/
structure Lawful : Prop where
  produces {d : Descriptor} {options : channel.Options} {buffer : TripleBuffer}
    {producer : channel.Producer} (produces : buffer.Produces d)
    (made : channel.produce options buffer = .ok producer) : terms.Offers d 0 producer
  consumes {d : Descriptor} {buffer : TripleBuffer} {consumer : channel.Consumer}
    (consumes : buffer.Consumes d 0) (made : channel.consume buffer = .ok consumer) :
    channel.receiver consumer = ⟨buffer, .none⟩
  serves {faults : Prop} {d : Descriptor} {count : Nat} {custody : Custody}
    {producer : channel.Producer} {receiver : Channel.Receiver} {memory : SharedMemory}
    (request : channel.Request) (offers : terms.Offers d (custody.posted count) producer)
    (keeps : Keeps d count custody receiver memory) :
    (channel.serve request).Ensures faults anyAccess producer memory
      (fun _ => terms.Posted d count custody receiver (channel.posts producer request))
      fun _ => terms.Posted d count custody receiver none
  answers {faults : Prop} {d : Descriptor} {count : Nat} {custody : Custody}
    {producer : channel.Producer} {receiver : Channel.Receiver} {memory : SharedMemory}
    (offers : terms.Offers d (custody.posted count) producer)
    (keeps : Keeps d count custody receiver memory) :
    channel.ready.Ensures faults anyAccess producer memory
      (fun answer left after => (answer = true ↔ custody = .settled) ∧ left = producer ∧ after = memory)
      fun _ left after => faults ∧ left = producer ∧ after = memory
  configures (setting : channel.Setting) (consumer : channel.Consumer) :
    channel.receiver (channel.configure setting consumer) = channel.receiver consumer
  rests {faults : Prop} {d : Descriptor} {count : Nat} {custody : Custody}
    {consumer : channel.Consumer} {world : World} (polls : custody.Polls count none custody)
    (keeps : Keeps d count custody (channel.receiver consumer) world.memory) :
    channel.process.Meets faults consumer world
      (fun _ left after => Keeps d count custody (channel.receiver left) after.memory)
      fun _ left after => Keeps d count custody (channel.receiver left) after.memory
  processes {faults : Prop} {d : Descriptor} {count : Nat} {header : Channel.Header} {payload : Bytes}
    {item : channel.Item} {consumer : channel.Consumer} {world : World}
    (tells : terms.Tells item header payload)
    (keeps : Keeps d count (.waiting header payload) (channel.receiver consumer) world.memory) :
    channel.process.Meets faults consumer world
      (fun report => Processed channel faults d count header payload item consumer world.events
        (.ok report))
      fun fault => Processed channel faults d count header payload item consumer world.events
        (.error fault)

end Terms

/-- No message was lost so far, and this item is still to be handled, or none is. -/
inductive Awaits : List (Sight channel) → Option channel.Item → Prop where
  | start : Awaits [] none
  | posted {log : List (Sight channel)} (awaits : Awaits log none) (item : channel.Item) :
      Awaits (log ++ [.posted item]) (some item)
  | passed {log : List (Sight channel)} {pending : Option channel.Item} {sight : Sight channel}
      (awaits : Awaits log pending) (unlike : ∀ item, sight ≠ .posted item) (kept : ¬ sight.Loses) :
      Awaits (log ++ [sight]) pending
  | handled {log : List (Sight channel)} {item : channel.Item} {sight : Sight channel}
      (awaits : Awaits log (some item)) (handles : sight.Handles item) (kept : ¬ sight.Loses) :
      Awaits (log ++ [sight]) none

namespace Awaits

variable {log : List (Sight channel)} {pending : Option channel.Item}

theorem kept (awaits : Awaits log pending) : ∀ sight ∈ log, ¬ sight.Loses := by
  induction awaits with
  | start => nofun
  | posted awaits item ih =>
    intro sight member
    cases List.mem_append.mp member with
    | inl early => exact ih sight early
    | inr last =>
      rw [List.mem_singleton.mp last]
      exact id
  | passed awaits unlike kept ih | handled awaits handles kept ih =>
    intro sight member
    cases List.mem_append.mp member with
    | inl early => exact ih sight early
    | inr last =>
      rw [List.mem_singleton.mp last]
      exact kept

/-- A message that was posted was handled later, or is the one still to be handled. -/
theorem served (awaits : Awaits log pending) {earlier later : List (Sight channel)}
    {item : channel.Item} (split : log = earlier ++ .posted item :: later) :
    (∃ sight ∈ later, sight.Handles item) ∨ pending = some item := by
  have mono {rest : List (Sight channel)} {last : Sight channel}
      (done : ∃ sight ∈ rest, sight.Handles item) : ∃ sight ∈ rest ++ [last], sight.Handles item := by
    obtain ⟨sight, member, handles⟩ := done
    exact ⟨sight, List.mem_append_left _ member, handles⟩
  induction awaits generalizing later with
  | start => simp at split
  | posted awaits other ih =>
    rcases split_last split with ⟨_, same, _⟩ | ⟨rest, rfl, early⟩
    · cases same
      exact .inr rfl
    · exact .inl (mono ((ih early).resolve_right nofun))
  | passed awaits unlike kept ih =>
    rcases split_last split with ⟨_, same, _⟩ | ⟨rest, rfl, early⟩
    · exact absurd same (unlike item)
    · exact (ih early).imp_left mono
  | handled awaits handles kept ih =>
    rcases split_last split with ⟨_, rfl, _⟩ | ⟨rest, rfl, early⟩
    · exact handles.elim
    · left
      rcases ih early with done | found
      · exact mono done
      · cases found
        exact ⟨_, List.mem_append_right _ List.mem_cons_self, handles⟩

end Awaits

namespace Sight

variable {before after : channel.Consumer} {events : List Host.Event}
  {result : Except Fault channel.Report}

theorem not_loses_of_seen
    (seen : (channel.receiver after).buffer.lastSeen = (channel.receiver before).buffer.lastSeen) :
    ¬ (processed before after events result).Loses := by
  intro loses
  unfold Loses at loses
  split at loses
  · rename_i same
    cases same
    exact loses seen
  · exact loses

theorem not_loses_of_result (sound : result ≠ .error (.error .medium)) :
    ¬ (processed before after events result).Loses := by
  intro loses
  unfold Loses at loses
  split at loses
  · rename_i same
    cases same
    exact sound rfl
  · exact loses

end Sight

/-- What the log tells of the latest message. An owed one is owed for good: its acknowledge was lost. -/
def Terms.Account (terms : Terms channel) (log : List (Sight channel)) : Custody → Prop
  | .settled => Awaits log none
  | .waiting header payload => ∃ item, terms.Tells item header payload ∧ Awaits log (some item)
  | .owed => ∃ sight ∈ log, sight.Loses

namespace System

variable {terms : Terms channel} {d : Descriptor} {count : Nat} {custody : Custody}
  {system : System channel}

/-- What holds between two calls, whatever accesses failed. -/
structure Stands (terms : Terms channel) (d : Descriptor) (system : System channel) (count : Nat)
    (custody : Custody) : Prop where
  offers : terms.Offers d (custody.posted count) system.producer
  keeps : Keeps d count custody (channel.receiver system.consumer) system.world.memory
  account : terms.Account system.log custody

theorem serve_stands (surroundings : Surroundings) (lawful : terms.Lawful)
    (stands : system.Stands terms d count custody) (request : channel.Request) :
    ∃ custody, (system.serve surroundings request).Stands terms d count custody := by
  have serves : (channel.serve request).Ensures surroundings.Faulty anyAccess system.producer
      system.world.memory _ _ := lawful.serves request stands.offers stands.keeps
  have ended := serves.onHost.run surroundings
  unfold serve
  generalize (channel.serve request).onHost.run surroundings.onHost system.producer system.world =
    outcome at ended
  obtain ⟨⟨result, producer⟩, world⟩ := outcome
  cases result with
  | error fault =>
    obtain ⟨⟨offers, keeps⟩, _⟩ := ended
    exact ⟨custody, offers, keeps, stands.account⟩
  | ok done =>
    simp only
    generalize channel.posts system.producer request = posted at ended
    cases posted with
    | none =>
      obtain ⟨⟨offers, keeps⟩, _⟩ := ended
      exact ⟨custody, offers, keeps, stands.account⟩
    | some item =>
      obtain ⟨⟨rfl, offers, header, payload, tells, keeps⟩, _⟩ := ended
      exact ⟨.waiting header payload, offers, keeps, item, tells, .posted stands.account item⟩

/-- With nothing to take, a call of `process` changes nothing that matters. -/
theorem rest_stands (surroundings : Surroundings) (lawful : terms.Lawful)
    (stands : system.Stands terms d count custody) (polls : custody.Polls count none custody) :
    (system.process surroundings).Stands terms d count custody := by
  have rests : channel.process.Meets surroundings.Faulty system.consumer system.world _ _ :=
    lawful.rests polls stands.keeps
  have ended := rests.run surroundings
  unfold process
  generalize channel.process.run surroundings.onHost system.consumer system.world = outcome at ended
  obtain ⟨⟨result, consumer⟩, world⟩ := outcome
  have keeps : Keeps d count custody (channel.receiver consumer) world.memory := by
    cases result <;> exact ended
  refine ⟨stands.offers, keeps, ?_⟩
  cases polls with
  | settled =>
    refine .passed stands.account nofun (Sight.not_loses_of_seen ?_)
    exact keeps.consuming.seen.trans stands.keeps.consuming.seen.symm
  | owed =>
    obtain ⟨sight, member, loses⟩ := stands.account
    exact ⟨sight, List.mem_append_left _ member, loses⟩

/-- The item that waits is handled and settled, or an access fails. -/
theorem take_stands {header : Channel.Header} {payload : Bytes} (surroundings : Surroundings)
    (lawful : terms.Lawful) (stands : system.Stands terms d count (.waiting header payload)) :
    ∃ next moved, (system.process surroundings).Stands terms d next moved ∧
      (¬ surroundings.Faulty → moved = .settled) := by
  obtain ⟨item, tells, awaits⟩ := stands.account
  have processes : channel.process.Meets surroundings.Faulty system.consumer system.world _ _ :=
    lawful.processes tells stands.keeps
  have ended := processes.run surroundings
  unfold process
  generalize channel.process.run surroundings.onHost system.consumer system.world = outcome at ended
  obtain ⟨⟨result, consumer⟩, world⟩ := outcome
  have processed : Processed channel surroundings.Faulty d count header payload item system.consumer
      system.world.events result consumer world := by
    cases result <;> exact ended
  cases processed with
  | missed allowed keeps =>
    refine ⟨count, .waiting header payload, ⟨stands.offers, keeps, item, tells, ?_⟩,
      fun faultless => absurd allowed faultless⟩
    refine .passed awaits nofun (Sight.not_loses_of_seen ?_)
    exact keeps.consuming.seen.trans stands.keeps.consuming.seen.symm
  | lost allowed keeps =>
    -- The receiver is past the message: no later call finds it fresh, so none acknowledges it.
    refine ⟨count, .owed, ⟨stands.offers, keeps, ?_⟩, fun faultless => absurd allowed faultless⟩
    refine ⟨_, List.mem_append_right _ List.mem_cons_self, ?_⟩
    change (channel.receiver consumer).buffer.lastSeen ≠ _
    rw [keeps.consuming.seen, stands.keeps.consuming.seen]
    exact Sequence.ofCount_succ_ne count
  | handled told sound handles keeps =>
    refine ⟨count + 1, .settled, ⟨stands.offers, keeps, ?_⟩, fun _ => rfl⟩
    refine .handled awaits ?_ (Sight.not_loses_of_result sound)
    change channel.Handles system.consumer item (world.events.drop system.world.events.length) result
    rw [told, List.drop_left]
    exact handles

/-- No item waits after a call of `process` in which no access fails. -/
theorem process_stands (surroundings : Surroundings) (lawful : terms.Lawful)
    (stands : system.Stands terms d count custody) :
    ∃ next moved, (system.process surroundings).Stands terms d next moved ∧
      (¬ surroundings.Faulty → moved.Polls next none moved) := by
  cases custody with
  | settled => exact ⟨_, _, rest_stands surroundings lawful stands .settled, fun _ => .settled⟩
  | owed => exact ⟨_, _, rest_stands surroundings lawful stands .owed, fun _ => .owed⟩
  | waiting header payload =>
    obtain ⟨next, moved, stands, settles⟩ := take_stands surroundings lawful stands
    refine ⟨next, moved, stands, ?_⟩
    intro faultless
    rw [settles faultless]
    exact .settled

theorem call_stands (surroundings : Surroundings) (lawful : terms.Lawful)
    (stands : system.Stands terms d count custody) (call : Call channel) :
    ∃ next moved, (system.call surroundings call).Stands terms d next moved := by
  cases call with
  | serve request => exact ⟨count, serve_stands surroundings lawful stands request⟩
  | configure setting =>
    refine ⟨count, custody, stands.offers, ?_, stands.account⟩
    change Keeps d count custody (channel.receiver (channel.configure setting system.consumer)) _
    rw [lawful.configures]
    exact stands.keeps
  | process =>
    obtain ⟨next, moved, stands, _⟩ := process_stands surroundings lawful stands
    exact ⟨next, moved, stands⟩

theorem after_stands (surroundings : Surroundings) (lawful : terms.Lawful)
    (stands : system.Stands terms d count custody) (calls : List (Call channel)) :
    ∃ next moved, (system.after surroundings calls).Stands terms d next moved := by
  induction calls generalizing system count custody with
  | nil => exact ⟨count, custody, stands⟩
  | cons call rest ih =>
    obtain ⟨next, moved, stands⟩ := call_stands surroundings lawful stands call
    exact ih stands

theorem setUp_stands {owner : Role} {options : channel.Options} {memory : SharedMemory}
    (lawful : terms.Lawful) (made : setUp channel owner d options memory = .ok system) :
    system.Stands terms d 0 .settled := by
  unfold setUp at made
  split at made
  · contradiction
  rename_i producing consuming after connected
  obtain ⟨produces, consumes, shows⟩ := TripleBuffer.connected_shows connected
  split at made
  · rename_i producer consumer first second
    cases made
    refine ⟨lawful.produces produces first, ?_, .start⟩
    rw [lawful.consumes consumes second]
    exact ⟨consumes, fun _ => rfl, [], rfl, _, _, shows⟩
  · contradiction
  · contradiction

theorem Stands.ready (lawful : terms.Lawful) (stands : system.Stands terms d count custody) :
    ∃ answer, system.ready = .ok answer ∧ (answer = true ↔ custody = .settled) := by
  have answers : channel.ready.Ensures (Action.Fails fun _ => false) anyAccess system.producer
      system.world.memory _ _ := lawful.answers stands.offers stands.keeps
  have ended := answers.runFailing
  unfold System.ready
  generalize channel.ready.runFailing (fun _ => false) system.producer system.world.memory =
    outcome at ended
  obtain ⟨⟨result, left⟩, after⟩ := outcome
  cases result with
  | error fault => exact absurd ended.1 Action.not_fails
  | ok answer => exact ⟨answer, rfl, ended.1⟩

/-- With no message waiting, the producer is ready unless one was lost; and if none was, all that was
posted was handled. -/
theorem Stands.delivered (lawful : terms.Lawful) (stands : system.Stands terms d count custody)
    (polls : custody.Polls count none custody) :
    ((∀ sight ∈ system.log, ¬ sight.Loses) → system.Served) ∧
      system.ready = .ok (decide (∀ sight ∈ system.log, ¬ sight.Loses)) := by
  obtain ⟨answer, ready, answered⟩ := stands.ready lawful
  have account := stands.account
  rw [ready]
  cases polls with
  | settled =>
    constructor
    · intro _ earlier item later split
      exact (account.served split).resolve_right nofun
    · rw [answered.mpr rfl, decide_eq_true account.kept]
  | owed =>
    obtain ⟨sight, member, loses⟩ := account
    have lossy : ¬ ∀ sight ∈ system.log, ¬ sight.Loses := fun kept => kept sight member loses
    have unready : answer = false := by simpa using answered
    constructor
    · intro kept
      exact absurd kept lossy
    · rw [unready, decide_eq_false lossy]

end System

end Acyclic

end NodeLink

import NodeLink.Proofs.ProcessData
import NodeLink.Proofs.Timer.Shared
import NodeLink.Proofs.TripleBuffer.Connection
import NodeLink.Side.Application
import NodeLink.Side.Communication
import Mathlib.Data.List.Pairwise

/-! Both processors of a node on one memory. They start one after the other, link their tables and then
take cycles in any order; what each does besides the process images stays in its own buffers. -/
namespace NodeLink.Side

open TripleBuffer (AsksOn Inside Elsewhere Nowhere)
open Words.Request (StoresWithin)

/-- What a processor links its process images by. -/
structure Tables where
  sizeOf : ObjectRef → Option Nat
  receivePdo : List ProcessData.Link
  transmitPdo : List ProcessData.Link

structure Node where
  communication : Communication
  application : Application
  world : World

/-- A cycle of one processor. -/
inductive Turn where
  | communication (timestamp : UInt64)
  | application

/-- A side whose tables were accepted. -/
def accepted {σ : Type} (linked : Except Error Unit × σ) : Except Error σ :=
  linked.1.map fun _ => linked.2

/-- Start both processors, and let each link its tables. -/
def bringUp (configuration : Configuration) (communicating applying : Tables)
    (objects : List ConfigurationChannel.Link) :
    Action Host Unit (Communication × Application) := do
  let communication ← Communication.init configuration
  let application ← Application.init configuration
  let communication ← Action.ofExcept <| accepted <|
    communication.link communicating.sizeOf communicating.receivePdo communicating.transmitPdo objects
  let application ← Action.ofExcept <| accepted <|
    application.link applying.sizeOf applying.receivePdo applying.transmitPdo
  return (communication, application)

namespace Node

def setUp (surroundings : Surroundings) (configuration : Configuration)
    (communicating applying : Tables) (objects : List ConfigurationChannel.Link) (world : World) :
    Except Fault Node :=
  match (bringUp configuration communicating applying objects).run surroundings.onHost () world with
  | ((.error fault, ()), _) => .error fault
  | ((.ok (communication, application), ()), world) => .ok ⟨communication, application, world⟩

def turn (surroundings : Surroundings) (node : Node) : Turn → Node
  | .communication timestamp =>
    let ran := (Communication.cycle timestamp).run surroundings.onHost node.communication node.world
    { node with communication := ran.1.2, world := ran.2 }
  | .application =>
    let ran := Application.cycle.run surroundings.onHost node.application node.world
    { node with application := ran.1.2, world := ran.2 }

def after (surroundings : Surroundings) (node : Node) (turns : List Turn) : Node :=
  turns.foldl (turn surroundings) node

end Node

/-! What is reported on the way. -/

section Report

variable {σ α : Type} {faults : Prop} {state : σ} {world : World} {source : Source}
  {operation : Action Host σ α}

def Reported (event : Host.Event) : Prop := ∃ source error, event = ⟨.report source error, ()⟩

/-- The world once an error was reported, if there was one. -/
structure Told (before after : World) : Prop where
  memory : after.memory = before.memory
  reported : World.Adds Reported before after

theorem report_meets {ok : Option α → σ → World → Prop} {failed : Fault → σ → World → Prop}
    (holds : operation.Meets faults state world (fun value => ok (some value))
      fun _ left after => ∀ told, Told after told → ok none left told) :
    (report source operation).Meets faults state world ok failed := by
  refine Action.Meets.bind (fun result left => Action.Ended (fun value => ok (some value))
    (fun _ left after => ∀ told, Told after told → ok none left told) (result, left))
    (Action.Meets.outcome holds) ?_
  rintro (fault | value) left after ended
  · cases fault with
    | busy => exact ended after ⟨rfl, .quiet rfl⟩
    | error error =>
      refine Action.Meets.ask_then nofun fun _ told memory added => ?_
      exact ended told ⟨memory, .one added ⟨_, _, rfl⟩⟩
  · exact ended

/-- What holds after an operation and does not depend on reports holds once its error was reported. -/
theorem report_keeps {failed : Fault → σ → World → Prop} (post : σ → World → Prop)
    (holds : operation.EndsIn faults state world post)
    (stable : ∀ left after told, post left after → Told after told → post left told) :
    (report source operation).Meets faults state world (fun _ => post) failed := by
  refine report_meets (Action.Meets.mono holds (fun _ _ _ kept => kept) ?_)
  exact fun _ left after kept told same => stable left after told kept same

theorem reportOn_keeps {id : BufferId} {failed : Fault → σ → World → Prop} (post : σ → World → Prop)
    (holds : operation.EndsIn faults state world post)
    (stable : ∀ left after told, post left after → Told after told → post left told) :
    (reportOn id operation).Meets faults state world (fun _ => post) failed :=
  Action.Meets.bind (fun _ => post) (report_keeps post holds stable) fun _ _ _ kept => kept

/-- A reported operation leaves its own state, and a world that may tell of its error. -/
theorem run_reportOn (surroundings : Surroundings) (id : BufferId) (operation : Action Host σ α)
    (state : σ) (world : World) :
    ∃ told, Told (operation.run surroundings.onHost state world).2 told ∧
      (reportOn id operation).run surroundings.onHost state world =
        ((.ok (), (operation.run surroundings.onHost state world).1.2), told) := by
  rcases ended : operation.run surroundings.onHost state world with ⟨⟨fault | value, left⟩, after⟩
  · cases fault with
    | busy =>
      refine ⟨after, ⟨rfl, .quiet rfl⟩, ?_⟩
      simp only [reportOn, report, Action.run_bind, Action.run_outcome, ended, Action.run_pure]
    | error error =>
      refine ⟨(surroundings.onHost (.report (.buffer id) error) after).2,
        ⟨rfl, .one rfl ⟨_, _, rfl⟩⟩, ?_⟩
      simp only [reportOn, report, Action.run_bind, Action.run_outcome, ended, Action.run_ask,
        Action.run_pure]
      rfl
  · refine ⟨after, ⟨rfl, .quiet rfl⟩, ?_⟩
    simp only [reportOn, report, Action.run_bind, Action.run_outcome, ended, Action.run_pure]

end Report

/-! What the other channels of a cycle touch. -/

section Footprint

variable {d : Descriptor} {faults : Prop} {state : Status.End} {world : World} {memory : SharedMemory}

/-- A part is worked on through the medium: words that it does not store to are as before. -/
theorem part_meets {σ τ α : Type} {kind : τ → Prop} {requests : Medium.Request → Prop}
    {bytes : Nat → Prop} {action : Action Medium τ α} {read : σ → τ} {write : τ → σ → σ} {whole : σ}
    (asks : action.AsksFrom kind requests) (start : kind (read whole))
    (accesses : ∀ request, requests request → (Prog.request (S := Medium) request).inWords.Asks
      (StoresWithin bytes) fun _ => True) :
    (Action.part read write action.onHost).EndsIn faults whole world
      fun left after => ∃ changed, left = write changed whole ∧ kind changed ∧
        SharedMemory.SameOutside bytes world.memory after.memory ∧ after.events = world.events := by
  apply Action.Ensures.part_onHost
  apply (asks.ensures start accesses).mono (fun _ granted => granted)
  · rintro _ changed memory ⟨fits, same⟩ after rfl quiet
    exact ⟨changed, rfl, fits, same, quiet⟩
  · rintro _ changed memory ⟨fits, same⟩ after rfl quiet
    exact ⟨changed, rfl, fits, same, quiet⟩

theorem update_meets {σ α : Type} {change : σ → Except Error α × σ} {whole : σ} :
    (Action.update change : Action Host σ α).EndsIn faults whole world
      fun left after => left = (change whole).2 ∧ after = world := by
  change Action.Ended _ _ ((change whole).1.mapError Fault.error, (change whole).2) world
  cases (change whole).1 with
  | error error => exact ⟨rfl, rfl⟩
  | ok value => exact ⟨rfl, rfl⟩

theorem status_onBuffer_asks {α : Type} {operation : TripleBuffer.Operation α}
    (asks : AsksOn d (Inside d) operation) :
    (Status.onBuffer operation).AsksFrom (·.buffer.region = d) (Inside d) :=
  .part asks (fun _ region => region) fun _ _ region _ => region

theorem status_publish_asks (timestamp : UInt64) :
    (Status.publish timestamp).AsksFrom (·.buffer.region = d) (Inside d) :=
  .bind (.modify fun _ region => region) fun _ => .get_then fun _ _ =>
    .bind (status_onBuffer_asks (TripleBuffer.write_inside _)) fun _ => .done _

theorem status_refresh_asks : Status.refresh.AsksFrom (·.buffer.region = d) (Inside d) :=
  .bind (status_onBuffer_asks (TripleBuffer.read_inside _)) fun _ =>
    .ite (.bind (.ofExcept _) fun _ => .bind (.modify fun _ region => region) fun _ => .done _) (.done _)

/-- A state of the logbook's end of a region. -/
abbrev LogsTo (d : Descriptor) (state : Logbook.Producer.State) : Prop :=
  state.1.sender.buffer.region = d

theorem phase_asks {may : Medium.Request → Prop} :
    Logbook.Producer.phase.AsksFrom (LogsTo d) may :=
  .get_then fun _ _ => .ofExcept _

/-- Counting the logbook's cycles only looks at the buffer. -/
theorem logbook_tick_asks :
    Logbook.Producer.tick.AsksFrom (LogsTo d) (Medium.Request.Wordwise (StoresWithin Nowhere)) := by
  have sender : Channel.Sender.ready.AsksFrom (·.buffer.region = d)
      (Medium.Request.Wordwise (StoresWithin Nowhere)) := by
    unfold Channel.Sender.ready Channel.Sender.onBuffer
    exact .part TripleBuffer.acknowledged_asks (fun _ region => region) fun _ _ region _ => region
  have ready : Logbook.Producer.ready.AsksFrom (LogsTo d)
      (Medium.Request.Wordwise (StoresWithin Nowhere)) := by
    unfold Logbook.Producer.ready Logbook.Producer.onSender
    exact .part sender (fun _ region => region) fun _ _ region _ => region
  have timed (change : TimerPool → TimerPool.Handle → Except Error TimerPool) :
      (Logbook.Producer.onTimer change).AsksFrom (LogsTo d)
        (Medium.Request.Wordwise (StoresWithin Nowhere)) := .onTimer fun _ _ _ region => region
  refine .bind phase_asks fun _ => .ite (.done _) (.bind ready fun _ => .ite (timed _) ?_)
  exact .bind (timed _) fun _ => .bind phase_asks fun _ => .ite (.bind (timed _) fun _ => .fail _)
    (.done _)

/-- Counting a service frame's cycles only counts. -/
theorem inbound_tick_asks : Ssdo.Inbound.Producer.tick.AsksFrom (fun _ => True)
    (Medium.Request.Wordwise (StoresWithin Nowhere)) := .onTimer fun _ _ _ => id

end Footprint

/-! How the processors start. -/

section Start

variable {α : Type} {configuration : Configuration} {id : BufferId} {ids : List BufferId}
  {d : Descriptor} {faults : Prop} {memory : SharedMemory} {world : World}
  {new : TripleBuffer → Except Error α}

theorem required_eq_ok (found : configuration.required id = .ok d) :
    d ∈ configuration.buffers ∧ d.id = id := by
  have listed : configuration.buffers.filter (·.id = id) = [d] := by
    unfold Configuration.required Configuration.descriptor at found
    split at found
    · rename_i same
      split at same
      · cases same
      · rename_i only
        cases same
        cases found
        exact only
      · cases same
    · contradiction
    · contradiction
  have member : d ∈ configuration.buffers.filter (·.id = id) := listed ▸ List.mem_singleton_self d
  simpa using List.mem_filter.mp member

/-- Buffers of different ids have nothing in common if the table's regions are disjoint. -/
theorem required_apart {other : BufferId} {e : Descriptor}
    (disjoint : configuration.buffers.Pairwise Descriptor.Apart)
    (found : configuration.required id = .ok d) (too : configuration.required other = .ok e)
    (distinct : id ≠ other) : d.Apart e := by
  obtain ⟨listed, rfl⟩ := required_eq_ok found
  obtain ⟨member, rfl⟩ := required_eq_ok too
  exact disjoint.forall listed member fun same => distinct (congrArg Descriptor.id same)

/-- The buffers of these ids were made, and nothing was written to them. -/
def Fresh (configuration : Configuration) (ids : List BufferId) (memory : SharedMemory) : Prop :=
  ∀ id ∈ ids, ∀ d, configuration.required id = .ok d → d.Shows memory [] 0 ⟨0, ControlWord.noSlot⟩

/-- An end was made for the buffer of an id. -/
def Opened (configuration : Configuration) (processor : Processor) (id : BufferId)
    (new : TripleBuffer → Except Error α) (value : α) : Prop :=
  ∃ d, configuration.required id = .ok d ∧ new (.new (id.roleOf processor) d 0) = .ok value

theorem Fresh.create {after : SharedMemory} (fresh : Fresh configuration ids memory)
    (disjoint : configuration.buffers.Pairwise Descriptor.Apart)
    (found : configuration.required id = .ok d)
    (shows : d.Shows after [] 0 ⟨0, ControlWord.noSlot⟩) (elsewhere : Elsewhere d memory after) :
    Fresh configuration (id :: ids) after := by
  intro other member e too
  by_cases same : other = id
  · subst same
    cases found.symm.trans too
    exact shows
  · have earlier : other ∈ ids := (List.mem_cons.mp member).resolve_left same
    have apart : d.Apart e := required_apart disjoint found too (Ne.symm same)
    exact (fresh other earlier e too).elsewhere elsewhere apart.whole

theorem create_elsewhere {role : Role} :
    (TripleBuffer.create role d).inWords.Ensures (SharedMemory.Answers faults) TripleBuffer.anyAccess
      memory fun result after => ∀ own, result = .ok own → own = .new role d 0 ∧
        d.Shows after [] 0 ⟨0, ControlWord.noSlot⟩ ∧ Elsewhere d memory after := by
  have asks := (TripleBuffer.create_asks role d).inWords fun _ inside => inside.inWords
  apply (Prog.Ensures.and TripleBuffer.create_ensures asks.sameOutside).mono
    fun _ granted => granted.1
  rintro result after ⟨made, -, elsewhere⟩ own found
  obtain ⟨same, shows⟩ := made own found
  exact ⟨same, shows, elsewhere⟩

theorem Communication.build_meets (disjoint : configuration.buffers.Pairwise Descriptor.Apart)
    (fresh : Fresh configuration ids world.memory) :
    (build configuration id new).Meets faults () world
      (fun value _ after => Opened configuration .communication id new value ∧
        Fresh configuration (id :: ids) after.memory)
      fun _ _ _ => True := by
  refine Action.Meets.bind (fun buffer _ after => ∃ d, configuration.required id = .ok d ∧
    buffer = .new (id.roleOf .communication) d 0 ∧ Fresh configuration (id :: ids) after.memory) ?_ ?_
  · change ((createBuffer configuration id).bind _).Ensures _ _ _ _
    unfold createBuffer
    split
    · trivial
    · rename_i d found
      refine (Prog.ensures_bind _ _ _).mpr ((Action.ensures_onHost create_elsewhere).mono
        (fun _ granted => granted) ?_)
      rintro (fault | own) after ⟨made, -⟩
      · trivial
      · obtain ⟨same, shows, elsewhere⟩ := made own rfl
        exact ⟨d, found, same, fresh.create disjoint found shows elsewhere⟩
  · rintro buffer _ after ⟨d, found, rfl, fresh⟩
    cases made : new (.new (id.roleOf .communication) d 0) with
    | error error => trivial
    | ok value => exact ⟨⟨d, found, made⟩, fresh⟩

theorem Application.build_meets :
    (build configuration id new).Meets faults () world
      (fun value _ after => Opened configuration .application id new value ∧
        after.memory = world.memory)
      fun _ _ _ => True := by
  refine Action.Meets.bind (fun buffer _ after => ∃ d, configuration.required id = .ok d ∧
    buffer = .new (id.roleOf .application) d 0 ∧ after.memory = world.memory) ?_ ?_
  · change ((attachBuffer configuration id).bind _).Ensures _ _ _ _
    unfold attachBuffer
    split
    · trivial
    · rename_i d found
      refine (Prog.ensures_bind _ _ _).mpr ((Action.ensures_onHost TripleBuffer.attach_ensures).mono
        (fun _ granted => granted) ?_)
      rintro (fault | own) after ⟨made, -⟩
      · trivial
      · obtain ⟨same, kept⟩ := made own rfl
        exact ⟨d, found, same, kept⟩
  · rintro buffer _ after ⟨d, found, rfl, kept⟩
    cases made : new (.new (id.roleOf .application) d 0) with
    | error error => trivial
    | ok value => exact ⟨⟨d, found, made⟩, kept⟩

structure Communication.Started (configuration : Configuration) (side : Communication) : Prop where
  status : Opened configuration .communication .status (Status.new .producer) side.status
  receivePdo : Opened configuration .communication .receivePdo ProcessData.Producer.new side.receivePdo
  transmitPdo :
    Opened configuration .communication .transmitPdo ProcessData.Consumer.new side.transmitPdo

structure Application.Started (configuration : Configuration) (side : Application) : Prop where
  status : Opened configuration .application .status (Status.new .consumer) side.status
  receivePdo : Opened configuration .application .receivePdo ProcessData.Consumer.new side.receivePdo
  transmitPdo :
    Opened configuration .application .transmitPdo ProcessData.Producer.new side.transmitPdo

theorem Communication.init_meets (disjoint : configuration.buffers.Pairwise Descriptor.Apart) :
    (init configuration).Meets faults () world
      (fun side _ after => side.Started configuration ∧
        Fresh configuration [.receivePdo, .transmitPdo] after.memory)
      fun _ _ _ => True := by
  have none : Fresh configuration [] world.memory := nofun
  refine Action.Meets.bind _ (build_meets disjoint none) fun ⟨outbound, timers⟩ _ _ ⟨_, fresh⟩ => ?_
  refine Action.Meets.bind _ (build_meets disjoint fresh) fun ⟨inbound, timers⟩ _ _ ⟨_, fresh⟩ => ?_
  refine Action.Meets.bind _ (build_meets disjoint fresh) fun status _ _ ⟨stating, fresh⟩ => ?_
  refine Action.Meets.bind _ (build_meets disjoint fresh) fun objects _ _ ⟨_, fresh⟩ => ?_
  refine Action.Meets.bind _ (build_meets disjoint fresh) fun receivePdo _ _ ⟨giving, fresh⟩ => ?_
  refine Action.Meets.bind _ (build_meets disjoint fresh) fun transmitPdo _ _ ⟨taking, fresh⟩ => ?_
  refine Action.Meets.bind _ (build_meets disjoint fresh) fun asyncTransmit _ _ ⟨_, fresh⟩ => ?_
  refine Action.Meets.bind _ (build_meets disjoint fresh) fun asyncReceive _ _ ⟨_, fresh⟩ => ?_
  refine Action.Meets.bind _ (build_meets disjoint fresh) fun logbook _ _ ⟨_, fresh⟩ => ?_
  exact ⟨⟨stating, giving, taking⟩, fun id member => fresh id (by revert id; decide)⟩

theorem Application.init_meets :
    (init configuration).Meets faults () world
      (fun side _ after => side.Started configuration ∧ after.memory = world.memory)
      fun _ _ _ => True := by
  refine Action.Meets.bind _ build_meets fun status _ _ ⟨stating, same⟩ => ?_
  refine Action.Meets.bind _ build_meets fun objects _ _ ⟨_, kept⟩ => ?_
  have same := kept.trans same
  refine Action.Meets.bind _ build_meets fun receivePdo _ _ ⟨taking, kept⟩ => ?_
  have same := kept.trans same
  refine Action.Meets.bind _ build_meets fun transmitPdo _ _ ⟨giving, kept⟩ => ?_
  have same := kept.trans same
  refine Action.Meets.bind _ build_meets fun outbound _ _ ⟨_, kept⟩ => ?_
  have same := kept.trans same
  refine Action.Meets.bind _ build_meets fun inbound _ _ ⟨_, kept⟩ => ?_
  have same := kept.trans same
  refine Action.Meets.bind _ build_meets fun asyncTransmit _ _ ⟨_, kept⟩ => ?_
  have same := kept.trans same
  refine Action.Meets.bind _ build_meets fun asyncReceive _ _ ⟨_, kept⟩ => ?_
  have same := kept.trans same
  refine Action.Meets.bind _ build_meets fun ⟨logbook, timers⟩ _ _ ⟨_, kept⟩ => ?_
  exact ⟨⟨stating, taking, giving⟩, kept.trans same⟩

end Start

end NodeLink.Side

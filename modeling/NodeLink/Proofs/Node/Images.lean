import NodeLink.Proofs.Node
import Mathlib.Data.List.Induction

/-! Process images between the processors. Whatever cycles they take and whichever accesses fail, the
application runs on an empty image or on one that was published after its whole table was read, and what
reaches the dictionary is an image as a successful run of the application left it. -/
namespace NodeLink.Side

open ProcessData (Path written?)
open TripleBuffer (Inside Elsewhere Nowhere)

/-- The buffers that the cycles store to. -/
structure Regions where
  status : Descriptor
  receive : Descriptor
  transmit : Descriptor
  aside : status.Apart receive
  beside : status.Apart transmit
  apart : receive.Apart transmit

variable {faults : Prop} {regions : Regions} {node : Node} {received transmitted : List Bytes}
  {world : World}

/-- The ends of a node stand on their buffers, through which these images were published. -/
structure Node.Stands (regions : Regions) (node : Node) (received transmitted : List Bytes) : Prop where
  states : node.communication.status.buffer.region = regions.status
  notes : node.application.status.buffer.region = regions.status
  receive : Path regions.receive node.communication.receivePdo node.application.receivePdo
    node.world.memory received
  transmit : Path regions.transmit node.application.transmitPdo node.communication.transmitPdo
    node.world.memory transmitted

namespace Node.Stands

variable {left : Node}

/-- The ends of the images are as before. -/
structure Resting (node left : Node) : Prop where
  gives : left.communication.receivePdo = node.communication.receivePdo
  takes : left.application.receivePdo = node.application.receivePdo
  brings : left.application.transmitPdo = node.application.transmitPdo
  fetches : left.communication.transmitPdo = node.communication.transmitPdo

/-- Steps of other ends on words of their own do not matter. -/
theorem elsewhere {bytes : Nat → Prop} (stands : node.Stands regions received transmitted)
    (states : left.communication.status.buffer.region = regions.status)
    (notes : left.application.status.buffer.region = regions.status) (resting : Resting node left)
    (same : SharedMemory.SameOutside bytes node.world.memory left.world.memory)
    (aside : ∀ address, bytes address → ¬ regions.receive.InRegion address)
    (beside : ∀ address, bytes address → ¬ regions.transmit.InRegion address) :
    left.Stands regions received transmitted where
  states := states
  notes := notes
  receive := by
    rw [resting.gives, resting.takes]
    exact stands.receive.elsewhere same aside
  transmit := by
    rw [resting.brings, resting.fetches]
    exact stands.transmit.elsewhere same beside

/-- A world that goes on with the same memory. -/
theorem kept {after : World} (stands : node.Stands regions received transmitted)
    (same : after.memory = node.world.memory) :
    Stands regions { node with world := after } received transmitted := by
  have rests : SharedMemory.SameOutside Nowhere node.world.memory after.memory := by
    rw [same]
    exact .refl _ _
  exact stands.elsewhere stands.states stands.notes ⟨rfl, rfl, rfl, rfl⟩ rests
    (fun _ => False.elim) fun _ => False.elim

end Node.Stands

theorem Status.new_eq_ok {role : Role} {buffer : TripleBuffer} {side : Status.End}
    (made : Status.new role buffer = .ok side) : side.buffer = buffer := by
  unfold Status.new at made
  split at made
  · contradiction
  · split at made
    · contradiction
    · cases made
      rfl

theorem accepted_eq_ok {σ : Type} {linked : Except Error Unit × σ} {side : σ}
    (found : accepted linked = .ok side) : linked = (.ok (), side) := by
  obtain ⟨error | done, left⟩ := linked
  · contradiction
  · cases found
    rfl

theorem Communication.link_eq_ok {side linked : Communication} {sizeOf : ObjectRef → Option Nat}
    {receivePdo transmitPdo : List ProcessData.Link} {objects : List ConfigurationChannel.Link}
    (found : side.link sizeOf receivePdo transmitPdo objects = (.ok (), linked)) :
    linked.status = side.status ∧
      side.receivePdo.link sizeOf receivePdo = .ok linked.receivePdo ∧
      side.transmitPdo.link sizeOf transmitPdo = .ok linked.transmitPdo := by
  unfold link at found
  split at found
  · cases found
  · rename_i producer first
    dsimp only at found
    split at found
    · cases found
    · rename_i consumer second
      cases (Prod.mk.inj found).2
      exact ⟨rfl, first, second⟩

theorem Application.link_eq_ok {side linked : Application} {sizeOf : ObjectRef → Option Nat}
    {receivePdo transmitPdo : List ProcessData.Link}
    (found : side.link sizeOf receivePdo transmitPdo = (.ok (), linked)) :
    linked.status = side.status ∧
      side.receivePdo.link sizeOf receivePdo = .ok linked.receivePdo ∧
      side.transmitPdo.link sizeOf transmitPdo = .ok linked.transmitPdo := by
  unfold link at found
  split at found
  · cases found
  · rename_i consumer first
    dsimp only at found
    split at found
    · cases found
    · rename_i producer second
      cases (Prod.mk.inj found).2
      exact ⟨rfl, first, second⟩

/-- A start leaves every end on its buffer. -/
theorem start_stands {configuration : Configuration} {communication linked : Communication}
    {application linking : Application} {communicating applying : Tables}
    {objects : List ConfigurationChannel.Link}
    (disjoint : configuration.buffers.Pairwise Descriptor.Apart)
    (started : communication.Started configuration) (begun : application.Started configuration)
    (fresh : Fresh configuration [.receivePdo, .transmitPdo] world.memory)
    (found : communication.link communicating.sizeOf communicating.receivePdo
      communicating.transmitPdo objects = (.ok (), linked))
    (too : application.link applying.sizeOf applying.receivePdo applying.transmitPdo =
      (.ok (), linking)) :
    ∃ regions : Regions, Node.Stands regions ⟨linked, linking, world⟩ [] [] := by
  obtain ⟨same, receive, transmit⟩ := Communication.link_eq_ok found
  obtain ⟨same', receive', transmit'⟩ := Application.link_eq_ok too
  obtain ⟨⟨status, tabled, made⟩, ⟨r, tabledR, madeR⟩, ⟨t, tabledT, madeT⟩⟩ := started
  obtain ⟨⟨status', tabled', opened⟩, ⟨r', tabledR', openedR⟩, ⟨t', tabledT', openedT⟩⟩ := begun
  cases tabled.symm.trans tabled'
  cases tabledR.symm.trans tabledR'
  cases tabledT.symm.trans tabledT'
  refine ⟨⟨status, r, t, required_apart disjoint tabled tabledR nofun,
    required_apart disjoint tabled tabledT nofun, required_apart disjoint tabledR tabledT nofun⟩, ?_⟩
  have first : Path r communication.receivePdo application.receivePdo world.memory [] :=
    .start ⟨rfl, rfl⟩ ⟨rfl, rfl, rfl⟩ (fresh .receivePdo (by decide) r tabledR) madeR openedR
  have second : Path t application.transmitPdo communication.transmitPdo world.memory [] :=
    .start ⟨rfl, rfl⟩ ⟨rfl, rfl, rfl⟩ (fresh .transmitPdo (by decide) t tabledT) openedT madeT
  obtain ⟨giver, gives⟩ := ProcessData.Producer.link_eq_ok receive
  obtain ⟨taker, takes⟩ := ProcessData.Consumer.link_eq_ok receive'
  obtain ⟨giver', gives'⟩ := ProcessData.Producer.link_eq_ok transmit'
  obtain ⟨taker', takes'⟩ := ProcessData.Consumer.link_eq_ok transmit
  exact {
    states := by rw [same, Status.new_eq_ok made]; rfl
    notes := by rw [same', Status.new_eq_ok opened]; rfl
    receive := first.link giver gives taker takes
    transmit := second.link giver' gives' taker' takes'
  }

theorem bringUp_meets {configuration : Configuration} {communicating applying : Tables}
    {objects : List ConfigurationChannel.Link}
    (disjoint : configuration.buffers.Pairwise Descriptor.Apart) :
    (bringUp configuration communicating applying objects).Meets faults () world
      (fun sides _ after => ∃ regions : Regions, Node.Stands regions ⟨sides.1, sides.2, after⟩ [] [])
      fun _ _ _ => True := by
  refine Action.Meets.bind _ (Communication.init_meets disjoint)
    fun communication _ made ⟨started, fresh⟩ => ?_
  refine Action.Meets.bind _ Application.init_meets fun application _ after ⟨begun, same⟩ => ?_
  rw [← same] at fresh
  cases found : accepted (communication.link communicating.sizeOf communicating.receivePdo
    communicating.transmitPdo objects) with
  | error error => trivial
  | ok linked =>
    cases too : accepted (application.link applying.sizeOf applying.receivePdo
      applying.transmitPdo) with
    | error error => trivial
    | ok linking =>
      exact start_stands disjoint started begun fresh (accepted_eq_ok found) (accepted_eq_ok too)

theorem setUp_stands {surroundings : Surroundings} {configuration : Configuration}
    {communicating applying : Tables} {objects : List ConfigurationChannel.Link}
    (disjoint : configuration.buffers.Pairwise Descriptor.Apart)
    (started : Node.setUp surroundings configuration communicating applying objects world = .ok node) :
    ∃ regions : Regions, node.Stands regions [] [] := by
  have meets : (bringUp configuration communicating applying objects).Meets surroundings.Faulty ()
      world _ _ := bringUp_meets disjoint
  have ended := meets.run surroundings
  unfold Node.setUp at started
  split at started
  · contradiction
  · rename_i same
    cases started
    rw [same] at ended
    exact ended

/-! A cycle of the application processor. -/

/-- What is neither a run of the application nor a write to the dictionary. -/
def Quiet (event : Host.Event) : Prop :=
  match event.request with
  | .cycle _ _ | .writeObject _ _ => False
  | _ => True

/-- The application runs on an image that is empty or published, and nothing is written to the
dictionary. -/
def RunsOn (d : Descriptor) (received : List Bytes) (event : Host.Event) : Prop :=
  match event.request with
  | .cycle image _ => image.bytes = Bytes.zeros d.size ∨ image.bytes ∈ received
  | .writeObject _ _ => False
  | _ => True

theorem Quiet.runsOn {d : Descriptor} {event : Host.Event} (quiet : Quiet event) :
    RunsOn d received event := by
  obtain ⟨request, answer⟩ := event
  cases request with
  | cycle image transmitted => exact quiet.elim
  | writeObject object value => exact quiet.elim
  | _ => trivial

theorem Quiet.idle {event : Host.Event} (quiet : Quiet event) (image own : ProcessData.Image) :
    event.request ≠ .cycle image own := by
  intro same
  rw [Quiet, same] at quiet
  exact quiet

theorem Quiet.unwritten {event : Host.Event} (quiet : Quiet event) : written? event = none := by
  obtain ⟨request, answer⟩ := event
  cases request with
  | writeObject object value => exact quiet.elim
  | _ => rfl

theorem RunsOn.unwritten {d : Descriptor} {event : Host.Event} (runs : RunsOn d received event) :
    written? event = none := by
  obtain ⟨request, answer⟩ := event
  cases request with
  | writeObject object value => exact runs.elim
  | _ => rfl

theorem filterMap_quiet {events : List Host.Event} (quiet : ∀ event ∈ events, Quiet event) :
    events.filterMap written? = [] :=
  List.filterMap_eq_nil_iff.mpr fun event member => (quiet event member).unwritten

theorem Quiet.of_reported {event : Host.Event} (reported : Reported event) : Quiet event := by
  obtain ⟨source, error, rfl⟩ := reported
  trivial

theorem Quiet.of_reads {event : Host.Event} (reads : ProcessData.Reads event) : Quiet event := by
  obtain ⟨object, room, same⟩ := reads
  rw [Quiet, same]
  trivial

/-- The application ran on this image of its own, ended well and left these bytes in it. -/
def LeftBy (producer : ProcessData.Producer) (events : List Host.Event) (bytes : Bytes) : Prop :=
  ∃ received settings, ⟨.cycle received producer.image, ⟨settings, .ok ()⟩⟩ ∈ events ∧
    bytes = (Application.settle producer settings).image.bytes

namespace Application

/-- What a cycle has come to before the application runs. -/
structure Prepared (regions : Regions) (node : Node) (received transmitted : List Bytes)
    (side : Application) (world : World) : Prop where
  stands : Node.Stands regions ⟨node.communication, side, world⟩ received transmitted
  image : side.transmitPdo = node.application.transmitPdo
  quiet : World.Adds Quiet node.world world

/-- What a cycle has come to, whether the application ran or not. -/
inductive Turned (regions : Regions) (node : Node) (received transmitted : List Bytes)
    (side : Application) (world : World) : Prop where
  | mk {published : List Bytes} {events : List Host.Event}
    (stands : Node.Stands regions ⟨node.communication, side, world⟩ received published)
    (added : world.events = node.world.events ++ events)
    (runs : ∀ event ∈ events, RunsOn regions.receive received event)
    (leaves : ∀ bytes ∈ published,
      bytes ∈ transmitted ∨ LeftBy node.application.transmitPdo events bytes)

variable {side : Application} {after : World}

theorem Prepared.turned (prepared : Prepared regions node received transmitted side world) :
    Turned regions node received transmitted side world := by
  obtain ⟨events, added, quiet⟩ := prepared.quiet
  exact ⟨prepared.stands, added, fun event member => (quiet event member).runsOn, fun _ => .inl⟩

theorem Prepared.kept (prepared : Prepared regions node received transmitted side world)
    (same : after.memory = world.memory) (quiet : World.Adds Quiet world after) :
    Prepared regions node received transmitted side after :=
  ⟨prepared.stands.kept same, prepared.image, prepared.quiet.trans quiet⟩

/-- Quiet events at the end of a cycle. -/
theorem Turned.add {left : Application} (turned : Turned regions node received transmitted side world)
    (stays : ∀ published, Node.Stands regions ⟨node.communication, side, world⟩ received published →
      Node.Stands regions ⟨node.communication, left, after⟩ received published)
    (adds : World.Adds Quiet world after) : Turned regions node received transmitted left after := by
  obtain ⟨stands, added, runs, leaves⟩ := turned
  obtain ⟨more, further, quiet⟩ := adds
  refine ⟨stays _ stands, by rw [further, added, List.append_assoc], ?_, fun bytes member => ?_⟩
  · intro event member
    rcases List.mem_append.mp member with earlier | late
    · exact runs event earlier
    · exact (quiet event late).runsOn
  · refine (leaves bytes member).imp_right ?_
    rintro ⟨received, settings, ran, same⟩
    exact ⟨received, settings, List.mem_append_left _ ran, same⟩

theorem Turned.kept (turned : Turned regions node received transmitted side world)
    (same : after.memory = world.memory) (quiet : World.Adds Quiet world after) :
    Turned regions node received transmitted side after :=
  turned.add (fun _ stands => stands.kept same) quiet

/-- An action of the application's own around the cycle. -/
theorem stream_meets {hook : Prog Host (Except Error Unit)}
    (hooked : hook = Host.beforeCycle ∨ hook = Host.afterCycle) {post : Application → World → Prop}
    (asked : ∀ after, after.memory = world.memory → World.Adds Quiet world after → post side after) :
    (Action.attempt hook : Operation Unit).EndsIn faults side world post := by
  rcases hooked with rfl | rfl
  all_goals
    refine ⟨trivial, fun answer after given => ?_⟩
    have ended := asked after given.1 (.one given.2 trivial)
    cases answer with
    | error error => exact ended
    | ok done => exact ended

theorem Prepared.noted {status : Status.End} (region : status.buffer.region = regions.status)
    (prepared : Prepared regions node received transmitted side world)
    (same : Elsewhere regions.status world.memory after.memory) (quiet : after.events = world.events) :
    Prepared regions node received transmitted { side with status } after where
  stands := prepared.stands.elsewhere prepared.stands.states region ⟨rfl, rfl, rfl, rfl⟩ same
    regions.aside.whole regions.beside.whole
  image := prepared.image
  quiet := prepared.quiet.trans (.quiet quiet)

theorem status_meets (prepared : Prepared regions node received transmitted side world) :
    (onStatus Status.refresh).EndsIn faults side world (Prepared regions node received transmitted) := by
  refine (part_meets status_refresh_asks prepared.stands.notes fun _ inside => inside.inWords).mono ?_
  rintro _ after ⟨status, rfl, region, same, quiet⟩
  exact prepared.noted region same quiet

/-- Images that were taken leave all other ends as they stand. -/
theorem Prepared.took {receivePdo : ProcessData.Consumer}
    (prepared : Prepared regions node received transmitted side world)
    (path : Path regions.receive node.communication.receivePdo receivePdo after.memory received)
    (same : Elsewhere regions.receive world.memory after.memory) (quiet : after.events = world.events) :
    Prepared regions node received transmitted { side with receivePdo } after where
  stands := {
    states := prepared.stands.states
    notes := prepared.stands.notes
    receive := path
    transmit := prepared.stands.transmit.elsewhere same regions.apart.whole
  }
  image := prepared.image
  quiet := prepared.quiet.trans (.quiet quiet)

theorem refresh_meets (prepared : Prepared regions node received transmitted side world) :
    (onReceivePdo ProcessData.Consumer.refresh).EndsIn faults side world
      (Prepared regions node received transmitted) := by
  have refreshed : ProcessData.Consumer.refresh.Ensures faults TripleBuffer.anyAccess side.receivePdo
      world.memory _ _ := ProcessData.Consumer.refresh_ensures prepared.stands.receive
  refine Action.Ensures.part_onHost (refreshed.mono (fun _ granted => granted) ?_ ?_)
  · rintro _ _ _ ⟨leaves, -⟩ after rfl quiet
    exact prepared.took leaves.path leaves.elsewhere quiet
  · rintro _ _ _ leaves after rfl quiet
    exact prepared.took leaves.path leaves.elsewhere quiet

theorem settle_keeps (producer : ProcessData.Producer) (settings : List (ObjectRef × Bytes)) :
    (settle producer settings).buffer = producer.buffer ∧
      (settle producer settings).image.size = producer.image.size := by
  induction settings generalizing producer with
  | nil => exact ⟨rfl, rfl⟩
  | cons setting rest ih =>
    obtain ⟨object, data⟩ := setting
    obtain ⟨buffer, size⟩ := ih ((producer.setObject object data).toOption.getD producer)
    cases set : producer.setObject object data with
    | error error =>
      rw [settle]
      rw [set] at buffer size ⊢
      exact ⟨buffer, size⟩
    | ok left =>
      obtain ⟨same, kept⟩ := ProcessData.Producer.setObject_eq_ok set
      rw [settle]
      rw [set] at buffer size ⊢
      exact ⟨buffer.trans same, size.trans kept⟩

/-- What the application leaves when it ran on a prepared cycle. -/
theorem Prepared.ran {settings : List (ObjectRef × Bytes)} {result : Except Error Unit}
    (prepared : Prepared regions node received transmitted side world)
    (memory : after.memory = world.memory) (told : after.events = world.events ++
      [⟨.cycle side.receivePdo.image side.transmitPdo.image, ⟨settings, result⟩⟩]) :
    Node.Stands regions
        ⟨node.communication, { side with transmitPdo := settle side.transmitPdo settings }, after⟩
        received transmitted ∧
      ∃ events, after.events = node.world.events ++ events ∧
        (∀ event ∈ events, RunsOn regions.receive received event) ∧
        (result = .ok () → LeftBy node.application.transmitPdo events
          (settle side.transmitPdo settings).image.bytes) := by
  obtain ⟨stands, image, earlier, added, quiet⟩ := prepared
  obtain ⟨states, notes, receive, transmit⟩ := stands.kept memory
  obtain ⟨buffer, size⟩ := settle_keeps side.transmitPdo settings
  rw [added, List.append_assoc] at told
  refine ⟨⟨states, notes, receive, transmit.edit buffer size⟩, _, told, ?_, ?_⟩
  · intro event member
    rcases List.mem_append.mp member with before | last
    · exact (quiet event before).runsOn
    · rw [List.mem_singleton.mp last]
      exact receive.taken
  · rintro rfl
    rw [image]
    exact ⟨_, settings, List.mem_append_right _ (List.mem_singleton_self _), rfl⟩

theorem Turned.told (turned : Turned regions node received transmitted side world)
    (told : Told world after) : Turned regions node received transmitted side after :=
  turned.kept told.memory (told.reported.mono fun _ => Quiet.of_reported)

theorem Prepared.told (prepared : Prepared regions node received transmitted side world)
    (told : Told world after) : Prepared regions node received transmitted side after :=
  prepared.kept told.memory (told.reported.mono fun _ => Quiet.of_reported)

/-- An image that is published is the one that the application left. -/
theorem Turned.gave {published : List Bytes} {events : List Host.Event}
    {transmitPdo : ProcessData.Producer}
    (stands : Node.Stands regions ⟨node.communication, side, world⟩ received transmitted)
    (added : world.events = node.world.events ++ events)
    (runs : ∀ event ∈ events, RunsOn regions.receive received event)
    (leaves : ∀ bytes ∈ published,
      bytes ∈ transmitted ∨ LeftBy node.application.transmitPdo events bytes)
    (path : Path regions.transmit transmitPdo node.communication.transmitPdo after.memory published)
    (same : Elsewhere regions.transmit world.memory after.memory)
    (quiet : after.events = world.events) :
    Turned regions node received transmitted { side with transmitPdo } after := by
  refine .mk ⟨stands.states, stands.notes, ?_, path⟩ (quiet.trans added) runs leaves
  exact stands.receive.elsewhere same regions.apart.symm.whole

/-- An image is published only if the application ended well, and then as it left it. -/
theorem exchange_meets (prepared : Prepared regions node received transmitted side world) :
    exchange.EndsIn faults side world (Turned regions node received transmitted) := by
  refine Action.Meets.get_then (Action.Meets.ask_then nofun fun cycle asked memory told =>
    Action.Meets.modify_then ?_)
  obtain ⟨settings, result⟩ := cycle
  obtain ⟨stands, events, added, runs, leaves⟩ := prepared.ran memory told
  cases result with
  | error error => exact Turned.mk stands added runs fun _ => .inl
  | ok done =>
    let finished := (settle side.transmitPdo settings).finish
    have stands : Node.Stands regions
        ⟨node.communication, { side with transmitPdo := finished }, asked⟩ received transmitted :=
      ⟨stands.states, stands.notes, stands.receive, stands.transmit.edit rfl rfl⟩
    have published : ProcessData.Producer.publish.Ensures faults TripleBuffer.anyAccess finished
        asked.memory _ _ := ProcessData.Producer.publish_ensures stands.transmit
    refine Action.Meets.modify_then (reportOn_keeps (Turned regions node received transmitted)
      (Action.Ensures.part_onHost (published.mono (fun _ granted => granted) ?_ ?_))
      fun _ _ _ => Turned.told)
    · rintro done _ _ gave after rfl quiet
      refine Turned.gave stands added runs (fun bytes member => ?_) gave.path gave.elsewhere quiet
      cases done with
      | false => exact .inl member
      | true =>
        refine (List.mem_append.mp member).imp_right fun last => ?_
        rw [List.mem_singleton.mp last]
        exact leaves rfl
    · rintro _ _ _ gave after rfl quiet
      exact Turned.gave stands added runs (fun _ => .inl) gave.path gave.elsewhere quiet

/-- What is left of a cycle adds no image. -/
theorem closeCycle_meets (turned : Turned regions node received transmitted side world) :
    closeCycle.EndsIn faults side world (Turned regions node received transmitted) := by
  refine Action.Meets.bind (fun _ => Turned regions node received transmitted)
    (reportOn_keeps _ ?_ fun _ _ _ => Turned.told) fun _ left after turned => ?_
  · refine (part_meets logbook_tick_asks rfl fun _ wordwise => wordwise.inWords).mono ?_
    rintro _ after ⟨changed, rfl, -, same, quiet⟩
    refine turned.add (fun _ stands => ?_) (.quiet quiet)
    exact stands.elsewhere stands.states stands.notes ⟨rfl, rfl, rfl, rfl⟩ same
      (fun _ => False.elim) fun _ => False.elim
  · refine Action.Meets.bind (fun _ => Turned regions node received transmitted) ?_
      fun _ _ _ turned => turned
    exact report_keeps _ (stream_meets (.inr rfl) fun _ same quiet => turned.kept same quiet)
      fun _ _ _ => Turned.told

theorem cycleBody_meets (prepared : Prepared regions node received transmitted side world) :
    cycleBody.EndsIn faults side world (Turned regions node received transmitted) := by
  refine Action.Meets.bind (fun _ => Prepared regions node received transmitted)
    (report_keeps _ (stream_meets (.inl rfl) fun _ same quiet => prepared.kept same quiet)
      fun _ _ _ => Prepared.told) ?_
  rintro (_ | _) left after prepared
  · exact prepared.turned
  refine Action.Meets.bind (fun _ => Prepared regions node received transmitted)
    (reportOn_keeps _ (status_meets prepared) fun _ _ _ => Prepared.told) fun _ _ _ prepared => ?_
  refine Action.Meets.bind (fun _ => Prepared regions node received transmitted)
    (report_keeps _ (refresh_meets prepared) fun _ _ _ => Prepared.told) ?_
  rintro (_ | refreshed) left after prepared
  · exact closeCycle_meets prepared.turned
  · exact Action.Meets.bind _ (exchange_meets prepared) fun _ _ _ => closeCycle_meets

theorem cycle_meets (stands : node.Stands regions received transmitted) :
    cycle.EndsIn faults node.application node.world (Turned regions node received transmitted) := by
  refine Action.Meets.ask_then nofun fun _ entered same told => ?_
  have prepared : Prepared regions node received transmitted node.application entered :=
    ⟨stands.kept same, rfl, .one told trivial⟩
  refine Action.Meets.bind (fun _ => Turned regions node received transmitted)
    (Action.Meets.outcome (cycleBody_meets prepared)) fun result left after turned => ?_
  refine Action.Meets.ask_then nofun fun _ last same told => ?_
  have turned := turned.kept same (.one told trivial)
  cases result with
  | error fault => exact turned
  | ok done => exact turned

end Application

/-! A cycle of the communication processor. -/

/-- From here the producing end takes an image from the dictionary, which gives the object of every
link, and publishes it. -/
inductive Publishes (surroundings : Surroundings) (producer : ProcessData.Producer) (world : World) :
    Bytes → Prop where
  | mk {copied left : ProcessData.Producer} {filled after : World} {events : List Host.Event}
    (copy : ProcessData.Producer.copyFrom.run surroundings.onHost producer world =
      ((.ok (), copied), filled))
    (told : filled.events = world.events ++ events)
    (given : List.Forall₂ ProcessData.Link.Given producer.image.links events)
    (publish : ProcessData.Producer.publish.onHost.run surroundings.onHost copied.finish filled =
      ((.ok true, left), after)) :
    Publishes surroundings producer world copied.image.bytes

/-- What the producing end has come to in a cycle. -/
inductive Published (surroundings : Surroundings) (d : Descriptor) (producer : ProcessData.Producer)
    (consumer : ProcessData.Consumer) (world : World) (published : List Bytes)
    (left : ProcessData.Producer) (after : World) : Prop where
  | mk {images : List Bytes} (path : Path d left consumer after.memory images)
    (elsewhere : Elsewhere d world.memory after.memory) (quiet : World.Adds Quiet world after)
    (given : ∀ bytes ∈ images, bytes ∈ published ∨ Publishes surroundings producer world bytes)

namespace Communication

section PublishImage

variable {d : Descriptor} {producer : ProcessData.Producer} {consumer : ProcessData.Consumer}
  {published : List Bytes}

/-- After a copy that ended well, what is published is that copy. -/
theorem publish_publishes {copied : ProcessData.Producer} {filled : World} {events : List Host.Event}
    (surroundings : Surroundings)
    (copy : ProcessData.Producer.copyFrom.run surroundings.onHost producer world =
      ((.ok (), copied), filled))
    (told : filled.events = world.events ++ events)
    (given : List.Forall₂ ProcessData.Link.Given producer.image.links events)
    (copies : ProcessData.Producer.Copies producer world copied filled)
    (path : Path d producer consumer world.memory published) :
    Published surroundings d producer consumer world published
      (ProcessData.Producer.publish.onHost.run surroundings.onHost copied.finish filled).1.2
      (ProcessData.Producer.publish.onHost.run surroundings.onHost copied.finish filled).2 := by
  obtain ⟨buffer, size, memory, reads⟩ := copies
  rw [← memory] at path
  have path : Path d copied.finish consumer filled.memory published := path.edit buffer size
  have stored : ProcessData.Producer.publish.Ensures surroundings.Faulty TripleBuffer.anyAccess
      copied.finish filled.memory _ _ := ProcessData.Producer.publish_ensures path
  have ended := stored.onHost.run surroundings
  have quiet : World.Adds Quiet world filled := reads.mono fun _ => Quiet.of_reads
  rcases publish : ProcessData.Producer.publish.onHost.run surroundings.onHost copied.finish filled with
    ⟨⟨fault | done, left⟩, after⟩
  · rw [publish] at ended
    obtain ⟨leaves, same⟩ := ended
    exact .mk leaves.path (memory ▸ leaves.elsewhere) (quiet.trans (.quiet same)) fun _ => .inl
  · rw [publish] at ended
    obtain ⟨leaves, same⟩ := ended
    refine .mk leaves.path (memory ▸ leaves.elsewhere) (quiet.trans (.quiet same)) ?_
    cases done with
    | false => exact fun _ => .inl
    | true =>
      have publishes := Publishes.mk copy told given publish
      intro bytes member
      refine (List.mem_append.mp member).imp_right fun last => ?_
      rw [List.mem_singleton.mp last]
      exact publishes

/-- Nothing is published but a copy that ended well. -/
theorem publishImage_publishes (surroundings : Surroundings)
    (path : Path d producer consumer world.memory published) :
    Published surroundings d producer consumer world published
      (publishImage.run surroundings.onHost producer world).1.2
      (publishImage.run surroundings.onHost producer world).2 := by
  have meets : ProcessData.Producer.copyFrom.Meets surroundings.Faulty producer world _ _ :=
    ProcessData.Producer.copyFrom_meets
  have copies := meets.run surroundings
  unfold publishImage
  rw [Action.run_bind]
  rcases copy : ProcessData.Producer.copyFrom.run surroundings.onHost producer world with
    ⟨⟨fault | done, copied⟩, filled⟩
  · rw [copy] at copies
    obtain ⟨buffer, size, memory, reads⟩ := copies
    rw [← memory] at path
    exact .mk (path.edit buffer size) (memory ▸ .refl _ _) (reads.mono fun _ => Quiet.of_reads)
      fun _ => .inl
  · rw [copy] at copies
    obtain ⟨copies, events, told, given⟩ := copies
    dsimp only
    rw [Action.run_bind, Action.run_modify]
    exact publish_publishes surroundings copy told given copies path

end PublishImage

/-- What a cycle has come to before the images of the application are taken. -/
structure Prepared (regions : Regions) (node : Node) (received transmitted : List Bytes)
    (side : Communication) (world : World) : Prop where
  stands : Node.Stands regions ⟨side, node.application, world⟩ received transmitted
  quiet : World.Adds Quiet node.world world

/-- What a cycle has come to in the end. If anything was written to the dictionary, it is an image that
the application published. -/
inductive Turned (regions : Regions) (node : Node) (received transmitted : List Bytes)
    (side : Communication) (world : World) : Prop where
  | mk {events : List Host.Event}
    (stands : Node.Stands regions ⟨side, node.application, world⟩ received transmitted)
    (added : world.events = node.world.events ++ events)
    (idle : ∀ event ∈ events, ∀ image own, event.request ≠ .cycle image own)
    (written : events.filterMap written? <+:
      side.transmitPdo.image.links.map side.transmitPdo.image.value)
    (published : events.filterMap written? ≠ [] → side.transmitPdo.image.bytes ∈ transmitted)

/-- What a cycle does once its own image is dealt with. -/
def takeImage : Operation Unit := do
  let refreshed ← report (.buffer .transmitPdo) (onTransmitPdo ProcessData.Consumer.refresh.onHost)
  if refreshed = some true then
    reportOn .transmitPdo (onTransmitPdo ProcessData.Consumer.copyTo)
  reportOn .ssdoTransmit (onOutbound Ssdo.Outbound.Consumer.tick)
  reportOn .ssdoReceive (onInbound Ssdo.Inbound.Producer.tick)

theorem cycle_eq (timestamp : UInt64) : cycle timestamp = (do
    reportOn .status (onStatus (Status.publish timestamp))
    reportOn .receivePdo (onReceivePdo publishImage)
    takeImage) := rfl

variable {side left : Communication} {after : World}

theorem Prepared.kept (prepared : Prepared regions node received transmitted side world)
    (same : after.memory = world.memory) (quiet : World.Adds Quiet world after) :
    Prepared regions node received transmitted side after :=
  ⟨prepared.stands.kept same, prepared.quiet.trans quiet⟩

theorem Prepared.told (prepared : Prepared regions node received transmitted side world)
    (told : Told world after) : Prepared regions node received transmitted side after :=
  prepared.kept told.memory (told.reported.mono fun _ => Quiet.of_reported)

theorem Prepared.noted {status : Status.End} (region : status.buffer.region = regions.status)
    (prepared : Prepared regions node received transmitted side world)
    (same : Elsewhere regions.status world.memory after.memory) (quiet : after.events = world.events) :
    Prepared regions node received transmitted { side with status } after where
  stands := prepared.stands.elsewhere region prepared.stands.notes ⟨rfl, rfl, rfl, rfl⟩ same
    regions.aside.whole regions.beside.whole
  quiet := prepared.quiet.trans (.quiet quiet)

theorem status_meets {timestamp : UInt64}
    (prepared : Prepared regions node received transmitted side world) :
    (onStatus (Status.publish timestamp)).EndsIn faults side world
      (Prepared regions node received transmitted) := by
  refine (part_meets (status_publish_asks timestamp) prepared.stands.states
    fun _ inside => inside.inWords).mono ?_
  rintro _ after ⟨status, rfl, region, same, quiet⟩
  exact prepared.noted region same quiet

/-- Steps of other ends, with quiet events. -/
theorem Turned.add (turned : Turned regions node received transmitted side world)
    (stands : Node.Stands regions ⟨left, node.application, after⟩ received transmitted)
    (same : left.transmitPdo = side.transmitPdo) (adds : World.Adds Quiet world after) :
    Turned regions node received transmitted left after := by
  obtain ⟨-, added, idle, written, published⟩ := turned
  obtain ⟨more, further, quiet⟩ := adds
  rw [added, List.append_assoc] at further
  refine .mk stands further ?_ ?_ ?_
  · intro event member
    rcases List.mem_append.mp member with earlier | late
    · exact idle event earlier
    · exact (quiet event late).idle
  · rw [List.filterMap_append, filterMap_quiet quiet, List.append_nil, same]
    exact written
  · rw [List.filterMap_append, filterMap_quiet quiet, List.append_nil, same]
    exact published

theorem Turned.told (turned : Turned regions node received transmitted side world)
    (told : Told world after) : Turned regions node received transmitted side after := by
  have ⟨stands, _, _, _, _⟩ := turned
  exact turned.add (stands.kept told.memory) rfl (told.reported.mono fun _ => Quiet.of_reported)

theorem Prepared.turned (prepared : Prepared regions node received transmitted side world) :
    Turned regions node received transmitted side world := by
  obtain ⟨events, added, quiet⟩ := prepared.quiet
  have none := filterMap_quiet quiet
  refine .mk prepared.stands added (fun event member => (quiet event member).idle) ?_ ?_
  · rw [none]
    exact List.nil_prefix
  · exact fun some => absurd none some

/-- Images that were taken leave all other ends as they stand. -/
theorem Prepared.took {transmitPdo : ProcessData.Consumer}
    (prepared : Prepared regions node received transmitted side world)
    (path : Path regions.transmit node.application.transmitPdo transmitPdo after.memory transmitted)
    (same : Elsewhere regions.transmit world.memory after.memory) (quiet : after.events = world.events) :
    Prepared regions node received transmitted { side with transmitPdo } after where
  stands := {
    states := prepared.stands.states
    notes := prepared.stands.notes
    receive := prepared.stands.receive.elsewhere same regions.apart.symm.whole
    transmit := path
  }
  quiet := prepared.quiet.trans (.quiet quiet)

theorem refresh_meets {failed : Fault → Communication → World → Prop}
    (prepared : Prepared regions node received transmitted side world) :
    (report (.buffer .transmitPdo) (onTransmitPdo ProcessData.Consumer.refresh.onHost)).Meets faults
      side world
      (fun refreshed left after => Prepared regions node received transmitted left after ∧
        (refreshed = some true → left.transmitPdo.image.bytes ∈ transmitted))
      failed := by
  have refreshed : ProcessData.Consumer.refresh.Ensures faults TripleBuffer.anyAccess side.transmitPdo
      world.memory _ _ := ProcessData.Consumer.refresh_ensures prepared.stands.transmit
  refine report_meets (Action.Ensures.part_onHost (refreshed.mono (fun _ granted => granted) ?_ ?_))
  · rintro fresh _ _ ⟨leaves, published⟩ after rfl quiet
    exact ⟨prepared.took leaves.path leaves.elsewhere quiet,
      fun found => published (Option.some.inj found)⟩
  · rintro _ _ _ leaves after rfl quiet told same
    exact ⟨(prepared.took leaves.path leaves.elsewhere quiet).told same, nofun⟩

/-- An image that was published is written to the dictionary, or the part before the first object that
is refused. -/
theorem copyTo_meets (prepared : Prepared regions node received transmitted side world)
    (published : side.transmitPdo.image.bytes ∈ transmitted) :
    (onTransmitPdo ProcessData.Consumer.copyTo).EndsIn faults side world
      (Turned regions node received transmitted) := by
  have wrote {left : ProcessData.Consumer} {after : World}
      (copies : ProcessData.Consumer.Copies side.transmitPdo
        (side.transmitPdo.image.links.map side.transmitPdo.image.value) world left after) :
      Turned regions node received transmitted { side with transmitPdo := left } after := by
    obtain ⟨rfl, memory, events, told, written, all⟩ := copies
    obtain ⟨earlier, added, quiet⟩ := prepared.quiet
    have none := filterMap_quiet quiet
    rw [added, List.append_assoc] at told
    refine .mk (prepared.stands.kept memory) told ?_ ?_ fun _ => published
    · intro event member image own same
      rcases List.mem_append.mp member with before | late
      · exact (quiet event before).idle image own same
      · have some := all event late
        obtain ⟨request, answer⟩ := event
        subst same
        contradiction
    · rw [List.filterMap_append, none, List.nil_append]
      exact written
  exact Action.Meets.part (ProcessData.Consumer.copyTo_meets.mono fun _ _ => wrote)

/-- Cycles are counted elsewhere. -/
theorem Turned.counted (turned : Turned regions node received transmitted side world)
    (same : SharedMemory.SameOutside Nowhere world.memory after.memory)
    (quiet : after.events = world.events) (status : left.status = side.status)
    (receive : left.receivePdo = side.receivePdo) (transmit : left.transmitPdo = side.transmitPdo) :
    Turned regions node received transmitted left after := by
  have ⟨stands, _, _, _, _⟩ := turned
  refine turned.add ?_ transmit (.quiet quiet)
  exact stands.elsewhere (status ▸ stands.states) stands.notes ⟨receive, rfl, rfl, transmit⟩ same
    (fun _ => False.elim) fun _ => False.elim

theorem ticks_meet (turned : Turned regions node received transmitted side world) :
    (do
      reportOn .ssdoTransmit (onOutbound Ssdo.Outbound.Consumer.tick)
      reportOn .ssdoReceive (onInbound Ssdo.Inbound.Producer.tick) : Operation Unit).EndsIn faults side
      world (Turned regions node received transmitted) := by
  refine Action.Meets.bind (fun _ => Turned regions node received transmitted)
    (reportOn_keeps _ ?_ fun _ _ _ => Turned.told) fun _ left after turned => ?_
  · refine Action.Meets.part (update_meets.mono ?_)
    rintro _ _ ⟨rfl, rfl⟩
    exact turned.counted (.refl _ _) rfl rfl rfl rfl
  · refine reportOn_keeps _ ?_ fun _ _ _ => Turned.told
    refine (part_meets inbound_tick_asks trivial fun _ wordwise => wordwise.inWords).mono ?_
    rintro _ after ⟨changed, rfl, -, same, quiet⟩
    exact turned.counted same quiet rfl rfl rfl

theorem takeImage_meets (prepared : Prepared regions node received transmitted side world) :
    takeImage.EndsIn faults side world (Turned regions node received transmitted) := by
  refine Action.Meets.bind _ (refresh_meets prepared) ?_
  rintro refreshed left after ⟨prepared, published⟩
  by_cases fresh : refreshed = some true
  · subst fresh
    refine Action.Meets.bind (fun _ => Turned regions node received transmitted) ?_
      fun _ _ _ => ticks_meet
    exact reportOn_keeps _ (copyTo_meets prepared (published rfl)) fun _ _ _ => Turned.told
  · simp only [fresh, if_false]
    exact ticks_meet prepared.turned

/-- The image's part of a cycle leaves the other ends as they stand. -/
theorem publishImage_prepares (surroundings : Surroundings)
    (prepared : Prepared regions node received transmitted side world) :
    ∃ images left told,
      (reportOn .receivePdo (onReceivePdo publishImage)).run surroundings.onHost side world =
        ((.ok (), left), told) ∧
      (∀ bytes ∈ images, bytes ∈ received ∨ Publishes surroundings side.receivePdo world bytes) ∧
      Prepared regions node images transmitted left told := by
  have published : Published surroundings regions.receive side.receivePdo node.application.receivePdo
      world received _ _ := publishImage_publishes surroundings prepared.stands.receive
  obtain ⟨told, same, reported⟩ :=
    run_reportOn surroundings .receivePdo (onReceivePdo publishImage) side world
  unfold onReceivePdo at same reported ⊢
  rw [Action.run_part] at same reported
  generalize publishImage.run surroundings.onHost side.receivePdo world = outcome
    at published same reported
  obtain ⟨⟨result, receivePdo⟩, after⟩ := outcome
  obtain ⟨path, elsewhere, quiet, given⟩ := published
  have stands : Node.Stands regions ⟨{ side with receivePdo }, node.application, after⟩ _ transmitted :=
    ⟨prepared.stands.states, prepared.stands.notes, path,
      prepared.stands.transmit.elsewhere elsewhere regions.apart.whole⟩
  exact ⟨_, _, told, reported, given, Prepared.told ⟨stands, prepared.quiet.trans quiet⟩ same⟩

end Communication

/-! Cycles of both. -/

namespace Node

/-- The communication processor and the world where a cycle from here deals with its image. -/
def stated (surroundings : Surroundings) (node : Node) (timestamp : UInt64) : Communication × World :=
  let ran := (reportOn .status (Communication.onStatus (Status.publish timestamp))).run
    surroundings.onHost node.communication node.world
  (ran.1.2, ran.2)

/-- In a cycle from here the communication processor publishes an image, after the dictionary gave the
object of every link. -/
def Publishes (surroundings : Surroundings) (node : Node) (timestamp : UInt64) (bytes : Bytes) : Prop :=
  let (side, world) := node.stated surroundings timestamp
  Side.Publishes surroundings side.receivePdo world bytes

/-- In a cycle from here the application runs to a good end, and leaves these bytes in its image. -/
def Settles (surroundings : Surroundings) (node : Node) (bytes : Bytes) : Prop :=
  ∃ events, (node.turn surroundings .application).world.events = node.world.events ++ events ∧
    LeftBy node.application.transmitPdo events bytes

variable (surroundings : Surroundings)

theorem turn_application (stands : node.Stands regions received transmitted) :
    Application.Turned regions node received transmitted
      (node.turn surroundings .application).application (node.turn surroundings .application).world :=
  (Application.cycle_meets stands).run surroundings

theorem run_stated (node : Node) (timestamp : UInt64) :
    (reportOn .status (Communication.onStatus (Status.publish timestamp))).run surroundings.onHost
        node.communication node.world =
      ((.ok (), (node.stated surroundings timestamp).1), (node.stated surroundings timestamp).2) := by
  obtain ⟨told, -, ran⟩ := run_reportOn surroundings .status
    (Communication.onStatus (Status.publish timestamp)) node.communication node.world
  rw [stated, ran]

theorem stated_prepared (timestamp : UInt64) (stands : node.Stands regions received transmitted) :
    Communication.Prepared regions node received transmitted
      (node.stated surroundings timestamp).1 (node.stated surroundings timestamp).2 := by
  have ends : (reportOn .status (Communication.onStatus (Status.publish timestamp))).EndsIn
      surroundings.Faulty node.communication node.world
      (Communication.Prepared regions node received transmitted) :=
    reportOn_keeps _ (Communication.status_meets ⟨stands, .quiet rfl⟩)
      fun _ _ _ => Communication.Prepared.told
  exact ends.run surroundings

theorem turn_communication (timestamp : UInt64) (stands : node.Stands regions received transmitted) :
    ∃ images, (∀ bytes ∈ images, bytes ∈ received ∨ node.Publishes surroundings timestamp bytes) ∧
      Communication.Turned regions node images transmitted
        (node.turn surroundings (.communication timestamp)).communication
        (node.turn surroundings (.communication timestamp)).world := by
  have prepared := stated_prepared surroundings timestamp stands
  obtain ⟨images, left, told, ran, given, prepared⟩ :=
    Communication.publishImage_prepares surroundings prepared
  refine ⟨images, given, ?_⟩
  have taken := (Communication.takeImage_meets prepared).run surroundings
  simp only [turn, Communication.cycle_eq, Action.run_bind, run_stated, ran]
  exact taken

/-- In one of these turns this is done. -/
def Did (start : Node) (turns : List Turn) (act : Node → Turn → Prop) : Prop :=
  ∃ earlier turn later, turns = earlier ++ turn :: later ∧ act (start.after surroundings earlier) turn

/-- A cycle of these turns published the image. -/
def PublishedIn (start : Node) (turns : List Turn) (bytes : Bytes) : Prop :=
  Did surroundings start turns fun node turn =>
    ∃ timestamp, turn = .communication timestamp ∧ node.Publishes surroundings timestamp bytes

/-- The application left the image in a cycle of these turns. -/
def SettledIn (start : Node) (turns : List Turn) (bytes : Bytes) : Prop :=
  Did surroundings start turns fun node turn => turn = .application ∧ node.Settles surroundings bytes

variable {surroundings} {start : Node} {turns : List Turn} {bytes : Bytes} {act : Node → Turn → Prop}

theorem Did.later (did : Did surroundings start turns act) (turn : Turn) :
    Did surroundings start (turns ++ [turn]) act := by
  obtain ⟨earlier, before, later, rfl, acted⟩ := did
  exact ⟨earlier, before, later ++ [turn], List.append_assoc .., acted⟩

theorem Did.last {turn : Turn} (acted : act (start.after surroundings turns) turn) :
    Did surroundings start (turns ++ [turn]) act := ⟨turns, turn, [], rfl, acted⟩

/-- The node stands, and its images have their origins in the turns it took. -/
structure Accounts (surroundings : Surroundings) (regions : Regions) (start : Node) (turns : List Turn)
    (received transmitted : List Bytes) : Prop where
  stands : (start.after surroundings turns).Stands regions received transmitted
  published : ∀ bytes ∈ received, PublishedIn surroundings start turns bytes
  settled : ∀ bytes ∈ transmitted, SettledIn surroundings start turns bytes

theorem after_append (turn : Turn) : start.after surroundings (turns ++ [turn]) =
    (start.after surroundings turns).turn surroundings turn := List.foldl_concat ..

theorem Accounts.turn (accounts : Accounts surroundings regions start turns received transmitted)
    (turn : Turn) : ∃ received transmitted,
      Accounts surroundings regions start (turns ++ [turn]) received transmitted := by
  obtain ⟨stands, published, settled⟩ := accounts
  cases turn with
  | communication timestamp =>
    obtain ⟨images, given, turned⟩ := turn_communication surroundings timestamp stands
    have ⟨stands, _, _, _, _⟩ := turned
    refine ⟨images, transmitted, ?_, fun bytes member => ?_, fun bytes member =>
      (settled bytes member).later _⟩
    · rw [after_append]
      exact stands
    · rcases given bytes member with earlier | publishes
      · exact (published bytes earlier).later _
      · exact .last ⟨timestamp, rfl, publishes⟩
  | application =>
    obtain @⟨images, events, stands, added, -, leaves⟩ := turn_application surroundings stands
    refine ⟨received, images, ?_, fun bytes member => (published bytes member).later _,
      fun bytes member => ?_⟩
    · rw [after_append]
      exact stands
    · rcases leaves bytes member with earlier | left
      · exact (settled bytes earlier).later _
      · exact .last ⟨rfl, events, added, left⟩

theorem after_accounts (surroundings : Surroundings) (stands : start.Stands regions [] [])
    (turns : List Turn) :
    ∃ received transmitted, Accounts surroundings regions start turns received transmitted := by
  induction turns using List.reverseRecOn with
  | nil => exact ⟨[], [], stands, nofun, nofun⟩
  | append_singleton turns turn ih =>
    obtain ⟨received, transmitted, accounts⟩ := ih
    exact accounts.turn turn

/-- Whatever cycles the processors take, in any order, whichever accesses fail and however the
application's runs end: it sees an empty image, or one that an earlier cycle published after the
dictionary gave the object of every link; and what a cycle writes to the dictionary are the values of
one image, as an earlier run of the application that ended well left it. -/
theorem images_unmixed {configuration : Configuration} {communicating applying : Tables}
    {objects : List ConfigurationChannel.Link}
    (disjoint : configuration.buffers.Pairwise Descriptor.Apart)
    (started : setUp surroundings configuration communicating applying objects world = .ok start)
    (turns : List Turn) (turn : Turn) :
    let node := start.after surroundings turns
    let next := node.turn surroundings turn
    let written := next.communication.transmitPdo.image
    ∃ events, next.world.events = node.world.events ++ events ∧
      (∀ image own cycle, ⟨.cycle image own, cycle⟩ ∈ events →
        image.bytes = Bytes.zeros image.size ∨ PublishedIn surroundings start turns image.bytes) ∧
      events.filterMap written? <+: written.links.map written.value ∧
      (events.filterMap written? ≠ [] → SettledIn surroundings start turns written.bytes) := by
  dsimp only
  obtain ⟨regions, stands⟩ := setUp_stands disjoint started
  obtain ⟨received, transmitted, stands, published, settled⟩ :=
    after_accounts surroundings stands turns
  cases turn with
  | communication timestamp =>
    obtain ⟨images, -, turned⟩ := turn_communication surroundings timestamp stands
    obtain @⟨events, -, added, idle, prefixed, fetched⟩ := turned
    refine ⟨events, added, fun image own cycle member => ?_, prefixed, fun wrote => ?_⟩
    · exact absurd rfl (idle _ member image own)
    · exact settled _ (fetched wrote)
  | application =>
    obtain @⟨images, events, -, added, runs, -⟩ := turn_application surroundings stands
    have none : events.filterMap written? = [] :=
      List.filterMap_eq_nil_iff.mpr fun event member => (runs event member).unwritten
    refine ⟨events, added, ?_, ?_, ?_⟩
    · intro image own cycle member
      rcases runs _ member with empty | shown
      · refine .inl (empty.trans (congrArg Bytes.zeros ?_))
        rw [ProcessData.Image.size, empty, Bytes.zeros, List.length_replicate]
      · exact .inr (published _ shown)
    · rw [none]
      exact List.nil_prefix
    · exact fun some => absurd none some

/-- The dictionary refuses an object of the second image, and a later access fails: the application
sees the first image, and what it makes of it reaches the dictionary. -/
theorem images_unmixed_relayed :
    let configuration : Configuration := { buffers := [⟨.status, 0, 16⟩, ⟨.configuration, 100, 18⟩,
      ⟨.receivePdo, 212, 2⟩, ⟨.transmitPdo, 276, 2⟩, ⟨.ssdoTransmit, 340, 8⟩, ⟨.ssdoReceive, 416, 8⟩,
      ⟨.asyncTransmit, 492, 8⟩, ⟨.asyncReceive, 568, 8⟩, ⟨.logbook, 644, 14⟩] }
    let tables : Tables := ⟨fun object => if object.index = 0x2000 then some 1 else some 2,
      [⟨⟨0x2000, 1⟩, 0, 1⟩, ⟨⟨0x2000, 2⟩, 1, 1⟩], [⟨⟨0x2001, 0⟩, 0, 2⟩]⟩
    let answers (asked : Nat) : (request : Host.Request) → Host.Answer request
      | .readObject _ _ => ⟨[UInt8.ofNat asked + 1], if asked = 3 then .error .general else .ok ()⟩
      | .cycle received _ => ⟨[(⟨0x2001, 0⟩, received.bytes.reverse)], .ok ()⟩
      | request => Surroundings.plainAnswer request
    let surroundings : Surroundings := ⟨fun count => count = 200, answers⟩
    let turns : List Turn := [.communication 0, .communication 1]
    ∃ start, setUp surroundings configuration tables tables [] ⟨.zeroed 0 186, 0, []⟩ = .ok start ∧
      PublishedIn surroundings start turns [1, 2] ∧
      SettledIn surroundings start (turns ++ [.application]) [2, 1] := by
  intro configuration tables answers surroundings turns
  have disjoint : configuration.buffers.Pairwise Descriptor.Apart := by
    have laid : configuration.buffers.Pairwise fun d other => d.base + d.regionSize ≤ other.base := by
      decide
    exact laid.imp Descriptor.Apart.of_le
  let told (node : Node) (turn : Turn) : List Host.Event :=
    (node.turn surroundings turn).world.events.drop node.world.events.length
  have told_eq {node : Node} {turn : Turn} {events : List Host.Event}
      (added : (node.turn surroundings turn).world.events = node.world.events ++ events) :
      told node turn = events := by
    dsimp only [told]
    rw [added, List.drop_left]
  let seen? (event : Host.Event) : Option Bytes := match event.request with
    | .cycle image _ => some image.bytes
    | _ => none
  have ran : (setUp surroundings configuration tables tables [] ⟨.zeroed 0 186, 0, []⟩).toOption.map
      (fun start =>
        let node := start.after surroundings turns
        let later := start.after surroundings (turns ++ [.application])
        ((told node .application).filterMap seen?,
          (told later (.communication 2)).filterMap written?,
          (later.turn surroundings (.communication 2)).communication.transmitPdo.image.bytes)) =
      some ([[1, 2]], [(⟨0x2001, 0⟩, [2, 1])], [2, 1]) := by decide +kernel
  cases started : setUp surroundings configuration tables tables [] ⟨.zeroed 0 186, 0, []⟩ with
  | error fault =>
    rw [started] at ran
    contradiction
  | ok start =>
    rw [started] at ran
    obtain ⟨seen, wrote, left⟩ := (Prod.mk.inj (Option.some.inj ran)).imp id Prod.mk.inj
    refine ⟨start, rfl, ?_, ?_⟩
    · obtain ⟨events, added, runs, -⟩ := images_unmixed disjoint started turns .application
      rw [told_eq added] at seen
      have shown : [1, 2] ∈ events.filterMap seen? := seen ▸ List.mem_singleton_self _
      obtain ⟨⟨request, cycle⟩, member, found⟩ := List.mem_filterMap.mp shown
      cases request with
      | cycle image own =>
        have bytes : image.bytes = [1, 2] := Option.some.inj found
        have origin := runs image own cycle member
        rw [ProcessData.Image.size, bytes] at origin
        exact origin.resolve_left (by decide)
      | _ => cases found
    · obtain ⟨events, added, -, -, fetched⟩ :=
        images_unmixed disjoint started (turns ++ [.application]) (.communication 2)
      rw [told_eq added] at wrote
      rw [left, wrote] at fetched
      exact fetched (List.cons_ne_nil _ _)

end Node

end NodeLink.Side

import NodeLink.Proofs.Node
import NodeLink.Proofs.Trace

/-! The application's cycles, one after the other, whatever the memory and the collaborators answer. A
cycle asks for all it does within its section. Once it began it counts the logbook's cycle and takes the
action after the cycle, whatever else failed, unless the application's own cycle fails: then it ends
there, with neither done. -/
namespace NodeLink

namespace Host.Event

/-- What an event is to a cycle. -/
inductive Kind where
  /-- The section is entered or left. -/
  | bound
  /-- The action before the cycle succeeds. -/
  | start
  /-- The application's own cycle ends with an error. -/
  | failure
  /-- The action after the cycle is taken. -/
  | close
  /-- The memory is accessed, an error is told, or the application's own cycle ends well. -/
  | ordinary
  | other
  deriving DecidableEq

def kind : Host.Event → Kind
  | ⟨.enter, _⟩ | ⟨.leave, _⟩ => .bound
  | ⟨.beforeCycle, .ok _⟩ => .start
  | ⟨.cycle _ _, ⟨_, .error _⟩⟩ => .failure
  | ⟨.afterCycle, _⟩ => .close
  | ⟨.medium _, _⟩ | ⟨.report _ _, _⟩ | ⟨.cycle _ _, ⟨_, .ok _⟩⟩ => .ordinary
  | _ => .other

def bounds (event : Host.Event) : Bool := event.kind = .bound

def begins (event : Host.Event) : Bool := event.kind = .start

def fails (event : Host.Event) : Bool := event.kind = .failure

def closes (event : Host.Event) : Bool := event.kind = .close

theorem of_ordinary {event : Host.Event} (ordinary : event.kind = .ordinary) :
    event.bounds = false ∧ event.begins = false ∧ event.fails = false ∧ event.closes = false := by
  unfold bounds begins fails closes
  rw [ordinary]
  exact ⟨rfl, rfl, rfl, rfl⟩

end Host.Event

namespace Side

section Shapes

variable {σ α : Type} {before after : σ} {events : List Host.Event} {source : Source}
  {operation : Action Host σ α}

/-- What the error handler is told of a result. -/
def reported (source : Source) : Except Fault α → List Host.Event
  | .error (.error error) => [⟨.report source error, ()⟩]
  | _ => []

theorem report_traces {result : Except Fault (Option α)}
    (traced : (report source operation).Traces before events result after) :
    ∃ early ended, operation.Traces before early ended after ∧
      events = early ++ reported source ended ∧ result = .ok ended.toOption := by
  unfold report at traced
  rcases traced.bind with ⟨fault, kept, rfl⟩ | ⟨ended, left, early, late, rfl, kept, rest⟩
  · obtain ⟨_, _, absurd⟩ := kept.outcome
    contradiction
  · obtain ⟨_, first, same⟩ := kept.outcome
    cases same
    rcases ended with (_ | error) | value
    · obtain ⟨rfl, same⟩ := rest
      cases same
      exact ⟨early, _, first, rfl, rfl⟩
    · obtain ⟨_, _, rfl, rfl, same⟩ := rest
      cases same
      exact ⟨early, _, first, rfl, rfl⟩
    · obtain ⟨rfl, same⟩ := rest
      cases same
      exact ⟨early, _, first, rfl, rfl⟩

/-- What is reported does not end what it is a part of. -/
theorem report_then {β : Type} {next : Option α → Action Host σ β} {result : Except Fault β}
    (traced : (report source operation >>= next).Traces before events result after) :
    ∃ value left early late, events = early ++ late ∧
      (report source operation).Traces before early (.ok value) left ∧
      (next value).Traces left late result after := by
  rcases traced.bind with ⟨fault, told, rfl⟩ | followed
  · obtain ⟨_, _, _, _, absurd⟩ := report_traces told
    contradiction
  · exact followed

theorem reportOn_traces {id : BufferId} {result : Except Fault Unit}
    (traced : (reportOn id operation).Traces before events result after) :
    ∃ value, (report (.buffer id) operation).Traces before events (.ok value) after ∧
      result = .ok () := by
  unfold reportOn at traced
  obtain ⟨value, left, early, _, rfl, told, rfl, same⟩ := report_then traced
  cases same
  rw [List.append_nil]
  exact ⟨value, told, rfl⟩

theorem reportOn_then {β : Type} {id : BufferId} {next : Unit → Action Host σ β}
    {result : Except Fault β} (traced : (reportOn id operation >>= next).Traces before events result after) :
    ∃ value left early late, events = early ++ late ∧
      (report (.buffer id) operation).Traces before early (.ok value) left ∧
      (next ()).Traces left late result after := by
  rcases traced.bind with ⟨fault, told, rfl⟩ | ⟨_, left, early, late, rfl, told, rest⟩
  · obtain ⟨_, _, absurd⟩ := reportOn_traces told
    contradiction
  · obtain ⟨value, told, _⟩ := reportOn_traces told
    exact ⟨value, left, early, late, rfl, told, rest⟩

/-- Nothing but accesses to the memory, errors told, and good ends of the application's own cycle. -/
def Ordinary (events : List Host.Event) : Prop := ∀ event ∈ events, event.kind = .ordinary

theorem Ordinary.kinds (ordinary : Ordinary events) : events.countP Host.Event.bounds = 0 ∧
    events.any Host.Event.begins = false ∧ events.any Host.Event.fails = false ∧
      events.countP Host.Event.closes = 0 := by
  simp only [List.countP_eq_zero, List.any_eq_false, Bool.not_eq_true]
  have other (event : Host.Event) (member : event ∈ events) := event.of_ordinary (ordinary event member)
  exact ⟨fun event member => (other event member).1, fun event member => (other event member).2.1,
    fun event member => (other event member).2.2.1, fun event member => (other event member).2.2.2⟩

theorem Ordinary.append {early late : List Host.Event} (first : Ordinary early) (rest : Ordinary late) :
    Ordinary (early ++ late) :=
  fun event member => (List.mem_append.mp member).elim (first event) (rest event)

theorem Ordinary.cons {event : Host.Event} (first : event.kind = .ordinary) (rest : Ordinary events) :
    Ordinary (event :: events) := List.forall_mem_cons.mpr ⟨first, rest⟩

theorem reported_ordinary (source : Source) (result : Except Fault α) :
    Ordinary (reported source result) := by
  have nothing : Ordinary [] := List.forall_mem_nil _
  rcases result with (_ | error) | value
  · exact nothing
  · exact nothing.cons rfl
  · exact nothing

theorem onHost_ordinary {action : Action Medium σ α} {result : Except Fault α}
    (traced : action.onHost.Traces before events result after) : Ordinary events := by
  intro event member
  obtain ⟨request, asked⟩ := traced.onHost event member
  obtain ⟨_, answer⟩ := event
  subst asked
  rfl

/-- A part of the state is worked on through the medium. -/
theorem report_part_traces {τ : Type} {read : σ → τ} {write : τ → σ → σ} {action : Action Medium τ α}
    {result : Except Fault (Option α)}
    (traced : (report source (Action.part read write action.onHost)).Traces before events result after) :
    Ordinary events ∧ ∃ changed, after = write changed before := by
  obtain ⟨early, ended, first, rfl, rfl⟩ := report_traces traced
  obtain ⟨changed, accesses, same⟩ := first.part
  exact ⟨(onHost_ordinary accesses).append (reported_ordinary _ _), changed, same⟩

end Shapes

namespace Application

/-- The logbook's end, with the timers it shares. -/
def log (side : Application) : Logbook.Producer.State := (side.logbook, side.timers)

/-- A cycle that was run: the state it found, what it asked with the answers, and how it ended. -/
structure Round where
  before : Application
  events : List Host.Event
  after : Application
  result : Except Fault Unit

/-- Cycles one after the other. Before each, anything may happen to the processor and around it. -/
def cycles {ω : Type} (handler : Handler Host ω) :
    List (Application × ω → Application × ω) → Application × ω → List Round
  | [], _ => []
  | meanwhile :: rest, state =>
    let state := meanwhile state
    let ran := cycle.run handler state.1 state.2
    ⟨state.1, (cycle state.1).events handler state.2, ran.1.2, ran.1.1⟩ ::
      cycles handler rest (ran.1.2, ran.2)

namespace Round

variable (round : Round)

/-- The section is entered first of all and left last of all, and only then. -/
def Guarded : Prop :=
  ∃ inner, round.events = ⟨.enter, ()⟩ :: inner ++ [⟨.leave, ()⟩] ∧ inner.countP Host.Event.bounds = 0

/-- The action before the cycle succeeded. -/
def Begun : Prop := round.events.any Host.Event.begins = true

/-- The application's own cycle failed. -/
def Failed : Prop := round.events.any Host.Event.fails = true

/-- The logbook's cycle was counted once, from the state that the cycle found, and the action after the
cycle was taken once, both last of all. Their errors were told. -/
structure Closed : Prop where
  counted : ∃ early ticked tick taken, round.events =
      early ++ ticked ++ reported (.buffer .logbook) tick ++
        ⟨.afterCycle, taken⟩ :: reported .stream (taken.mapError Fault.error) ++ [⟨.leave, ()⟩] ∧
    Logbook.Producer.tick.onHost.Traces round.before.log ticked tick round.after.log
  once : round.events.countP Host.Event.closes = 1
  result : round.result = .ok ()

/-- The cycle ended with the application's error: neither was the logbook's cycle counted, nor the action
after the cycle taken. -/
structure Abandoned : Prop where
  ended : ∃ early received transmitted settings error, round.events =
      early ++ [⟨.cycle received transmitted, ⟨settings, .error error⟩⟩, ⟨.leave, ()⟩] ∧
    round.result = .error (.error error)
  uncounted : round.after.log = round.before.log
  never : round.events.countP Host.Event.closes = 0

end Round

variable {before after : Application} {events : List Host.Event} {result : Except Fault Unit}

/-- The application's own cycle comes first. Its error is all that the exchange can fail with. -/
theorem exchange_traces (traced : exchange.Traces before events result after) :
    after.log = before.log ∧
      ((∃ received transmitted settings error,
          events = [⟨.cycle received transmitted, ⟨settings, .error error⟩⟩] ∧
          result = .error (.error error)) ∨
        Ordinary events ∧ result = .ok ()) := by
  unfold exchange at traced
  obtain ⟨⟨settings, outcome⟩, late, rfl, rest⟩ := traced.get_then.ask_then
  cases outcome with
  | error error =>
    obtain ⟨rfl, same⟩ := rest.modify_then
    cases same
    exact ⟨rfl, .inl ⟨_, _, settings, error, rfl, rfl⟩⟩
  | ok _ =>
    have published : (reportOn .transmitPdo (onTransmitPdo ProcessData.Producer.publish)).Traces _
        late result after := rest
    obtain ⟨_, told, rfl⟩ := reportOn_traces published
    obtain ⟨ordinary, changed, rfl⟩ := report_part_traces told
    exact ⟨rfl, .inr ⟨.cons rfl ordinary, rfl⟩⟩

/-- The logbook's cycle is counted and its error told, then the action after the cycle is taken. -/
inductive Closing (before : Logbook.Producer.State) :
    List Host.Event → Logbook.Producer.State → Prop
  | intro {ticked tick after} (taken : Except Error Unit)
      (counted : Logbook.Producer.tick.onHost.Traces before ticked tick after) :
      Closing before (ticked ++ reported (.buffer .logbook) tick ++
        ⟨.afterCycle, taken⟩ :: reported .stream (taken.mapError Fault.error)) after

theorem closeCycle_traces (traced : closeCycle.Traces before events result after) :
    Closing before.log events after.log ∧ result = .ok () := by
  unfold closeCycle at traced
  obtain ⟨_, left, _, closing, rfl, told, rest⟩ := reportOn_then traced
  obtain ⟨ticked, tick, first, rfl, _⟩ := report_traces told
  obtain ⟨changed, counted, rfl⟩ := first.part
  obtain ⟨_, _, _, _, rfl, told, rfl, same⟩ := report_then rest
  cases same
  obtain ⟨_, _, asked, rfl, _⟩ := report_traces told
  obtain ⟨_, ⟨taken, _, rfl, rfl, rfl⟩, rfl, rfl⟩ := asked.attempt
  rw [List.append_nil]
  exact ⟨.intro taken counted, rfl⟩

/-- How a cycle goes within its section. -/
inductive Course (before : Application) : List Host.Event → Except Fault Unit → Application → Prop
  | passed (error : Error) :
      Course before (⟨.beforeCycle, .error error⟩ :: [⟨.report .stream error, ()⟩]) (.ok ()) before
  | closed {early closing after} (ordinary : Ordinary early)
      (closes : Closing before.log closing after.log) :
      Course before (⟨.beforeCycle, .ok ()⟩ :: early ++ closing) (.ok ()) after
  | abandoned {early received transmitted settings after} (error : Error) (ordinary : Ordinary early)
      (uncounted : after.log = before.log) :
      Course before (⟨.beforeCycle, .ok ()⟩ :: early ++
        [⟨.cycle received transmitted, ⟨settings, .error error⟩⟩]) (.error (.error error)) after

/-- What a cycle does once it knows whether there is an image to run the application on. -/
theorem imaged_traces {early : List Host.Event} {imaged : Bool} {left : Application}
    (ordinary : Ordinary early) (kept : left.log = before.log)
    (traced : (if imaged then exchange >>= fun _ => closeCycle else closeCycle).Traces left events
      result after) :
    Course before (⟨.beforeCycle, .ok ()⟩ :: early ++ events) result after := by
  cases imaged with
  | false =>
    obtain ⟨closing, rfl⟩ := closeCycle_traces traced
    exact .closed ordinary (kept ▸ closing)
  | true =>
    rcases Action.Traces.bind traced with
      ⟨fault, exchanged, rfl⟩ | ⟨_, _, worked, closing, rfl, exchanged, rest⟩
    · obtain ⟨same, ⟨_, _, _, error, rfl, failed⟩ | ⟨_, absurd⟩⟩ := exchange_traces exchanged
      · cases failed
        exact .abandoned error ordinary (same.trans kept)
      · contradiction
    · obtain ⟨same, ⟨_, _, _, error, _, absurd⟩ | ⟨further, _⟩⟩ := exchange_traces exchanged
      · contradiction
      · obtain ⟨closes, rfl⟩ := closeCycle_traces rest
        rw [← List.append_assoc]
        exact .closed (ordinary.append further) ((same.trans kept) ▸ closes)

theorem cycleBody_traces (traced : cycleBody.Traces before events result after) :
    Course before events result after := by
  unfold cycleBody at traced
  obtain ⟨_, start, _, rest, rfl, told, traced⟩ := report_then traced
  obtain ⟨_, _, asked, rfl, same⟩ := report_traces told
  obtain ⟨_, ⟨answer, _, rfl, rfl, rfl⟩, rfl, rfl⟩ := asked.attempt
  cases same
  cases answer with
  | error error =>
    obtain ⟨rfl, same⟩ := traced
    cases same
    exact .passed error
  | ok _ =>
    -- Both reads are reported, so neither ends the cycle, and neither touches the logbook.
    obtain ⟨_, stated, status, _, rfl, told, traced⟩ := reportOn_then traced
    obtain ⟨first, _, same⟩ := report_part_traces told
    have kept : stated.log = start.log := same ▸ rfl
    obtain ⟨refreshed, received, loads, _, rfl, told, traced⟩ := report_then traced
    obtain ⟨second, _, same⟩ := report_part_traces told
    have kept : received.log = start.log := Eq.trans (same ▸ rfl) kept
    have course := imaged_traces (first.append second) kept traced
    rwa [List.cons_append, List.append_assoc] at course

theorem cycle_traces (traced : cycle.Traces before events result after) :
    ∃ inner, events = ⟨.enter, ()⟩ :: inner ++ [⟨.leave, ()⟩] ∧ Course before inner result after := by
  unfold cycle at traced
  obtain ⟨_, _, rfl, entered⟩ := traced.ask_then
  rcases entered.bind with ⟨fault, kept, rfl⟩ | ⟨_, left, inner, _, rfl, kept, rest⟩
  · obtain ⟨_, _, absurd⟩ := kept.outcome
    contradiction
  obtain ⟨ended, body, same⟩ := kept.outcome
  cases same
  obtain ⟨_, _, rfl, rfl, same⟩ := rest.ask_then
  cases same
  exact ⟨inner, rfl, cycleBody_traces body⟩

theorem Closing.kinds {found left : Logbook.Producer.State} (closing : Closing found events left) :
    events.countP Host.Event.bounds = 0 ∧ events.any Host.Event.fails = false ∧
      events.countP Host.Event.closes = 1 := by
  obtain @⟨ticked, tick, _, taken, counted⟩ := closing
  have first : Ordinary (ticked ++ reported (.buffer .logbook) tick) :=
    (onHost_ordinary counted).append (reported_ordinary _ tick)
  have last : Ordinary (reported .stream (taken.mapError Fault.error)) := reported_ordinary _ _
  simp only [List.countP_append, List.countP_cons, List.any_append, List.any_cons, first.kinds, last.kinds]
  exact ⟨rfl, rfl, rfl⟩

theorem Course.bounded (course : Course before events result after) :
    events.countP Host.Event.bounds = 0 := by
  cases course with
  | passed error => rfl
  | closed ordinary closes =>
    simp only [List.countP_append, List.countP_cons, ordinary.kinds, closes.kinds]
    rfl
  | abandoned error ordinary uncounted =>
    simp only [List.countP_append, List.countP_cons, ordinary.kinds]
    rfl

theorem cycles_traced {ω : Type} (handler : Handler Host ω)
    (meanwhile : List (Application × ω → Application × ω)) (start : Application × ω) :
    ∀ round ∈ cycles handler meanwhile start,
      cycle.Traces round.before round.events round.result round.after := by
  induction meanwhile generalizing start with
  | nil => exact fun _ member => absurd member List.not_mem_nil
  | cons change rest ih =>
    intro round member
    rw [cycles, List.mem_cons] at member
    rcases member with same | later
    · rw [same]
      exact Action.traces_run handler cycle (change start).1 (change start).2
    · exact ih _ round later

/-- Whatever happens between cycles, whatever the memory and the collaborators answer: a cycle enters the
section once and leaves it once, with all that it asks in between. Once it began, the logbook's cycle is
counted once and the action after the cycle is taken once, whatever else failed, unless the application's
own cycle failed: then the cycle ends with that error, and neither is done. -/
theorem closed_unless_failed {ω : Type} (handler : Handler Host ω)
    (meanwhile : List (Application × ω → Application × ω)) (start : Application × ω) (round : Round)
    (ran : round ∈ cycles handler meanwhile start) :
    round.Guarded ∧
      (round.Begun → (¬ round.Failed → round.Closed) ∧ (round.Failed → round.Abandoned)) := by
  obtain ⟨inner, same, course⟩ := cycle_traces (cycles_traced handler meanwhile start round ran)
  refine ⟨⟨inner, same, course.bounded⟩, fun begun => ?_⟩
  obtain ⟨before, events, after, result⟩ := round
  clear ran
  dsimp only at same course
  subst same
  cases course with
  | passed error => contradiction
  | @closed early closing _ ordinary closes =>
    refine ⟨fun _ => ⟨?_, ?_, rfl⟩, fun failed => ?_⟩
    · obtain @⟨ticked, tick, _, taken, counted⟩ := closes
      refine ⟨⟨.enter, ()⟩ :: ⟨.beforeCycle, .ok ()⟩ :: early, ticked, tick, taken, ?_, counted⟩
      simp only [List.cons_append, List.append_assoc]
    · simp only [List.countP_append, List.countP_cons, ordinary.kinds, closes.kinds]
      rfl
    · simp only [Round.Failed, List.any_append, List.any_cons, ordinary.kinds, closes.kinds] at failed
      contradiction
  | @abandoned early received transmitted settings _ error ordinary uncounted =>
    refine ⟨fun sound => absurd ?_ sound, fun _ => ⟨?_, uncounted, ?_⟩⟩
    · simp only [Round.Failed, List.any_append, List.any_cons, ordinary.kinds]
      rfl
    · refine ⟨⟨.enter, ()⟩ :: ⟨.beforeCycle, .ok ()⟩ :: early, received, transmitted, settings, error,
        ?_, rfl⟩
      simp only [List.cons_append, List.append_assoc, List.nil_append]
    · simp only [List.countP_append, List.countP_cons, ordinary.kinds]
      rfl

/-- A record is posted and stays unacknowledged. In the first cycle an access and the action after the
cycle fail: it closes all the same. In the second the application fails. -/
theorem closed_unless_failed_overdue :
    let configuration : Configuration := { buffers := [⟨.status, 0, 16⟩, ⟨.configuration, 100, 18⟩,
      ⟨.receivePdo, 212, 2⟩, ⟨.transmitPdo, 276, 2⟩, ⟨.ssdoTransmit, 340, 8⟩, ⟨.ssdoReceive, 416, 8⟩,
      ⟨.asyncTransmit, 492, 8⟩, ⟨.asyncReceive, 568, 8⟩, ⟨.logbook, 644, 14⟩], logbookTimeout := 1 }
    let tables : Tables := ⟨fun _ => none, [], []⟩
    let answers (asked : Nat) : (request : Host.Request) → Host.Answer request
      | .cycle _ _ => ⟨[], if asked = 10 then .error .transport else .ok ()⟩
      | .afterCycle => .error .transport
      | request => Surroundings.plainAnswer request
    let surroundings : Surroundings := ⟨fun count => count = 149, answers⟩
    let posting (state : Application × World) : Application × World :=
      let ran := (onLogbook (Logbook.Producer.post ⟨1, 2, 3, 4⟩)).run surroundings.onHost state.1 state.2
      (ran.1.2, ran.2)
    ∃ start closing failing,
      Node.setUp surroundings configuration tables tables [] ⟨.zeroed 0 186, 0, []⟩ = .ok start ∧
      cycles surroundings.onHost [posting, id] (start.application, start.world) = [closing, failing] ∧
      closing.Guarded ∧ closing.Closed ∧ failing.Guarded ∧ failing.Abandoned := by
  intro configuration tables answers surroundings posting
  let rounds (start : Node) : List Round :=
    cycles surroundings.onHost [posting, id] (start.application, start.world)
  have ran : (Node.setUp surroundings configuration tables tables [] ⟨.zeroed 0 186, 0, []⟩).toOption.map
      (fun start => (rounds start).map fun round =>
        (round.events.any Host.Event.begins, round.events.any Host.Event.fails)) =
      some [(true, false), (true, true)] := by decide +kernel
  cases started : Node.setUp surroundings configuration tables tables [] ⟨.zeroed 0 186, 0, []⟩ with
  | error fault =>
    rw [started] at ran
    contradiction
  | ok start =>
    rw [started] at ran
    have kinds := Option.some.inj ran
    obtain ⟨closing, rest, listed, first, others⟩ := List.map_eq_cons_iff.mp kinds
    obtain ⟨failing, _, rfl, second, none⟩ := List.map_eq_cons_iff.mp others
    cases List.map_eq_nil_iff.mp none
    obtain ⟨begun, sound⟩ := Prod.mk.inj first
    obtain ⟨too, failed⟩ := Prod.mk.inj second
    have one : closing ∈ rounds start := by
      rw [listed]
      exact List.mem_cons_self
    have other : failing ∈ rounds start := by
      rw [listed]
      exact List.mem_cons_of_mem _ List.mem_cons_self
    obtain ⟨guarded, closes⟩ := closed_unless_failed _ _ _ closing one
    obtain ⟨bounded, fails⟩ := closed_unless_failed _ _ _ failing other
    refine ⟨start, closing, failing, rfl, listed, guarded, (closes begun).1 ?_, bounded,
      (fails too).2 failed⟩
    unfold Round.Failed
    rw [sound]
    exact Bool.false_ne_true

end Application

end Side

end NodeLink

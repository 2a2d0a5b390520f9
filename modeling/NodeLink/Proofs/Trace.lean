import NodeLink.Proofs.Surroundings

/-! What an operation of the host may go through: the requests that it makes, each with an answer,
whatever the answers are. Every run is one of these traces, and the trace of a sequence is cut where its
second part begins. -/
namespace NodeLink

namespace Prog

variable {α β ω : Type}

/-- With these answers the program makes these requests, and ends with the result. -/
def Traces : Prog Host α → List Host.Event → α → Prop
  | done value, events, result => events = [] ∧ value = result
  | ask request next, events, result =>
    ∃ answer rest, events = ⟨request, answer⟩ :: rest ∧ (next answer).Traces rest result

/-- The requests of a run, with their answers. -/
def events (handler : Handler Host ω) : Prog Host α → ω → List Host.Event
  | done _, _ => []
  | ask request next, state =>
    let (answer, state) := handler request state
    ⟨request, answer⟩ :: (next answer).events handler state

theorem traces_run (handler : Handler Host ω) (program : Prog Host α) (state : ω) :
    program.Traces (program.events handler state) (program.run handler state).1 := by
  induction program generalizing state with
  | done value => exact ⟨rfl, rfl⟩
  | ask request next ih => exact ⟨_, _, rfl, ih _ _⟩

variable {program : Prog Host α} {events : List Host.Event}

theorem traces_bind {next : α → Prog Host β} {result : β} :
    (program.bind next).Traces events result ↔ ∃ value early late, events = early ++ late ∧
      program.Traces early value ∧ (next value).Traces late result := by
  induction program generalizing events with
  | done value =>
    constructor
    · exact fun traced => ⟨value, [], events, rfl, ⟨rfl, rfl⟩, traced⟩
    · rintro ⟨_, _, late, rfl, ⟨rfl, rfl⟩, traced⟩
      exact traced
  | ask request rest ih =>
    constructor
    · rintro ⟨answer, others, rfl, traced⟩
      obtain ⟨value, early, late, rfl, first, second⟩ := ih answer |>.mp traced
      exact ⟨value, _, late, rfl, ⟨answer, early, rfl, first⟩, second⟩
    · rintro ⟨value, _, late, rfl, ⟨answer, early, rfl, first⟩, second⟩
      exact ⟨answer, early ++ late, rfl, (ih answer).mpr ⟨value, early, late, rfl, first, second⟩⟩

end Prog

namespace Action

variable {σ τ α β : Type} {action : Action Host σ α} {next : α → Action Host σ β} {before after : σ}
  {events : List Host.Event} {result : Except Fault β}

/-- From one state the action goes through these events, ends so, and leaves the other state. -/
def Traces (action : Action Host σ α) (before : σ) (events : List Host.Event)
    (result : Except Fault α) (after : σ) : Prop := (action before).Traces events (result, after)

theorem traces_run {ω : Type} (handler : Handler Host ω) (action : Action Host σ α) (state : σ)
    (world : ω) : action.Traces state ((action state).events handler world)
      (action.run handler state world).1.1 (action.run handler state world).1.2 :=
  Prog.traces_run handler (action state) world

namespace Traces

theorem bind (traced : (action >>= next).Traces before events result after) :
    (∃ fault, action.Traces before events (.error fault) after ∧ result = .error fault) ∨
      ∃ value left early late, events = early ++ late ∧ action.Traces before early (.ok value) left ∧
        (next value).Traces left late result after := by
  obtain ⟨⟨ended, left⟩, early, late, rfl, first, rest⟩ := Prog.traces_bind.mp traced
  cases ended with
  | error fault =>
    obtain ⟨rfl, same⟩ := rest
    obtain ⟨rfl, rfl⟩ := Prod.mk.inj same
    rw [List.append_nil]
    exact .inl ⟨fault, first, rfl⟩
  | ok value => exact .inr ⟨value, left, early, late, rfl, first, rest⟩

theorem ask_then {request : Host.Request} {next : Host.Answer request → Action Host σ β}
    (traced : (ask (Host.request request) >>= next).Traces before events result after) :
    ∃ answer rest, events = ⟨request, answer⟩ :: rest ∧ (next answer).Traces before rest result after :=
  traced

theorem get_then {next : σ → Action Host σ β}
    (traced : (get >>= next).Traces before events result after) :
    (next before).Traces before events result after := traced

theorem modify_then {change : σ → σ} {next : Unit → Action Host σ β}
    (traced : (modify change >>= next).Traces before events result after) :
    (next ()).Traces (change before) events result after := traced

theorem attempt {program : Prog Host (Except Error β)}
    (traced : (attempt program).Traces before events result after) :
    ∃ answer, program.Traces events answer ∧ result = answer.mapError Fault.error ∧ after = before := by
  obtain ⟨answer, early, late, rfl, asked, rfl, same⟩ := Prog.traces_bind.mp traced
  obtain ⟨rfl, rfl⟩ := Prod.mk.inj same
  rw [List.append_nil]
  exact ⟨answer, asked, rfl, rfl⟩

theorem outcome {result : Except Fault (Except Fault α)}
    (traced : (outcome action).Traces before events result after) :
    ∃ ended, action.Traces before events ended after ∧ result = .ok ended := by
  obtain ⟨⟨ended, left⟩, early, late, rfl, first, rfl, same⟩ := Prog.traces_bind.mp traced
  obtain ⟨rfl, rfl⟩ := Prod.mk.inj same
  rw [List.append_nil]
  exact ⟨ended, first, rfl⟩

theorem part {read : σ → τ} {write : τ → σ → σ} {action : Action Host τ β}
    (traced : (part read write action).Traces before events result after) :
    ∃ changed, action.Traces (read before) events result changed ∧ after = write changed before := by
  obtain ⟨⟨ended, changed⟩, early, late, rfl, first, rfl, same⟩ := Prog.traces_bind.mp traced
  obtain ⟨rfl, rfl⟩ := Prod.mk.inj same
  rw [List.append_nil]
  exact ⟨changed, first, rfl⟩

end Traces

/-- An operation on the medium asks for nothing else. -/
theorem Traces.onHost {action : Action Medium σ β}
    (traced : action.onHost.Traces before events result after) :
    ∀ event ∈ events, ∃ request, event.request = .medium request := by
  unfold Traces Action.onHost interpret at traced
  generalize (result, after) = ended at traced
  generalize action before = program at traced
  induction program generalizing events with
  | done value =>
    obtain ⟨rfl, _⟩ := traced
    nofun
  | ask request next ih =>
    obtain ⟨answer, rest, rfl, traced⟩ := traced
    intro event member
    rcases List.mem_cons.mp member with rfl | later
    · exact ⟨request, rfl⟩
    · exact ih answer traced event later

end Action

end NodeLink

import NodeLink.Host
import NodeLink.Proofs.Operation

/-! A processor in its surroundings: the memory, whose accesses may fail, and collaborators that answer
as they like. What they were asked is kept in order. What an operation ensures holds of every run. -/
namespace NodeLink

/-- A request other than to the memory, with its answer. -/
structure Host.Event where
  request : Host.Request
  answer : Host.Answer request

structure World where
  memory : SharedMemory
  /-- How many accesses to the memory were attempted. -/
  accesses : Nat
  events : List Host.Event

/-- Time has passed, and all that happened is of a kind. -/
def World.Adds (kind : Host.Event → Prop) (before after : World) : Prop :=
  ∃ more, after.events = before.events ++ more ∧ ∀ event ∈ more, kind event

theorem World.Adds.quiet {kind : Host.Event → Prop} {before after : World}
    (same : after.events = before.events) : World.Adds kind before after :=
  ⟨[], same.trans (List.append_nil _).symm, nofun⟩

theorem World.Adds.one {kind : Host.Event → Prop} {before after : World} {event : Host.Event}
    (added : after.events = before.events ++ [event]) (fits : kind event) :
    World.Adds kind before after :=
  ⟨_, added, fun _ member => List.mem_singleton.mp member ▸ fits⟩

theorem World.Adds.trans {kind : Host.Event → Prop} {first second third : World}
    (begun : World.Adds kind first second) (rest : World.Adds kind second third) :
    World.Adds kind first third := by
  obtain ⟨early, same, fits⟩ := begun
  obtain ⟨late, further, too⟩ := rest
  refine ⟨early ++ late, by rw [further, same, List.append_assoc], fun event member => ?_⟩
  exact (List.mem_append.mp member).elim (fits event) (too event)

theorem World.Adds.mono {kind wider : Host.Event → Prop} {before after : World}
    (adds : World.Adds kind before after) (implies : ∀ event, kind event → wider event) :
    World.Adds wider before after := by
  obtain ⟨more, added, fits⟩ := adds
  exact ⟨more, added, fun event member => implies event (fits event member)⟩

/-- Which accesses fail, and what the collaborators answer. -/
structure Surroundings where
  fails : Nat → Bool
  answers : Nat → (request : Host.Request) → Host.Answer request

namespace Surroundings

def onWords (surroundings : Surroundings) : Handler Words (SharedMemory × Nat)
  | .load address, (memory, count) =>
    (if surroundings.fails count then .error .medium else memory.load address, memory, count + 1)
  | .store address word, (memory, count) =>
    if surroundings.fails count then (.error .medium, memory, count + 1)
    else
      let (answer, memory) := memory.store address word
      (answer, memory, count + 1)

def onHost (surroundings : Surroundings) : Handler Host World
  | .medium request, world =>
    let (answer, memory, accesses) :=
      (Prog.request (S := Medium) request).inWords.run surroundings.onWords
        (world.memory, world.accesses)
    (answer, { world with memory, accesses })
  | request, world =>
    let answer := surroundings.answers world.events.length request
    (answer, { world with events := world.events ++ [⟨request, answer⟩] })

/-- Collaborators that take everything and have nothing to tell. -/
def plainAnswer : (request : Host.Request) → Host.Answer request
  | .medium (.load _) => .error .medium
  | .medium (.store _ _) => .error .medium
  | .medium (.loadBytes _ _) => ⟨[], some .medium⟩
  | .medium (.storeBytes _ _) => .error .medium
  | .readObject _ _ => ⟨[], .ok ()⟩
  | .writeObject _ _ => .ok ()
  | .transmit _ _ => .ok .queued
  | .deliver _ _ => ()
  | .serves _ => true
  | .deliverFrame _ _ => ()
  | .record _ => ()
  | .report _ _ => ()
  | .enter => ()
  | .leave => ()
  | .beforeCycle => .ok ()
  | .afterCycle => .ok ()
  | .cycle _ _ => ⟨[], .ok ()⟩

/-- Some access fails. -/
def Faulty (surroundings : Surroundings) : Prop := ∃ count, surroundings.fails count = true

/-- The same collaborators, where no access fails. -/
def calm (surroundings : Surroundings) : Surroundings := { surroundings with fails := fun _ => false }

theorem not_faulty_calm (surroundings : Surroundings) : ¬ surroundings.calm.Faulty := by
  intro faulty
  obtain ⟨_, fails⟩ := faulty
  contradiction

end Surroundings

/-- What a request may answer: to the memory whatever its accesses ensure, else anything. -/
def Host.Answers (faults : Prop) : Semantics Host World
  | .medium request, world, answer, after => after.events = world.events ∧
    ∀ may post, (Prog.request (S := Medium) request).inWords.Ensures (SharedMemory.Answers faults) may
      world.memory post → post answer after.memory
  | request, world, answer, after => after.memory = world.memory ∧
    after.events = world.events ++ [⟨request, answer⟩]

namespace Surroundings

theorem onWords_listed (surroundings : Surroundings) (request : Words.Request)
    (state : SharedMemory × Nat) :
    SharedMemory.Answers surroundings.Faulty request state.1 (surroundings.onWords request state).1
      (surroundings.onWords request state).2.1 := by
  obtain ⟨memory, count⟩ := state
  cases request with
  | load address =>
    refine ⟨?_, rfl⟩
    by_cases fails : surroundings.fails count = true
    · exact .inr ⟨⟨count, fails⟩, if_pos fails⟩
    · exact .inl (if_neg fails)
  | store address word =>
    unfold onWords
    by_cases fails : surroundings.fails count = true
    · simp only [if_pos fails]
      exact .inr ⟨⟨count, fails⟩, rfl, rfl⟩
    · simp only [if_neg fails]
      exact .inl rfl

theorem onHost_listed (surroundings : Surroundings) (request : Host.Request) (world : World) :
    Host.Answers surroundings.Faulty request world (surroundings.onHost request world).1
      (surroundings.onHost request world).2 := by
  cases request with
  | medium request =>
    refine ⟨rfl, fun may post ensured => ?_⟩
    exact ensured.run surroundings.onWords Prod.fst surroundings.onWords_listed
      (world.memory, world.accesses)
  | _ => exact ⟨rfl, rfl⟩

end Surroundings

namespace Action

variable {σ τ α β : Type} {faults : Prop} {state : σ} {world : World} {ok : α → σ → World → Prop}
  {failed : Fault → σ → World → Prop}

/-- What an operation ensures in every surroundings. -/
def Meets (faults : Prop) (action : Action Host σ α) (state : σ) (world : World)
    (ok : α → σ → World → Prop) (failed : Fault → σ → World → Prop) : Prop :=
  (action state).Ensures (Host.Answers faults) (fun _ => True) world (Ended ok failed)

/-- What holds in every surroundings, however the operation ends. -/
abbrev EndsIn (faults : Prop) (action : Action Host σ α) (state : σ) (world : World)
    (post : σ → World → Prop) : Prop :=
  action.Meets faults state world (fun _ => post) fun _ => post

theorem Meets.run {action : Action Host σ α} (surroundings : Surroundings)
    (holds : action.Meets surroundings.Faulty state world ok failed) :
    Ended ok failed (action.run surroundings.onHost state world).1
      (action.run surroundings.onHost state world).2 :=
  Prog.Ensures.run surroundings.onHost (fun world => world) surroundings.onHost_listed world holds

theorem EndsIn.run {action : Action Host σ α} {post : σ → World → Prop}
    (surroundings : Surroundings) (holds : action.EndsIn surroundings.Faulty state world post) :
    post (action.run surroundings.onHost state world).1.2
      (action.run surroundings.onHost state world).2 := by
  have ended := Meets.run surroundings holds
  generalize (action.run surroundings.onHost state world).1 = result at ended
  obtain ⟨fault | value, left⟩ := result
  · exact ended
  · exact ended

theorem Meets.of_faultless {action : Action Host σ α} (faultless : ¬ faults)
    (holds : action.Meets False state world ok failed) :
    action.Meets faults state world ok failed := by
  rw [eq_false faultless]
  exact holds

theorem Meets.mono {action : Action Host σ α} {ok' : α → σ → World → Prop}
    {failed' : Fault → σ → World → Prop} (holds : action.Meets faults state world ok failed)
    (succeeds : ∀ value state after, ok value state after → ok' value state after)
    (fails : ∀ fault state after, failed fault state after → failed' fault state after) :
    action.Meets faults state world ok' failed' := by
  apply Prog.Ensures.mono holds (fun _ => id)
  rintro ⟨fault | value, state⟩ after ended
  · exact fails fault state after ended
  · exact succeeds value state after ended

theorem EndsIn.mono {action : Action Host σ α} {post wider : σ → World → Prop}
    (holds : action.EndsIn faults state world post)
    (implies : ∀ state after, post state after → wider state after) :
    action.EndsIn faults state world wider :=
  Meets.mono holds (fun _ => implies) fun _ => implies

theorem Meets.bind {action : Action Host σ α} {next : α → Action Host σ β}
    {ok : β → σ → World → Prop} (done : α → σ → World → Prop)
    (first : action.Meets faults state world done failed)
    (rest : ∀ value state after, done value state after →
      (next value).Meets faults state after ok failed) :
    (action >>= next).Meets faults state world ok failed := by
  change ((action state).bind _).Ensures _ _ _ _
  refine (Prog.ensures_bind _ _ _).mpr (Prog.Ensures.mono first (fun _ => id) ?_)
  rintro ⟨fault | value, state⟩ after ended
  · exact ended
  · exact rest value state after ended

theorem Meets.get_then {next : σ → Action Host σ α}
    (rest : (next state).Meets faults state world ok failed) :
    (get >>= next).Meets faults state world ok failed := rest

theorem Meets.modify_then {change : σ → σ} {next : Unit → Action Host σ α}
    (rest : (next ()).Meets faults (change state) world ok failed) :
    (modify change >>= next).Meets faults state world ok failed := rest

theorem Meets.ofExcept_then {result : Except Error α} {value : α} {next : α → Action Host σ β}
    {ok : β → σ → World → Prop} (found : result = .ok value)
    (rest : (next value).Meets faults state world ok failed) :
    (ofExcept result >>= next).Meets faults state world ok failed := by
  cases found
  exact rest

theorem Meets.part {read : σ → τ} {write : τ → σ → σ} {action : Action Host τ α}
    (holds : action.Meets faults (read state) world
      (fun value changed => ok value (write changed state))
      fun fault changed => failed fault (write changed state)) :
    (part read write action).Meets faults state world ok failed := by
  change ((action (read state)).bind _).Ensures _ _ _ _
  refine (Prog.ensures_bind _ _ _).mpr (Prog.Ensures.mono holds (fun _ => id) ?_)
  rintro ⟨fault | value, state⟩ after ended <;> exact ended

/-- A collaborator is asked: it may answer anything. -/
theorem Meets.ask_then {request : Host.Request} {next : Host.Answer request → Action Host σ α}
    (outside : ∀ access, request ≠ .medium access)
    (rest : ∀ answer after, after.memory = world.memory →
      after.events = world.events ++ [⟨request, answer⟩] →
        (next answer).Meets faults state after ok failed) :
    (ask (Host.request request) >>= next).Meets faults state world ok failed := by
  cases request with
  | medium access => exact absurd rfl (outside access)
  | _ => exact ⟨trivial, fun answer after given => rest answer after given.1 given.2⟩

theorem Meets.ask {request : Host.Request} {ok : Host.Answer request → σ → World → Prop}
    (outside : ∀ access, request ≠ .medium access)
    (asked : ∀ answer after, after.memory = world.memory →
      after.events = world.events ++ [⟨request, answer⟩] → ok answer state after) :
    (Action.ask (Host.request request)).Meets faults state world ok failed := by
  cases request with
  | medium access => exact absurd rfl (outside access)
  | _ => exact ⟨trivial, fun answer after given => asked answer after given.1 given.2⟩

theorem Meets.outcome {action : Action Host σ α} {ok : Except Fault α → σ → World → Prop}
    (holds : action.Meets faults state world (fun value => ok (.ok value))
      fun fault => ok (.error fault)) :
    (outcome action).Meets faults state world ok failed := by
  change ((action state).bind _).Ensures _ _ _ _
  refine (Prog.ensures_bind _ _ _).mpr (Prog.Ensures.mono holds (fun _ => id) ?_)
  rintro ⟨fault | value, state⟩ after ended <;> exact ended

/-- A program over the medium ensures the same when it is run by the host. -/
theorem ensures_onHost {program : Prog Medium α} {may : Words.Request → Prop}
    {post : α → SharedMemory → Prop}
    (holds : program.inWords.Ensures (SharedMemory.Answers faults) may world.memory post) :
    (program.interpret Host.answer).Ensures (Host.Answers faults) (fun _ => True) world
      fun value after => post value after.memory ∧ after.events = world.events := by
  induction program generalizing world with
  | done value => exact ⟨holds, rfl⟩
  | ask request next ih =>
    refine ⟨trivial, fun answer after ⟨quiet, ensured⟩ => ?_⟩
    have split : (Prog.ask request next).inWords =
        (Prog.request (S := Medium) request).inWords.bind fun answer => (next answer).inWords := by
      rw [← Prog.inWords_bind]
      rfl
    rw [split, Prog.ensures_bind] at holds
    apply (ih answer (ensured may _ holds)).mono (fun _ => id)
    intro value final ended
    exact ⟨ended.1, ended.2.trans quiet⟩

theorem Ensures.onHost {action : Action Medium σ α} {may : Words.Request → Prop}
    {ok : α → σ → SharedMemory → Prop} {failed : Fault → σ → SharedMemory → Prop}
    (holds : action.Ensures faults may state world.memory ok failed) :
    action.onHost.Meets faults state world
      (fun value state after => ok value state after.memory ∧ after.events = world.events)
      fun fault state after => failed fault state after.memory ∧ after.events = world.events := by
  apply (ensures_onHost holds).mono (fun _ => id)
  rintro ⟨fault | value, state⟩ after ended <;> exact ended

/-- A part of the state is worked on through the medium. -/
theorem Ensures.part_onHost {read : σ → τ} {write : τ → σ → σ} {action : Action Medium τ α}
    {may : Words.Request → Prop}
    (holds : action.Ensures faults may (read state) world.memory
      (fun value changed memory => ∀ after : World, after.memory = memory →
        after.events = world.events → ok value (write changed state) after)
      fun fault changed memory => ∀ after : World, after.memory = memory →
        after.events = world.events → failed fault (write changed state) after) :
    (part read write action.onHost).Meets faults state world ok failed :=
  Meets.part (holds.onHost.mono (fun _ _ after ended => ended.1 after rfl ended.2)
    fun _ _ after ended => ended.1 after rfl ended.2)

end Action

end NodeLink

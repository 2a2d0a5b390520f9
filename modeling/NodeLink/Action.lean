import NodeLink.Error
import NodeLink.Prog

/-! Operations of one end of a channel: they ask the surroundings, change the end's own state, and
may fail. A failure keeps the changes made before it, as a later call builds on them. The `run` lemmas
say what each way of making an action does under a handler, so that no proof has to open one. -/

namespace NodeLink

def Action (S : Signature) (σ α : Type) : Type := σ → Prog S (Except Fault α × σ)

namespace Action

variable {S T : Signature} {α β σ τ : Type}

def bind (action : Action S σ α) (next : α → Action S σ β) : Action S σ β := fun state =>
  (action state).bind fun
    | (.ok value, state) => next value state
    | (.error fault, state) => .done (.error fault, state)

instance : Monad (Action S σ) where
  pure value state := .done (.ok value, state)
  bind := bind

theorem bind_assoc {γ : Type} (action : Action S σ α) (first : α → Action S σ β)
    (second : β → Action S σ γ) :
    (action >>= first) >>= second = action >>= fun value => first value >>= second := by
  funext state
  change ((action state).bind _).bind _ = (action state).bind _
  rw [Prog.bind_assoc]
  congr 1
  funext ended
  obtain ⟨fault | value, state⟩ := ended <;> rfl

def fail (fault : Fault) : Action S σ α := fun state => .done (.error fault, state)

def get : Action S σ σ := fun state => .done (.ok state, state)

def modify (change : σ → σ) : Action S σ Unit := fun state => .done (.ok (), change state)

/-- Ask, and fail with the error that the answer may be. -/
def attempt (program : Prog S (Except Error α)) : Action S σ α := fun state =>
  program.bind fun answer => .done (answer.mapError Fault.error, state)

/-- Ask for what cannot fail. -/
def ask (program : Prog S α) : Action S σ α := fun state =>
  program.bind fun answer => .done (.ok answer, state)

def ofExcept (result : Except Error α) : Action S σ α := fun state =>
  .done (result.mapError Fault.error, state)

/-- Run an action and go on with its outcome, whatever it is. -/
def outcome (action : Action S σ α) : Action S σ (Except Fault α) := fun state =>
  (action state).bind fun (result, state) => .done (.ok result, state)

/-- A computation that only changes the state. -/
def update (change : σ → Except Error α × σ) : Action S σ α := fun state =>
  let (result, state) := change state
  .done (result.mapError Fault.error, state)

/-- Act on a part of the state. -/
def part (read : σ → τ) (write : τ → σ → σ) (action : Action S τ α) : Action S σ α := fun state =>
  (action (read state)).bind fun (result, changed) => .done (result, write changed state)

/-- Act through other requests. -/
def interpret (answer : (request : S.Request) → Prog T (S.Answer request))
    (action : Action S σ α) : Action T σ α := fun state => (action state).interpret answer

/-- Run an action from a state of its own and one of its surroundings. -/
def run {ω : Type} (handler : Handler S ω) (action : Action S σ α) (state : σ) (world : ω) :
    (Except Fault α × σ) × ω := (action state).run handler world

section Run

variable {ω : Type} (handler : Handler S ω) (state : σ) (world : ω)

@[simp] theorem run_pure (value : α) :
    (pure value : Action S σ α).run handler state world = ((.ok value, state), world) := rfl

theorem run_bind (action : Action S σ α) (next : α → Action S σ β) :
    (action >>= next).run handler state world =
      match action.run handler state world with
      | ((.ok value, state), world) => (next value).run handler state world
      | ((.error fault, state), world) => ((.error fault, state), world) := by
  change ((action state).bind _).run handler world = _
  rw [Prog.run_bind]
  unfold run
  rcases (action state).run handler world with ⟨⟨fault | value, state⟩, world⟩ <;> rfl

@[simp] theorem run_fail (fault : Fault) :
    (fail fault : Action S σ α).run handler state world = ((.error fault, state), world) := rfl

@[simp] theorem run_get :
    (get : Action S σ σ).run handler state world = ((.ok state, state), world) := rfl

@[simp] theorem run_modify (change : σ → σ) :
    (modify change : Action S σ Unit).run handler state world =
      ((.ok (), change state), world) := rfl

@[simp] theorem run_attempt (program : Prog S (Except Error α)) :
    (attempt program : Action S σ α).run handler state world =
      (((program.run handler world).1.mapError Fault.error, state),
        (program.run handler world).2) := by
  simp only [run, attempt, Prog.run_bind, Prog.run_done]

@[simp] theorem run_ask (program : Prog S α) :
    (ask program : Action S σ α).run handler state world =
      ((.ok (program.run handler world).1, state), (program.run handler world).2) := by
  simp only [run, ask, Prog.run_bind, Prog.run_done]

@[simp] theorem run_ofExcept (result : Except Error α) :
    (ofExcept result : Action S σ α).run handler state world =
      ((result.mapError Fault.error, state), world) := rfl

@[simp] theorem run_update (change : σ → Except Error α × σ) :
    (update change : Action S σ α).run handler state world =
      (((change state).1.mapError Fault.error, (change state).2), world) := rfl

@[simp] theorem run_outcome (action : Action S σ α) :
    (outcome action).run handler state world =
      ((.ok (action.run handler state world).1.1, (action.run handler state world).1.2),
        (action.run handler state world).2) := by
  simp only [run, outcome, Prog.run_bind, Prog.run_done]

@[simp] theorem run_part (read : σ → τ) (write : τ → σ → σ) (action : Action S τ α) :
    (part read write action).run handler state world =
      (((action.run handler (read state) world).1.1,
        write (action.run handler (read state) world).1.2 state),
        (action.run handler (read state) world).2) := by
  simp only [run, part, Prog.run_bind, Prog.run_done]

@[simp] theorem run_interpret (answer : (request : S.Request) → Prog T (S.Answer request))
    (handler : Handler T ω) (action : Action S σ α) :
    (action.interpret answer).run handler state world =
      action.run (fun request => (answer request).run handler) state world := by
  simp only [run, interpret, Prog.run_interpret]

end Run

end Action

end NodeLink

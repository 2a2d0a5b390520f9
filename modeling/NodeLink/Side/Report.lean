import NodeLink.Host

/-! How the two processors deal with the outcome of a channel's operation: an error goes to the error
handler, and what is busy is tried again by the next call. -/

namespace NodeLink.Side

variable {σ α : Type}

/-- Run an operation and report its error. Returns its result, if it succeeded. -/
def report (source : Source) (operation : Action Host σ α) : Action Host σ (Option α) := do
  match ← Action.outcome operation with
  | .ok value => return some value
  | .error .busy => return none
  | .error (.error error) =>
    Action.ask (Host.report source error)
    return none

def reportOn (id : BufferId) (operation : Action Host σ α) : Action Host σ Unit := do
  let _ ← report (.buffer id) operation

end NodeLink.Side

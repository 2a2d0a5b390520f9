/-! Programs that ask their surroundings. A `Prog` is the tree of everything an operation may ask,
in order, with one branch for each answer, so what happens between two requests is left open. A
handler answers requests from a state; `interpret` answers them by programs over other requests.
`run_bind` and `run_interpret` say that both act request by request. -/

namespace NodeLink

structure Signature where
  Request : Type
  Answer : Request → Type

inductive Prog (S : Signature) (α : Type) where
  | done (value : α)
  | ask (request : S.Request) (next : S.Answer request → Prog S α)

/-- Answers every request and changes a state of its own. -/
abbrev Handler (S : Signature) (σ : Type) := (request : S.Request) → σ → S.Answer request × σ

namespace Prog

variable {S T : Signature} {α β γ σ : Type}

def bind : Prog S α → (α → Prog S β) → Prog S β
  | done value, next => next value
  | ask request rest, next => ask request fun answer => (rest answer).bind next

instance : Monad (Prog S) where
  pure := done
  bind := bind

def request (request : S.Request) : Prog S (S.Answer request) := ask request done

def run (handler : Handler S σ) : Prog S α → σ → α × σ
  | done value, state => (value, state)
  | ask request next, state =>
    let (answer, state) := handler request state
    run handler (next answer) state

/-- Answer each request of a program by a program over other requests. -/
def interpret (answer : (request : S.Request) → Prog T (S.Answer request)) : Prog S α → Prog T α
  | done value => done value
  | ask request next => (answer request).bind fun reply => (next reply).interpret answer

@[simp] theorem pure_eq_done (value : α) : (pure value : Prog S α) = done value := rfl

@[simp] theorem bind_eq (program : Prog S α) (next : α → Prog S β) :
    program >>= next = program.bind next := rfl

@[simp] theorem done_bind (value : α) (next : α → Prog S β) : (done value).bind next = next value :=
  rfl

@[simp] theorem ask_bind (request : S.Request) (rest : S.Answer request → Prog S α)
    (next : α → Prog S β) :
    (ask request rest).bind next = ask request fun answer => (rest answer).bind next := rfl

@[simp] theorem bind_done (program : Prog S α) : program.bind done = program := by
  induction program with
  | done value => rfl
  | ask request rest ih => simp only [ask_bind, ih]

theorem bind_assoc (program : Prog S α) (first : α → Prog S β) (second : β → Prog S γ) :
    (program.bind first).bind second = program.bind fun value => (first value).bind second := by
  induction program with
  | done value => rfl
  | ask request rest ih => simp only [ask_bind, ih]

@[simp] theorem run_done (handler : Handler S σ) (value : α) (state : σ) :
    (done value : Prog S α).run handler state = (value, state) := rfl

@[simp] theorem run_ask (handler : Handler S σ) (request : S.Request)
    (next : S.Answer request → Prog S α) (state : σ) :
    (ask request next).run handler state =
      (next (handler request state).1).run handler (handler request state).2 := rfl

theorem run_bind (handler : Handler S σ) (program : Prog S α) (next : α → Prog S β) (state : σ) :
    (program.bind next).run handler state =
      (next (program.run handler state).1).run handler (program.run handler state).2 := by
  induction program generalizing state with
  | done value => rfl
  | ask request rest ih => simp only [ask_bind, run_ask, ih]

/-- Running an interpreted program is running it with the interpreting handler. -/
theorem run_interpret (answer : (request : S.Request) → Prog T (S.Answer request))
    (handler : Handler T σ) (program : Prog S α) (state : σ) :
    (program.interpret answer).run handler state =
      program.run (fun request => (answer request).run handler) state := by
  induction program generalizing state with
  | done value => rfl
  | ask request rest ih => simp only [interpret, run_bind, run_ask, ih]

end Prog

end NodeLink

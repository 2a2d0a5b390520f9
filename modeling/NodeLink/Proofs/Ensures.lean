import NodeLink.Action

/-! What a program ensures whatever answers it gets. A semantics lists the answers that a request may
get in a state; a program ensures a postcondition if it makes permitted requests alone and every
sequence of answers ends well. A handler whose answers are listed inherits what is ensured. -/
namespace NodeLink

/-- The answers that a request may get in a state, each with the state that it leaves. -/
abbrev Semantics (S : Signature) (σ : Type) :=
  (request : S.Request) → σ → S.Answer request → σ → Prop

namespace Prog

variable {S T : Signature} {α β σ ω : Type} {answers : Semantics S σ}
  {may allowed : S.Request → Prop} {state : σ}

def Ensures (answers : Semantics S σ) (may : S.Request → Prop) :
    Prog S α → σ → (α → σ → Prop) → Prop
  | done value, state, post => post value state
  | ask request next, state, post => may request ∧ ∀ answer after,
      answers request state answer after → Ensures answers may (next answer) after post

theorem Ensures.mono {program : Prog S α} {post weaker : α → σ → Prop}
    (holds : program.Ensures answers may state post)
    (wider : ∀ request, may request → allowed request)
    (implies : ∀ value after, post value after → weaker value after) :
    program.Ensures answers allowed state weaker := by
  induction program generalizing state with
  | done value => exact implies _ _ holds
  | ask request next ih =>
    exact ⟨wider _ holds.1, fun answer after given => ih answer (holds.2 answer after given)⟩

/-- Where nothing is forbidden, nothing is wrong. -/
theorem ensures_true (program : Prog S α) (state : σ) :
    program.Ensures answers (fun _ => True) state fun _ _ => True := by
  induction program generalizing state with
  | done value => trivial
  | ask request next ih => exact ⟨trivial, fun answer after _ => ih answer after⟩

theorem ensures_bind (program : Prog S α) (next : α → Prog S β) (post : β → σ → Prop) :
    (program.bind next).Ensures answers may state post ↔
      program.Ensures answers may state fun value after =>
        (next value).Ensures answers may after post := by
  induction program generalizing state with
  | done value => rfl
  | ask request rest ih =>
    simp only [ask_bind, Ensures]
    exact and_congr_right fun _ => forall_congr' fun answer => forall_congr' fun after =>
      imp_congr_right fun _ => ih answer

/-- Whatever reflexive and transitive relation every permitted answer respects, the run respects. -/
theorem Ensures.keeps {program : Prog S α} {post : α → σ → Prop} (kept : σ → σ → Prop)
    (refl : ∀ state, kept state state)
    (trans : ∀ {first second third}, kept first second → kept second third → kept first third)
    (respects : ∀ request before answer after, may request →
      answers request before answer after → kept before after)
    (holds : program.Ensures answers may state post) :
    program.Ensures answers may state fun value after => post value after ∧ kept state after := by
  induction program generalizing state with
  | done value => exact ⟨holds, refl state⟩
  | ask request next ih =>
    refine ⟨holds.1, fun answer after given => ?_⟩
    have first := respects request state answer after holds.1 given
    exact (ih answer (holds.2 answer after given)).mono (fun _ => id)
      fun _ _ rest => ⟨rest.1, trans first rest.2⟩

/-- A handler with listed answers runs into the postcondition. The handler's state may hold more than
the semantics speaks of. -/
theorem Ensures.run {program : Prog S α} {post : α → σ → Prop} (handler : Handler S ω)
    (view : ω → σ)
    (listed : ∀ request world, answers request (view world) (handler request world).1
      (view (handler request world).2))
    (world : ω) (holds : program.Ensures answers may (view world) post) :
    post (program.run handler world).1 (view (program.run handler world).2) := by
  induction program generalizing world with
  | done value => exact holds
  | ask request next ih => exact ih _ _ (holds.2 _ _ (listed request world))

theorem interpret_bind (answer : (request : S.Request) → Prog T (S.Answer request))
    (program : Prog S α) (next : α → Prog S β) :
    (program.bind next).interpret answer =
      (program.interpret answer).bind fun value => (next value).interpret answer := by
  induction program with
  | done value => rfl
  | ask request rest ih => simp only [ask_bind, interpret, ih, bind_assoc]

end Prog

end NodeLink

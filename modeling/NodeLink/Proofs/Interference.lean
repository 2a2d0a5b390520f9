import NodeLink.Proofs.Operation

/-! A program among others that work on the same state. Between its requests the state may change as a
rely allows; each request is an access that the program is granted then, and the accesses it is granted
are what the others have to rely on. -/
namespace NodeLink

/-- Any number of changes is such a change. -/
structure Interference {σ : Type} (rely : σ → σ → Prop) : Prop where
  refl : ∀ state, rely state state
  trans : ∀ {first second third}, rely first second → rely second third → rely first third

namespace Prog

variable {S : Signature} {α β σ τ : Type} {rely : σ → σ → Prop} {access : Semantics S σ}
  {state : σ}

def Guarantees (rely : σ → σ → Prop) (access : Semantics S σ) :
    Prog S α → σ → (α → σ → Prop) → Prop
  | done value, state, post => ∀ later, rely state later → post value later
  | ask request next, state, post => ∀ later, rely state later → ∃ answer after,
      access request later answer after ∧ Guarantees rely access (next answer) after post

/-- What others do in the meantime changes no guarantee. -/
theorem Guarantees.later {program : Prog S α} {post : α → σ → Prop} {after : σ} (among : Interference rely)
    (holds : program.Guarantees rely access state post) (changed : rely state after) :
    program.Guarantees rely access after post := by
  cases program with
  | done value => exact fun final further => holds final (among.trans changed further)
  | ask request next => exact fun final further => holds final (among.trans changed further)

theorem Guarantees.mono {program : Prog S α} {post weaker : α → σ → Prop}
    (holds : program.Guarantees rely access state post)
    (implies : ∀ value after, post value after → weaker value after) :
    program.Guarantees rely access state weaker := by
  induction program generalizing state with
  | done value => exact fun later changed => implies value later (holds later changed)
  | ask request next ih =>
    intro later changed
    obtain ⟨answer, after, granted, rest⟩ := holds later changed
    exact ⟨answer, after, granted, ih answer rest⟩

/-- A program ends in what it guarantees also after later changes. -/
theorem Guarantees.still {program : Prog S α} {post : α → σ → Prop} (among : Interference rely)
    (holds : program.Guarantees rely access state post) :
    program.Guarantees rely access state fun value after =>
      ∀ later, rely after later → post value later := by
  induction program generalizing state with
  | done value => exact fun later changed final further => holds final (among.trans changed further)
  | ask request next ih =>
    intro later changed
    obtain ⟨answer, after, granted, rest⟩ := holds later changed
    exact ⟨answer, after, granted, ih answer rest⟩

theorem guarantees_bind {program : Prog S α} {next : α → Prog S β} {post : β → σ → Prop}
    (among : Interference rely)
    (holds : program.Guarantees rely access state fun value after =>
      (next value).Guarantees rely access after post) :
    (program.bind next).Guarantees rely access state post := by
  induction program generalizing state with
  | done value => exact holds state (among.refl state)
  | ask request rest ih =>
    intro later changed
    obtain ⟨answer, after, granted, continued⟩ := holds later changed
    exact ⟨answer, after, granted, ih answer continued⟩

/-- A program that others leave alone ends as it does without them. -/
theorem Guarantees.of_ensures {program : Prog S α} {answers : Semantics S τ}
    {may : S.Request → Prop} {post : α → τ → Prop} {alone : τ} (sees : τ → σ → Prop)
    (kept : ∀ alone state later, sees alone state → rely state later → sees alone later)
    (granted : ∀ request alone state, may request → sees alone state →
      ∃ answer next after, answers request alone answer next ∧ access request state answer after ∧
        sees next after)
    (seen : sees alone state) (holds : program.Ensures answers may alone post) :
    program.Guarantees rely access state fun value after =>
      ∃ final, sees final after ∧ post value final := by
  induction program generalizing alone state with
  | done value => exact fun later changed => ⟨alone, kept _ _ _ seen changed, holds⟩
  | ask request next ih =>
    intro later changed
    obtain ⟨answer, following, after, answered, accessed, still⟩ :=
      granted request alone later holds.1 (kept _ _ _ seen changed)
    exact ⟨answer, after, accessed, ih answer still (holds.2 answer following answered)⟩

/-- A guarantee holds also where more is kept of what happens. -/
theorem Guarantees.lift {program : Prog S α} {post : α → σ → Prop} {wider : τ → τ → Prop}
    {recorded : Semantics S τ} (view : τ → σ)
    (relied : ∀ before after, wider before after → rely (view before) (view after))
    (granted : ∀ request before answer after, access request (view before) answer after →
      ∃ last, view last = after ∧ recorded request before answer last)
    {world : τ} (holds : program.Guarantees rely access (view world) post) :
    program.Guarantees wider recorded world fun value after => post value (view after) := by
  induction program generalizing world with
  | done value => exact fun later changed => holds _ (relied _ _ changed)
  | ask request next ih =>
    intro later changed
    obtain ⟨answer, after, accessed, rest⟩ := holds _ (relied _ _ changed)
    obtain ⟨last, rfl, recorded⟩ := granted request later answer after accessed
    exact ⟨answer, last, recorded, ih answer rest⟩

/-- A handler that lets others act first, as the rely allows, and then makes the access runs into what is
guaranteed. -/
theorem Guarantees.run {program : Prog S α} {post : α → σ → Prop} (handler : Handler S τ)
    (sees : σ → τ → Prop) (among : Interference rely)
    (acts : ∀ request state world, sees state world → ∃ later, rely state later ∧
      ∀ answer after, access request later answer after →
        answer = (handler request world).1 ∧ sees after (handler request world).2)
    {world : τ} (seen : sees state world) (holds : program.Guarantees rely access state post) :
    ∃ final, sees final (program.run handler world).2 ∧ post (program.run handler world).1 final := by
  induction program generalizing state world with
  | done value => exact ⟨state, seen, holds state (among.refl state)⟩
  | ask request next ih =>
    obtain ⟨later, changed, made⟩ := acts request state world seen
    obtain ⟨answer, after, accessed, rest⟩ := holds later changed
    obtain ⟨rfl, seen⟩ := made answer after accessed
    exact ih _ seen rest

end Prog

namespace Action

variable {α β σ τ ω : Type} {rely : ω → ω → Prop} {access : Semantics Words ω} {state : σ} {world : ω}
  {ok : α → σ → ω → Prop} {failed : Fault → σ → ω → Prop}

/-- A guarantee with one postcondition for success and one for failure. -/
def Guarantees (rely : ω → ω → Prop) (access : Semantics Words ω) (action : Action Medium σ α)
    (state : σ) (world : ω) (ok : α → σ → ω → Prop) (failed : Fault → σ → ω → Prop) : Prop :=
  (action state).inWords.Guarantees rely access world (Ended ok failed)

theorem Guarantees.mono {action : Action Medium σ α} {ok' : α → σ → ω → Prop}
    {failed' : Fault → σ → ω → Prop}
    (holds : action.Guarantees rely access state world ok failed)
    (succeeds : ∀ value state after, ok value state after → ok' value state after)
    (fails : ∀ fault state after, failed fault state after → failed' fault state after) :
    action.Guarantees rely access state world ok' failed' := by
  apply Prog.Guarantees.mono holds
  rintro ⟨fault | value, state⟩ after ended
  · exact fails fault state after ended
  · exact succeeds value state after ended

theorem Guarantees.bind {action : Action Medium σ α} {next : α → Action Medium σ β}
    {ok : β → σ → ω → Prop} (among : Interference rely) (done : α → σ → ω → Prop)
    (first : action.Guarantees rely access state world done failed)
    (rest : ∀ value state after, done value state after →
      (next value).Guarantees rely access state after ok failed) :
    (action >>= next).Guarantees rely access state world ok failed := by
  change ((action state).bind _).inWords.Guarantees _ _ _ _
  rw [Prog.inWords_bind]
  refine Prog.guarantees_bind among (Prog.Guarantees.mono (first.still among) ?_)
  rintro ⟨fault | value, state⟩ after ended
  · exact ended
  · exact rest value state after (ended after (among.refl after))

/-- What follows an operation that does not fail. -/
theorem Guarantees.bind_sure {action : Action Medium σ α} {next : α → Action Medium σ β}
    {done : α → σ → ω → Prop} {ok : β → σ → ω → Prop} (among : Interference rely)
    (first : action.Guarantees rely access state world done fun _ _ _ => False)
    (rest : ∀ value state after, done value state after →
      (next value).Guarantees rely access state after ok failed) :
    (action >>= next).Guarantees rely access state world ok failed :=
  .bind among done (first.mono (fun _ _ _ ended => ended) fun _ _ _ => False.elim) rest

theorem Guarantees.get_then {next : σ → Action Medium σ α}
    (rest : (next state).Guarantees rely access state world ok failed) :
    (get >>= next).Guarantees rely access state world ok failed := rest

theorem Guarantees.modify_then {change : σ → σ} {next : Unit → Action Medium σ α}
    (rest : (next ()).Guarantees rely access (change state) world ok failed) :
    (modify change >>= next).Guarantees rely access state world ok failed := rest

theorem Guarantees.part {read : σ → τ} {write : τ → σ → σ} {action : Action Medium τ α}
    (among : Interference rely)
    (holds : action.Guarantees rely access (read state) world
      (fun value changed => ok value (write changed state))
      fun fault changed => failed fault (write changed state)) :
    (part read write action).Guarantees rely access state world ok failed := by
  change ((action (read state)).bind _).inWords.Guarantees _ _ _ _
  rw [Prog.inWords_bind]
  refine Prog.guarantees_bind among (Prog.Guarantees.mono (Prog.Guarantees.still among holds) ?_)
  rintro ⟨fault | value, changed⟩ after ended <;> exact ended

end Action

namespace TripleBuffer

variable {α ω : Type} {rely : ω → ω → Prop} {access : Semantics Words ω} {buffer : TripleBuffer}
  {world : ω} {ok : α → TripleBuffer → ω → Prop} {failed : Fault → TripleBuffer → ω → Prop}
  {address : TripleBuffer → Nat} {word : UInt32}

theorem load_among {next : UInt32 → Operation α}
    (rest : ∀ later, rely world later → ∃ word after,
      access (.load (address buffer)) later (.ok word) after ∧
        (next word).Guarantees rely access buffer after ok failed) :
    (load address >>= next).Guarantees rely access buffer world ok failed := by
  intro later changed
  obtain ⟨word, after, granted, continued⟩ := rest later changed
  exact ⟨.ok word, after, granted, continued⟩

theorem store_among {next : Unit → Operation α}
    (rest : ∀ later, rely world later → ∃ after,
      access (.store (address buffer) word) later (.ok ()) after ∧
        (next ()).Guarantees rely access buffer after ok failed) :
    (store address word >>= next).Guarantees rely access buffer world ok failed := by
  intro later changed
  obtain ⟨after, granted, continued⟩ := rest later changed
  exact ⟨.ok (), after, granted, continued⟩

theorem store_last {ok : Unit → TripleBuffer → ω → Prop}
    (rest : ∀ later, rely world later → ∃ after,
      access (.store (address buffer) word) later (.ok ()) after ∧
        ∀ final, rely after final → ok () buffer final) :
    (store address word).Guarantees rely access buffer world ok failed := by
  intro later changed
  obtain ⟨after, granted, ended⟩ := rest later changed
  exact ⟨.ok (), after, granted, ended⟩

theorem requireRole_among {role : Role} {next : Unit → Operation α}
    (rest : buffer.role = role → (next ()).Guarantees rely access buffer world ok failed)
    (refused : buffer.role ≠ role → ∀ later, rely world later →
      failed (.error .invalidOperation) buffer later) :
    (requireRole role >>= next).Guarantees rely access buffer world ok failed := by
  unfold Action.Guarantees
  by_cases right : buffer.role = role
  · rw [requireRole_of_eq right]
    exact rest right
  · rw [requireRole_of_ne right]
    exact refused right

end TripleBuffer

end NodeLink

import NodeLink.Proofs.MediumAccess
import NodeLink.TripleBuffer

/-! What an operation on the medium ensures, with one postcondition for success and one for failure.
The rules follow how operations are made, so that no proof opens the program of one. -/
namespace NodeLink

namespace Action

variable {σ τ α β : Type} {faults : Prop} {may allowed : Words.Request → Prop} {state : σ}
  {memory : SharedMemory} {ok : α → σ → SharedMemory → Prop}
  {failed : Fault → σ → SharedMemory → Prop}

/-- How an operation may end. -/
def Ended {ω : Type} (ok : α → σ → ω → Prop) (failed : Fault → σ → ω → Prop) :
    Except Fault α × σ → ω → Prop
  | (.ok value, state), world => ok value state world
  | (.error fault, state), world => failed fault state world

def Ensures (faults : Prop) (may : Words.Request → Prop) (action : Action Medium σ α) (state : σ)
    (memory : SharedMemory) (ok : α → σ → SharedMemory → Prop)
    (failed : Fault → σ → SharedMemory → Prop) : Prop :=
  (action state).inWords.Ensures (SharedMemory.Answers faults) may memory (Ended ok failed)

theorem Ensures.mono {action : Action Medium σ α} {ok' : α → σ → SharedMemory → Prop}
    {failed' : Fault → σ → SharedMemory → Prop}
    (holds : action.Ensures faults may state memory ok failed)
    (wider : ∀ request, may request → allowed request)
    (succeeds : ∀ value state after, ok value state after → ok' value state after)
    (fails : ∀ fault state after, failed fault state after → failed' fault state after) :
    action.Ensures faults allowed state memory ok' failed' := by
  apply Prog.Ensures.mono holds wider
  rintro ⟨fault | value, state⟩ after ended
  · exact fails fault state after ended
  · exact succeeds value state after ended

theorem Ensures.bind {action : Action Medium σ α} {next : α → Action Medium σ β}
    {ok : β → σ → SharedMemory → Prop} (done : α → σ → SharedMemory → Prop)
    (first : action.Ensures faults may state memory done failed)
    (rest : ∀ value state after, done value state after →
      (next value).Ensures faults may state after ok failed) :
    (action >>= next).Ensures faults may state memory ok failed := by
  change ((action state).bind _).inWords.Ensures _ _ _ _
  rw [Prog.inWords_bind]
  refine (Prog.ensures_bind _ _ _).mpr (Prog.Ensures.mono first (fun _ => id) ?_)
  rintro ⟨fault | value, state⟩ after ended
  · exact ended
  · exact rest value state after ended

/-- What is ensured when no access fails holds where none does. -/
theorem Ensures.of_faultless {action : Action Medium σ α} (faultless : ¬ faults)
    (holds : action.Ensures False may state memory ok failed) :
    action.Ensures faults may state memory ok failed := by
  rw [eq_false faultless]
  exact holds

theorem get_then {next : σ → Action Medium σ α}
    (rest : (next state).Ensures faults may state memory ok failed) :
    (get >>= next).Ensures faults may state memory ok failed := rest

theorem modify_then {change : σ → σ} {next : Unit → Action Medium σ α}
    (rest : (next ()).Ensures faults may (change state) memory ok failed) :
    (modify change >>= next).Ensures faults may state memory ok failed := rest

theorem ofExcept_then {result : Except Error α} {next : α → Action Medium σ β}
    {ok : β → σ → SharedMemory → Prop}
    (rest : ∀ value, result = .ok value → (next value).Ensures faults may state memory ok failed)
    (lost : ∀ error, result = .error error → failed (.error error) state memory) :
    (ofExcept result >>= next).Ensures faults may state memory ok failed := by
  cases result with
  | error error => exact lost error rfl
  | ok value => exact rest value rfl

theorem Ensures.stores_keep {inside : Nat → Prop} {action : Action Medium σ α}
    (holds : action.Ensures faults (StoresIn inside) state memory ok failed) :
    action.Ensures faults (StoresIn inside) state memory
      (fun value state after => ok value state after ∧ SharedMemory.SameOutside inside memory after)
      fun fault state after =>
        failed fault state after ∧ SharedMemory.SameOutside inside memory after := by
  apply (Prog.Ensures.stores_keep holds).mono (fun _ => id)
  rintro ⟨fault | value, state⟩ after ended <;> exact ended

theorem Ensures.loads_keep {inside : Nat → Prop} {action : Action Medium σ α}
    (holds : action.Ensures faults (LoadsIn inside) state memory ok failed) :
    action.Ensures faults (LoadsIn inside) state memory
      (fun value state after => ok value state after ∧ after = memory)
      fun fault state after => failed fault state after ∧ after = memory := by
  apply (Prog.Ensures.loads_keep holds).mono (fun _ => id)
  rintro ⟨fault | value, state⟩ after ended <;> exact ended

theorem ensures_attempt {program : Prog Medium (Except Error α)}
    (holds : program.inWords.Ensures (SharedMemory.Answers faults) may memory fun answer after =>
      Ended ok failed (answer.mapError Fault.error, state) after) :
    (attempt program).Ensures faults may state memory ok failed := by
  change (program.bind _).inWords.Ensures _ _ _ _
  rw [Prog.inWords_bind]
  exact (Prog.ensures_bind _ _ _).mpr holds

theorem ensures_ask {program : Prog Medium α}
    (holds : program.inWords.Ensures (SharedMemory.Answers faults) may memory fun answer after =>
      ok answer state after) :
    (ask program).Ensures faults may state memory ok failed := by
  change (program.bind _).inWords.Ensures _ _ _ _
  rw [Prog.inWords_bind]
  exact (Prog.ensures_bind _ _ _).mpr holds

theorem ensures_outcome {action : Action Medium σ α} {ok : Except Fault α → σ → SharedMemory → Prop}
    (holds : action.Ensures faults may state memory (fun value => ok (.ok value))
      fun fault => ok (.error fault)) :
    (outcome action).Ensures faults may state memory ok failed := by
  change ((action state).bind _).inWords.Ensures _ _ _ _
  rw [Prog.inWords_bind]
  refine (Prog.ensures_bind _ _ _).mpr (Prog.Ensures.mono holds (fun _ => id) ?_)
  rintro ⟨fault | value, state⟩ after ended <;> exact ended

theorem ensures_part {read : σ → τ} {write : τ → σ → σ} {action : Action Medium τ α}
    (holds : action.Ensures faults may (read state) memory
      (fun value changed => ok value (write changed state))
      fun fault changed => failed fault (write changed state)) :
    (part read write action).Ensures faults may state memory ok failed := by
  change ((action (read state)).bind _).inWords.Ensures _ _ _ _
  rw [Prog.inWords_bind]
  refine (Prog.ensures_bind _ _ _).mpr (Prog.Ensures.mono holds (fun _ => id) ?_)
  rintro ⟨fault | value, state⟩ after ended <;> exact ended

end Action

namespace TripleBuffer

variable {α : Type} {faults : Prop} {may : Words.Request → Prop} {buffer : TripleBuffer}
  {memory : SharedMemory} {address : TripleBuffer → Nat} {word : UInt32}
  {ok : α → TripleBuffer → SharedMemory → Prop}
  {failed : Fault → TripleBuffer → SharedMemory → Prop}

theorem load_then {next : UInt32 → Operation α} (permitted : may (.load (address buffer)))
    (loaded : memory.load (address buffer) = .ok word)
    (rest : (next word).Ensures faults may buffer memory ok failed)
    (lost : faults → failed (.error .medium) buffer memory) :
    (load address >>= next).Ensures faults may buffer memory ok failed := by
  refine ⟨permitted, ?_⟩
  rintro answer after ⟨rfl | ⟨allowed, rfl⟩, rfl⟩
  · rw [loaded]
    exact rest
  · exact lost allowed

/-- A load from an address of which nothing is known. -/
theorem load_anywhere_then {next : UInt32 → Operation α} (permitted : may (.load (address buffer)))
    (rest : ∀ word, (next word).Ensures faults may buffer memory ok failed)
    (lost : failed (.error .medium) buffer memory) :
    (load address >>= next).Ensures faults may buffer memory ok failed := by
  refine ⟨permitted, ?_⟩
  rintro answer after ⟨rfl | ⟨_, rfl⟩, rfl⟩
  · by_cases mapped : after.Mapped (address buffer)
    · rw [SharedMemory.load_of_mapped mapped]
      exact rest _
    · rw [SharedMemory.load_of_not_mapped mapped]
      exact lost
  · exact lost

theorem store_ensures {ok : Unit → TripleBuffer → SharedMemory → Prop}
    (permitted : may (.store (address buffer) word))
    (mapped : memory.Mapped (address buffer))
    (stored : ∀ after, after.load (address buffer) = .ok word →
      SharedMemory.SameOutside (· = address buffer) memory after → ok () buffer after)
    (lost : faults → failed (.error .medium) buffer memory) :
    (store address word).Ensures faults may buffer memory ok failed := by
  refine ⟨permitted, ?_⟩
  intro answer after given
  have same := given.store_same
  rcases given.store_cases mapped with ⟨rfl, found⟩ | ⟨allowed, rfl, rfl⟩
  · exact stored after found same
  · exact lost allowed

theorem storeBytes_ensures {bytes : Bytes} {ok : Unit → TripleBuffer → SharedMemory → Prop}
    (permitted : ∀ other word, Within (address buffer) bytes.words.length other →
      may (.store other word))
    (mapped : ∀ index < bytes.words.length, memory.Mapped (address buffer + 4 * index))
    (stored : ∀ after, after.HasWords (address buffer) bytes.words →
      SharedMemory.SameOutside (Within (address buffer) bytes.words.length) memory after →
        ok () buffer after)
    (lost : faults → ∀ after,
      SharedMemory.SameOutside (Within (address buffer) bytes.words.length) memory after →
        failed (.error .medium) buffer after) :
    (storeBytes address bytes).Ensures faults may buffer memory ok failed := by
  apply Action.ensures_attempt
  rw [Medium.storeBytes_inWords]
  apply (ensures_storeEach _ permitted mapped).mono (fun _ granted => granted)
  rintro answer after ⟨same, ⟨rfl, has⟩ | ⟨allowed, rfl⟩⟩
  · exact stored after has same
  · exact lost allowed after same

theorem store_then {next : Unit → Operation α}
    (permitted : may (.store (address buffer) word))
    (mapped : memory.Mapped (address buffer))
    (rest : ∀ after, after.load (address buffer) = .ok word →
      SharedMemory.SameOutside (· = address buffer) memory after →
        (next ()).Ensures faults may buffer after ok failed)
    (lost : faults → failed (.error .medium) buffer memory) :
    (store address word >>= next).Ensures faults may buffer memory ok failed := by
  apply Action.Ensures.bind (fun _ left after => buffer = left ∧
    (next ()).Ensures faults may buffer after ok failed)
  · exact store_ensures permitted mapped (fun after stored same => ⟨rfl, rest after stored same⟩) lost
  · rintro _ _ after ⟨rfl, continued⟩
    exact continued

/-- A store to an address of which nothing is known: it is mapped, or the store fails. -/
theorem store_anywhere {ok : Unit → TripleBuffer → SharedMemory → Prop}
    (permitted : may (.store (address buffer) word))
    (stored : ∀ after, memory.Mapped (address buffer) → after.load (address buffer) = .ok word →
      SharedMemory.SameOutside (· = address buffer) memory after → ok () buffer after)
    (lost : failed (.error .medium) buffer memory) :
    (store address word).Ensures faults may buffer memory ok failed := by
  by_cases mapped : memory.Mapped (address buffer)
  · exact store_ensures permitted mapped (fun after => stored after mapped) fun _ => lost
  · refine ⟨permitted, ?_⟩
    intro answer after given
    rcases given with made | ⟨_, rfl, rfl⟩
    · rw [SharedMemory.store_of_not_mapped mapped] at made
      cases made
      exact lost
    · exact lost

theorem store_anywhere_then {next : Unit → Operation α}
    (permitted : may (.store (address buffer) word))
    (rest : ∀ after, memory.Mapped (address buffer) → after.load (address buffer) = .ok word →
      SharedMemory.SameOutside (· = address buffer) memory after →
        (next ()).Ensures faults may buffer after ok failed)
    (lost : failed (.error .medium) buffer memory) :
    (store address word >>= next).Ensures faults may buffer memory ok failed := by
  apply Action.Ensures.bind (fun _ left after => buffer = left ∧
    (next ()).Ensures faults may buffer after ok failed)
  · exact store_anywhere permitted
      (fun after mapped stored same => ⟨rfl, rest after mapped stored same⟩) lost
  · rintro _ _ after ⟨rfl, continued⟩
    exact continued

theorem storeBytes_then {bytes : Bytes} {next : Unit → Operation α}
    (permitted : ∀ other word, Within (address buffer) bytes.words.length other →
      may (.store other word))
    (mapped : ∀ index < bytes.words.length, memory.Mapped (address buffer + 4 * index))
    (rest : ∀ after, after.HasWords (address buffer) bytes.words →
      SharedMemory.SameOutside (Within (address buffer) bytes.words.length) memory after →
        (next ()).Ensures faults may buffer after ok failed)
    (lost : faults → ∀ after,
      SharedMemory.SameOutside (Within (address buffer) bytes.words.length) memory after →
        failed (.error .medium) buffer after) :
    (storeBytes address bytes >>= next).Ensures faults may buffer memory ok failed := by
  apply Action.Ensures.bind (fun _ left after => buffer = left ∧
    (next ()).Ensures faults may buffer after ok failed)
  · exact storeBytes_ensures permitted mapped (fun after stored same => ⟨rfl, rest after stored same⟩)
      lost
  · rintro _ _ after ⟨rfl, continued⟩
    exact continued

theorem loadBytes_then {payload : Bytes} {next : Transfer → Operation α}
    (permitted : ∀ other, Within (address buffer) payload.words.length other → may (.load other))
    (has : memory.HasWords (address buffer) payload.words)
    (rest : (next ⟨payload, none⟩).Ensures faults may buffer memory ok failed)
    (lost : faults → ∀ moved,
      (next ⟨moved, some .medium⟩).Ensures faults may buffer memory ok failed) :
    ((fun buffer => Action.ask (Medium.loadBytes (address buffer) payload.length) buffer) >>=
      next).Ensures faults may buffer memory ok failed := by
  apply Action.Ensures.bind (fun transfer left after => buffer = left ∧ memory = after ∧
    (transfer = ⟨payload, none⟩ ∨ faults ∧ transfer.failure = some .medium))
  · refine Action.ensures_ask ((ensures_loadBytes payload permitted has).mono ?_ ?_)
    · exact fun _ granted => granted
    · intro transfer after ended
      exact ⟨rfl, ended.1.symm, ended.2⟩
  · rintro ⟨moved, failure⟩ left after ⟨rfl, rfl, whole | ⟨allowed, failing⟩⟩
    · rw [whole]
      exact rest
    · cases failing
      exact lost allowed moved

theorem requireRole_of_eq {role : Role} {next : Unit → Operation α} (right : buffer.role = role) :
    (requireRole role >>= next) buffer = next () buffer := by
  change Action.bind _ _ _ = _
  simp only [Action.bind, requireRole, Action.ofExcept, right, if_true]
  rfl

theorem requireRole_of_ne {role : Role} {next : Unit → Operation α} (wrong : buffer.role ≠ role) :
    (requireRole role >>= next) buffer = .done (.error (.error .invalidOperation), buffer) := by
  change Action.bind _ _ _ = _
  simp only [Action.bind, requireRole, Action.ofExcept, wrong, if_false]
  rfl

theorem requireRole_then {role : Role} {next : Unit → Operation α} (right : buffer.role = role)
    (rest : (next ()).Ensures faults may buffer memory ok failed) :
    (requireRole role >>= next).Ensures faults may buffer memory ok failed := by
  unfold Action.Ensures
  rw [requireRole_of_eq right]
  exact rest

end TripleBuffer

end NodeLink

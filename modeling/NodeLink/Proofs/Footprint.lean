import NodeLink.Proofs.Operation

/-! What a program asks of its surroundings, whatever it is answered: words that change at will, accesses
that fail. What is known of its requests on the medium is known of the word accesses that the bus makes
for them, and of every run. -/
namespace NodeLink

namespace Prog

variable {S : Signature} {α σ ω : Type} {answers : Semantics S σ} {may allowed : S.Request → Prop}
  {program : Prog S α} {post : α → Prop}

/-- Any request may get any answer. -/
def anything : Semantics S Unit := fun _ _ _ _ => True

/-- The program asks for what it may, and ends so, whatever it is answered. -/
def Asks (may : S.Request → Prop) (program : Prog S α) (post : α → Prop) : Prop :=
  program.Ensures anything may () fun value _ => post value

theorem Asks.mono {weaker : α → Prop} (asks : program.Asks may post)
    (wider : ∀ request, may request → allowed request) (implies : ∀ value, post value → weaker value) :
    program.Asks allowed weaker := Ensures.mono asks wider fun value _ => implies value

/-- What is so with any answers is so with those that a semantics lists. -/
theorem Asks.ensures {state : σ} (asks : program.Asks may post) :
    program.Ensures answers may state fun value _ => post value := by
  induction program generalizing state with
  | done value => exact asks
  | ask request next ih => exact ⟨asks.1, fun answer after _ => ih answer (asks.2 answer () trivial)⟩

/-- A program's ends alone decide how it may go on. -/
theorem Asks.bind_congr {β : Type} {first second : α → Prog S β} (asks : program.Asks may post)
    (alike : ∀ value, post value → first value = second value) :
    program.bind first = program.bind second := by
  induction program with
  | done value => exact alike value asks
  | ask request next ih =>
    simp only [ask_bind]
    congr 1
    funext answer
    exact ih answer (asks.2 answer () trivial)

theorem Ensures.and {first second : S.Request → Prop} {ok also : α → σ → Prop} {state : σ}
    (holds : program.Ensures answers first state ok) (too : program.Ensures answers second state also) :
    program.Ensures answers (fun request => first request ∧ second request) state
      fun value after => ok value after ∧ also value after := by
  induction program generalizing state with
  | done value => exact ⟨holds, too⟩
  | ask request next ih =>
    exact ⟨⟨holds.1, too.1⟩, fun answer after given =>
      ih answer (holds.2 answer after given) (too.2 answer after given)⟩

end Prog

namespace Words

/-- An access to a word, with its answer. -/
structure Access where
  request : Words.Request
  answer : Words.Answer request

/-- Stores are to these addresses; loads may be from anywhere. -/
def Request.StoresWithin (inside : Nat → Prop) : Words.Request → Prop
  | .load _ => True
  | .store address _ => inside address

/-- The accesses of a run are kept in order. -/
def kept : Semantics Words (List Access) := fun request before answer after =>
  after = before ++ [⟨request, answer⟩]

end Words

namespace Prog

variable {α ω : Type} {program : Prog Words α} {may : Words.Request → Prop} {post : α → Prop}
  {log : List Words.Access}

/-- The accesses that a run makes. -/
def accesses (handler : Handler Words ω) : Prog Words α → ω → List Words.Access
  | done _, _ => []
  | ask request next, state =>
    let (answer, state) := handler request state
    ⟨request, answer⟩ :: (next answer).accesses handler state

/-- What a program ensures of its accesses holds of those of a run. -/
theorem Ensures.accesses {post : α → List Words.Access → Prop} (handler : Handler Words ω) (state : ω)
    (holds : program.Ensures Words.kept may log post) :
    post (program.run handler state).1 (log ++ program.accesses handler state) := by
  induction program generalizing log state with
  | done value =>
    change post value (log ++ [])
    rw [List.append_nil]
    exact holds
  | ask request next ih =>
    have rest := ih _ (handler request state).2 (holds.2 (handler request state).1 _ rfl)
    rwa [List.append_assoc] at rest

/-- Further accesses are permitted ones. -/
theorem Asks.kept (asks : program.Asks may post) :
    program.Ensures Words.kept may log fun value after => post value ∧
      ∃ more, after = log ++ more ∧ ∀ access ∈ more, may access.request := by
  apply Ensures.keeps _ _ _ _ asks.ensures
  · exact fun log => ⟨[], (List.append_nil log).symm, nofun⟩
  · rintro first _ _ ⟨begun, rfl, early⟩ ⟨rest, rfl, late⟩
    refine ⟨begun ++ rest, List.append_assoc .., fun access member => ?_⟩
    exact (List.mem_append.mp member).elim (early access) (late access)
  · rintro request before answer _ permitted rfl
    refine ⟨_, rfl, fun access member => ?_⟩
    rw [List.mem_singleton.mp member]
    exact permitted

theorem accesses_bind {β : Type} (handler : Handler Words ω) (program : Prog Words α)
    (next : α → Prog Words β) (state : ω) :
    (program.bind next).accesses handler state = program.accesses handler state ++
      (next (program.run handler state).1).accesses handler (program.run handler state).2 := by
  induction program generalizing state with
  | done value => rfl
  | ask request rest ih => exact congrArg (List.cons _) (ih _ _)

theorem Asks.accesses (asks : program.Asks may post) (handler : Handler Words ω) (state : ω) :
    ∀ access ∈ program.accesses handler state, may access.request := by
  have kept : program.Ensures Words.kept may [] _ := asks.kept
  obtain ⟨_, more, same, permitted⟩ := kept.accesses handler state
  rw [List.nil_append] at same
  exact same ▸ permitted

/-- Words that are not stored to are as before. -/
theorem Asks.sameOutside {inside : Nat → Prop} {faults : Prop} {memory : SharedMemory}
    (asks : program.Asks (Words.Request.StoresWithin inside) post) :
    program.Ensures (SharedMemory.Answers faults) (Words.Request.StoresWithin inside) memory
      fun value after => post value ∧ SharedMemory.SameOutside inside memory after := by
  apply Ensures.keeps _ (SharedMemory.SameOutside.refl inside) SharedMemory.SameOutside.trans
    _ asks.ensures
  intro request before answer after permitted given
  cases request with
  | load address =>
    rw [given.2]
    exact .refl _ _
  | store address word => exact given.store_same.mono fun _ same => same ▸ permitted

theorem Asks.bind {S : Signature} {α β : Type} {may : S.Request → Prop} {program : Prog S α}
    {next : α → Prog S β} {post : β → Prop} (done : α → Prop) (first : program.Asks may done)
    (rest : ∀ value, done value → (next value).Asks may post) : (program.bind next).Asks may post :=
  (ensures_bind _ _ _).mpr (first.mono (fun _ granted => granted) rest)

end Prog

namespace Medium.Request

/-- The words of a request are permitted one by one; it loads no bytes. -/
def Wordwise (may : Words.Request → Prop) : Medium.Request → Prop
  | .load address => may (.load address)
  | .store address word => may (.store address word)
  | .loadBytes _ _ => False
  | .storeBytes address bytes =>
    ∀ index < bytes.words.length, ∀ word, may (.store (address + 4 * index) word)

/-- Words or bytes are loaded. -/
def Loads : Medium.Request → Prop
  | .load _ | .loadBytes _ _ => True
  | .store _ _ | .storeBytes _ _ => False

variable {may allowed : Words.Request → Prop} {request : Medium.Request}

theorem Wordwise.mono (wordwise : request.Wordwise may)
    (wider : ∀ access, may access → allowed access) : request.Wordwise allowed := by
  cases request with
  | load address => exact wider _ wordwise
  | store address word => exact wider _ wordwise
  | loadBytes address size => exact wordwise
  | storeBytes address bytes => exact fun index short word => wider _ (wordwise index short word)

end Medium.Request

/-! The word accesses that the bus makes. -/

section InWords

variable {may : Words.Request → Prop}

theorem Words.storeEach_asks {address : Nat} (words : List UInt32)
    (permitted : ∀ index < words.length, ∀ word, may (.store (address + 4 * index) word)) :
    (storeEach store address words).Asks may fun _ => True := by
  induction words generalizing address with
  | nil => trivial
  | cons word rest ih =>
    refine ⟨permitted 0 (Nat.zero_lt_succ _) word, fun answer _ _ => ?_⟩
    cases answer with
    | error error => trivial
    | ok done =>
      apply ih
      intro index short
      have shifted : address + 4 + 4 * index = address + 4 * (index + 1) := by omega
      rw [shifted]
      exact permitted (index + 1) (Nat.succ_lt_succ short)

/-- A sequence of loads that does not fail moves as many words as it was asked for. -/
theorem Words.loadEach_asks {address : Nat} (count : Nat) (permitted : ∀ address, may (.load address)) :
    (loadEach load address count).Asks may fun run =>
      run.failure = none → run.moved.length = count := by
  induction count generalizing address with
  | zero => exact fun _ => rfl
  | succ count ih =>
    refine ⟨permitted address, fun answer _ _ => ?_⟩
    cases answer with
    | error error => exact nofun
    | ok word =>
      change ((loadEach load (address + 4) count).bind _).Asks _ _
      exact Prog.Asks.bind _ ih fun run all complete => congrArg (· + 1) (all complete)

theorem Bus.loadChunks_asks (chunks address size : Nat) (permitted : ∀ address, may (.load address)) :
    ((loadChunks chunks address size).interpret inWords).Asks may fun _ => True := by
  induction chunks generalizing address with
  | zero =>
    simp only [loadChunks, Prog.bind_eq, Prog.interpret_bind, Words.loadEach_inWords]
    exact Prog.Asks.bind _ (Words.loadEach_asks _ permitted) fun _ _ => trivial
  | succ chunks ih =>
    simp only [loadChunks, Prog.bind_eq, Prog.interpret_bind]
    refine Prog.Asks.bind (fun _ => True) ?_ fun answer _ => ?_
    · change (((Words.loadEach Words.load address 8).bind _).bind _).Asks _ _
      rw [Prog.bind_assoc]
      exact Prog.Asks.bind _ (Words.loadEach_asks _ permitted) fun _ _ => trivial
    · cases answer with
      | error error => trivial
      | ok chunk =>
        simp only [Prog.interpret_bind]
        exact Prog.Asks.bind (fun _ => True) (ih _) fun _ _ => trivial

theorem Medium.Request.Wordwise.inWords {request : Medium.Request} (wordwise : request.Wordwise may) :
    (Prog.request (S := Medium) request).inWords.Asks may fun _ => True := by
  cases request with
  | load address => exact ⟨wordwise, fun _ _ _ => trivial⟩
  | store address word => exact ⟨wordwise, fun _ _ _ => trivial⟩
  | loadBytes address size => exact wordwise.elim
  | storeBytes address bytes =>
    have stores := Medium.storeBytes_inWords address bytes
    change (Medium.storeBytes address bytes).inWords.Asks _ _
    rw [stores]
    exact Words.storeEach_asks _ wordwise

theorem Medium.Request.Loads.inWords {request : Medium.Request} (loads : request.Loads)
    (permitted : ∀ address, may (.load address)) :
    (Prog.request (S := Medium) request).inWords.Asks may fun _ => True := by
  cases request with
  | load address => exact ⟨permitted address, fun _ _ _ => trivial⟩
  | loadBytes address size =>
    change ((Bus.loadChunks _ address _).bind Prog.done).interpret Bus.inWords |>.Asks _ _
    rw [Prog.bind_done]
    exact Bus.loadChunks_asks _ _ _ permitted
  | store address word => exact loads.elim
  | storeBytes address bytes => exact loads.elim

/-- Accesses are permitted to a program if they are to each of its requests. -/
theorem Prog.Asks.inWords {α : Type} {requests : Medium.Request → Prop} {program : Prog Medium α}
    {post : α → Prop} (asks : program.Asks requests post)
    (accesses : ∀ request, requests request →
      (Prog.request (S := Medium) request).inWords.Asks may fun _ => True) :
    program.inWords.Asks may post := by
  induction program with
  | done value => exact asks
  | ask request next ih =>
    have split : (Prog.ask request next).inWords =
        (Prog.request (S := Medium) request).inWords.bind fun answer => (next answer).inWords := by
      rw [← Prog.inWords_bind]
      rfl
    rw [split]
    exact Prog.Asks.bind _ (accesses request asks.1) fun answer _ => ih answer (asks.2 answer () trivial)

end InWords

/-! Operations, by what each asks from the states of one kind. -/

namespace Action

section Asking

variable {S : Signature} {σ τ α β : Type} {kind : σ → Prop} {may allowed : S.Request → Prop}
  {action : Action S σ α} {next : α → Action S σ β}

/-- From every state of a kind the action asks for what it may, and leaves a state of that kind. -/
def AsksFrom (kind : σ → Prop) (may : S.Request → Prop) (action : Action S σ α) : Prop :=
  ∀ state, kind state → (action state).Asks may fun ended => kind ended.2

namespace AsksFrom

theorem mono (asks : action.AsksFrom kind may) (wider : ∀ request, may request → allowed request) :
    action.AsksFrom kind allowed :=
  fun state start => (asks state start).mono wider fun _ stays => stays

theorem bind (first : action.AsksFrom kind may) (rest : ∀ value, (next value).AsksFrom kind may) :
    (action >>= next).AsksFrom kind may := by
  intro state start
  change ((action state).bind _).Asks _ _
  apply Prog.Asks.bind _ (first state start)
  rintro ⟨fault | value, left⟩ stays
  · exact stays
  · exact rest value left stays

theorem done (value : α) : (pure value : Action S σ α).AsksFrom kind may := fun _ start => start

theorem fail (fault : Fault) : (Action.fail fault : Action S σ α).AsksFrom kind may :=
  fun _ start => start

theorem fail_then (fault : Fault) : (Action.fail fault >>= next).AsksFrom kind may :=
  fun _ start => start

theorem ite {condition : Prop} [Decidable condition] {other : Action S σ α}
    (first : action.AsksFrom kind may) (second : other.AsksFrom kind may) :
    (if condition then action else other).AsksFrom kind may := by
  split
  · exact first
  · exact second

theorem get_then {next : σ → Action S σ α}
    (rest : ∀ state, kind state → (next state).AsksFrom kind may) :
    (Action.get >>= next).AsksFrom kind may :=
  fun state start => rest state start state start

theorem modify {change : σ → σ} (stays : ∀ state, kind state → kind (change state)) :
    (Action.modify change : Action S σ Unit).AsksFrom kind may :=
  fun state start => stays state start

theorem update {change : σ → Except Error α × σ} (stays : ∀ state, kind state → kind (change state).2) :
    (Action.update change : Action S σ α).AsksFrom kind may :=
  fun state start => stays state start

theorem ofExcept (result : Except Error α) :
    (Action.ofExcept result : Action S σ α).AsksFrom kind may := fun _ start => start

theorem outcome (asks : action.AsksFrom kind may) : (Action.outcome action).AsksFrom kind may := by
  intro state start
  change ((action state).bind _).Asks _ _
  exact Prog.Asks.bind _ (asks state start) fun _ stays => stays

theorem part {read : σ → τ} {write : τ → σ → σ} {partly : τ → Prop} {action : Action S τ α}
    (asks : action.AsksFrom partly may) (reads : ∀ state, kind state → partly (read state))
    (writes : ∀ changed state, partly changed → kind state → kind (write changed state)) :
    (Action.part read write action).AsksFrom kind may := by
  intro state start
  change ((action (read state)).bind _).Asks _ _
  exact Prog.Asks.bind _ (asks _ (reads state start)) fun ended stays => writes _ _ stays start

end AsksFrom

end Asking

variable {σ α : Type} {kind : σ → Prop} {requests : Medium.Request → Prop} {bytes : Nat → Prop}
  {action : Action Medium σ α} {state : σ} {memory : SharedMemory} {faults : Prop}
  {may : Words.Request → Prop} {ok : α → σ → SharedMemory → Prop}
  {failed : Fault → σ → SharedMemory → Prop}

/-- Whatever an operation ensures, words that it does not store to are as before. -/
theorem Ensures.within (holds : action.Ensures faults may state memory ok failed)
    (asks : action.AsksFrom kind requests) (start : kind state)
    (accesses : ∀ request, requests request → (Prog.request (S := Medium) request).inWords.Asks
      (Words.Request.StoresWithin bytes) fun _ => True) :
    action.Ensures faults may state memory
      (fun value left after =>
        ok value left after ∧ kind left ∧ SharedMemory.SameOutside bytes memory after)
      fun fault left after =>
        failed fault left after ∧ kind left ∧ SharedMemory.SameOutside bytes memory after := by
  have same : (action state).inWords.Ensures (SharedMemory.Answers faults) _ memory _ :=
    ((asks state start).inWords accesses).sameOutside
  apply (Prog.Ensures.and holds same).mono (fun _ granted => granted.1)
  rintro ⟨fault | value, left⟩ after ended
  · exact ended
  · exact ended

/-- An operation ensures at least that. -/
theorem AsksFrom.ensures (asks : action.AsksFrom kind requests) (start : kind state)
    (accesses : ∀ request, requests request → (Prog.request (S := Medium) request).inWords.Asks
      (Words.Request.StoresWithin bytes) fun _ => True) :
    action.Ensures faults (Words.Request.StoresWithin bytes) state memory
      (fun _ left after => kind left ∧ SharedMemory.SameOutside bytes memory after)
      fun _ left after => kind left ∧ SharedMemory.SameOutside bytes memory after := by
  apply ((asks state start).inWords accesses).sameOutside.mono (fun _ granted => granted)
  rintro ⟨fault | value, left⟩ after ended
  · exact ended
  · exact ended

end Action

end NodeLink

import NodeLink.Proofs.Footprint
import NodeLink.Proofs.Surroundings

/-! Operations in which every access to a buffer is checked. Lists have no bounds that an index could
miss, so an operation is written once more over the space that it works in, with each index and each
range of it partial; one that is missed leaves no outcome. The checked operation agrees with the one
that runs if, whatever the memory and the collaborators answer, it has an outcome and that is the same. -/
namespace NodeLink

namespace Bytes

/-- The bytes from `start` to before `stop`, if they are there. -/
def part? (bytes : Bytes) (start stop : Nat) : Option Bytes :=
  if start ≤ stop ∧ stop ≤ bytes.length then some (bytes.slice start (stop - start)) else none

/-- Replace bytes from `offset` on, if there are as many. -/
def put? (bytes : Bytes) (offset : Nat) (patch : Bytes) : Option Bytes :=
  if offset + patch.length ≤ bytes.length then some (bytes.overlay offset patch) else none

variable {bytes patch : Bytes} {size start stop : Nat}

theorem part?_of_le (order : start ≤ stop) (fits : stop ≤ bytes.length) :
    bytes.part? start stop = some (bytes.slice start (stop - start)) := if_pos ⟨order, fits⟩

theorem part?_zero (fits : size ≤ bytes.length) : bytes.part? 0 size = some (bytes.take size) :=
  part?_of_le (Nat.zero_le _) fits

theorem part?_drop (fits : start ≤ bytes.length) :
    bytes.part? start bytes.length = some (bytes.drop start) := by
  rw [part?_of_le fits (Nat.le_refl _), slice, List.take_of_length_le]
  exact Nat.le_of_eq List.length_drop

theorem getElem?_of_lt {index : Nat} (there : index < bytes.length) :
    bytes[index]? = some (bytes.getD index 0) := by
  rw [List.getD_eq_getElem?_getD, List.getElem?_eq_getElem there, Option.getD_some]

theorem slice_two (fits : start + 2 ≤ bytes.length) :
    bytes.slice start 2 = [bytes.getD start 0, bytes.getD (start + 1) 0] := by
  have first : start < bytes.length := by omega
  have second : start + 1 < bytes.length := by omega
  rw [slice, List.drop_eq_getElem_cons first, List.drop_eq_getElem_cons second]
  simp only [List.take_succ_cons, List.take_zero, List.getD_eq_getElem?_getD,
    List.getElem?_eq_getElem first, List.getElem?_eq_getElem second, Option.getD_some]

theorem slice_take (within : start + size ≤ stop) :
    slice (bytes.take stop) start size = bytes.slice start size := by
  rw [slice, List.drop_take, List.take_take, Nat.min_eq_left (by omega), slice]

theorem put?_zero (fits : patch.length ≤ bytes.length) :
    bytes.put? 0 patch = some (patch ++ bytes.drop patch.length) := by
  have whole : bytes.overlay 0 patch = patch ++ bytes.drop patch.length := by
    rw [overlay, List.take_zero, List.nil_append, Nat.zero_add]
    apply List.take_of_length_le
    rw [List.length_append, List.length_drop]
    omega
  rw [put?, if_pos (by omega), whole]

end Bytes

namespace Prog

variable {S T : Signature} {α β γ δ ω : Type} {sound : (request : S.Request) → S.Answer request → Prop}
  {related : α → β → Prop} {first : Prog S α} {second : Prog S β}

/-- Two programs ask the same, and their ends are related, whatever sound answers they get. -/
inductive Matches (sound : (request : S.Request) → S.Answer request → Prop) (related : α → β → Prop) :
    Prog S α → Prog S β → Prop where
  | done {value : α} {found : β} (holds : related value found) :
      Matches sound related (.done value) (.done found)
  | ask (request : S.Request) {next : S.Answer request → Prog S α} {other : S.Answer request → Prog S β}
      (rest : ∀ answer, sound request answer → Matches sound related (next answer) (other answer)) :
      Matches sound related (.ask request next) (.ask request other)

/-- Any sound answer may be given. -/
def sounding (sound : (request : S.Request) → S.Answer request → Prop) : Semantics S Unit :=
  fun request _ answer _ => sound request answer

namespace Matches

theorem bind {further : γ → δ → Prop} {next : α → Prog S γ} {other : β → Prog S δ}
    (matched : Matches sound related first second)
    (rest : ∀ value found, related value found → Matches sound further (next value) (other found)) :
    Matches sound further (first.bind next) (second.bind other) := by
  induction matched with
  | done holds => exact rest _ _ holds
  | ask request _ ih => exact .ask request ih

/-- A program matches itself, with what it ensures. -/
theorem of_ensures {program : Prog S α} {may : S.Request → Prop} {post : α → Prop}
    {related : α → α → Prop} (holds : program.Ensures (sounding sound) may () fun value _ => post value)
    (implies : ∀ value, post value → related value value) : Matches sound related program program := by
  induction program with
  | done value => exact .done (implies value holds)
  | ask request next ih =>
    exact .ask request fun answer given => ih answer (holds.2 answer () given)

theorem interpret {answer : (request : S.Request) → Prog T (S.Answer request)}
    {soundly : (request : T.Request) → T.Answer request → Prop}
    (answers : ∀ request, (answer request).Ensures (sounding soundly) (fun _ => True) ()
      fun reply _ => sound request reply)
    (matched : Matches sound related first second) :
    Matches soundly related (first.interpret answer) (second.interpret answer) := by
  induction matched with
  | done holds => exact .done holds
  | ask request _ ih =>
    have asked : Matches soundly (fun reply found => reply = found ∧ sound request reply)
        (answer request) (answer request) :=
      of_ensures (answers request) fun reply given => ⟨rfl, given⟩
    apply asked.bind
    rintro reply _ ⟨rfl, given⟩
    exact ih reply given

/-- Under a handler that answers soundly both programs do the same. -/
theorem run {handler : Handler S ω} (listed : ∀ request world, sound request (handler request world).1)
    (matched : Matches sound related first second) (world : ω) :
    related (first.run handler world).1 (second.run handler world).1 ∧
      (first.run handler world).2 = (second.run handler world).2 := by
  induction matched generalizing world with
  | done holds => exact ⟨holds, rfl⟩
  | ask request _ ih => exact ih _ (listed request world) _

end Matches

end Prog

/-- An operation on a state and a space of bytes. Without an outcome it has missed a buffer. -/
def Checked (S : Signature) (σ α : Type) : Type :=
  σ → Bytes → Prog S (Option (Except Fault α × σ × Bytes))

namespace Checked

variable {S : Signature} {σ τ α β : Type}

def bind (checked : Checked S σ α) (next : α → Checked S σ β) : Checked S σ β := fun state space =>
  (checked state space).bind fun
    | none => .done none
    | some (.error fault, state, space) => .done (some (.error fault, state, space))
    | some (.ok value, state, space) => next value state space

instance : Monad (Checked S σ) where
  pure value state space := .done (some (.ok value, state, space))
  bind := bind

/-- An operation that has nothing to do with the space. -/
def lift (action : Action S σ α) : Checked S σ α := fun state space =>
  (action state).bind fun (result, state) => .done (some (result, state, space))

/-- What an access finds, unless it misses. -/
def inside (found : Option α) : Checked S σ α := fun state space =>
  .done (found.map fun value => (.ok value, state, space))

def space : Checked S σ Bytes := fun state space => .done (some (.ok space, state, space))

/-- Work in another space from now on. -/
def setSpace (space : Bytes) : Checked S σ Unit := fun state _ => .done (some (.ok (), state, space))

/-- Run an operation and go on with its outcome, whatever it is. -/
def outcome (checked : Checked S σ α) : Checked S σ (Except Fault α) := fun state space =>
  (checked state space).bind fun ended =>
    .done (ended.map fun (result, state, space) => (.ok result, state, space))

/-- End with an outcome that was kept. -/
def rethrow (result : Except Fault α) : Checked S σ α := fun state space =>
  .done (some (result, state, space))

/-- Work on a part of the state. -/
def part (read : σ → τ) (write : τ → σ → σ) (checked : Checked S τ α) : Checked S σ α :=
  fun state space => (checked (read state) space).bind fun ended =>
    .done (ended.map fun (result, changed, space) => (result, write changed state, space))

/-- Work in the first bytes of the space. -/
def front (size : Nat) (checked : Checked S σ α) : Checked S σ α := fun state space =>
  match space.part? 0 size with
  | none => .done none
  | some part => (checked state part).bind fun ended =>
    .done (ended.map fun (result, state, part) => (result, state, part ++ space.drop size))

def onHost (checked : Checked Medium σ α) : Checked Host σ α := fun state space =>
  (checked state space).interpret Host.answer

/-- Both have ended alike. -/
inductive Agreed (ok : α → β → σ → Bytes → Prop) (failed : σ → Bytes → Prop) :
    Option (Except Fault α × σ × Bytes) → Except Fault β × σ → Prop where
  | ok {value : α} {found : β} {state : σ} {space : Bytes} (holds : ok value found state space) :
      Agreed ok failed (some (.ok value, state, space)) (.ok found, state)
  | failed {fault : Fault} {state : σ} {space : Bytes} (holds : failed state space) :
      Agreed ok failed (some (.error fault, state, space)) (.error fault, state)

/-- The checked operation misses no buffer, and does what the other one does. -/
def Agrees (sound : (request : S.Request) → S.Answer request → Prop) (checked : Checked S σ α)
    (action : Action S σ β) (state : σ) (space : Bytes) (ok : α → β → σ → Bytes → Prop)
    (failed : σ → Bytes → Prop) : Prop :=
  (checked state space).Matches sound (Agreed ok failed) (action state)

namespace Agrees

variable {sound : (request : S.Request) → S.Answer request → Prop} {γ δ : Type} {state : σ}
  {space : Bytes} {failed : σ → Bytes → Prop}

theorem bind {checked : Checked S σ α} {action : Action S σ β} {next : α → Checked S σ γ}
    {other : β → Action S σ δ} {ok : γ → δ → σ → Bytes → Prop} (done : α → β → σ → Bytes → Prop)
    (first : checked.Agrees sound action state space done failed)
    (rest : ∀ value found left space, done value found left space →
      (next value).Agrees sound (other found) left space ok failed) :
    (checked >>= next).Agrees sound (action >>= other) state space ok failed := by
  apply Prog.Matches.bind first
  intro ended found agreed
  cases agreed with
  | ok holds => exact rest _ _ _ _ holds
  | failed holds => exact .done (.failed holds)

variable {checked : Checked S σ α} {action : Action S σ β} {ok : α → β → σ → Bytes → Prop}

theorem mono {ok' : α → β → σ → Bytes → Prop} {failed' : σ → Bytes → Prop}
    (agrees : checked.Agrees sound action state space ok failed)
    (succeeds : ∀ value found left space, ok value found left space → ok' value found left space)
    (fails : ∀ left space, failed left space → failed' left space) :
    checked.Agrees sound action state space ok' failed' := by
  have same : (checked state space).bind Prog.done = checked state space := Prog.bind_done _
  have alike : (action state).bind Prog.done = action state := Prog.bind_done _
  unfold Agrees
  rw [← same, ← alike]
  apply Prog.Matches.bind agrees
  intro ended found agreed
  cases agreed with
  | ok holds => exact .done (.ok (succeeds _ _ _ _ holds))
  | failed holds => exact .done (.failed (fails _ _ holds))

theorem done {value : α} {found : β} (holds : ok value found state space) :
    (pure value : Checked S σ α).Agrees sound (pure found) state space ok failed :=
  Prog.Matches.done (.ok holds)

theorem fail {fault : Fault} (holds : failed state space) :
    (lift (Action.fail fault) : Checked S σ α).Agrees sound (Action.fail fault) state space ok failed :=
  Prog.Matches.done (.failed holds)

/-- An operation on the state alone, from a state of a kind. -/
theorem lift {kind : σ → Prop} {may : S.Request → Prop} {action : Action S σ α}
    {ok : α → α → σ → Bytes → Prop} (asks : action.AsksFrom kind may) (start : kind state)
    (succeeds : ∀ value left, kind left → ok value value left space)
    (fails : ∀ left, kind left → failed left space) :
    (lift action).Agrees sound action state space ok failed := by
  have same : (action state).bind Prog.done = action state := Prog.bind_done _
  have ended : (action state).Ensures (Prog.sounding sound) may () fun ended _ => kind ended.2 :=
    (asks state start).ensures
  have matched : Prog.Matches sound (fun ended found => ended = found ∧ kind ended.2) (action state)
      (action state) := .of_ensures ended fun _ stays => ⟨rfl, stays⟩
  unfold Agrees
  rw [← same]
  apply matched.bind
  rintro ⟨fault | value, left⟩ _ ⟨rfl, stays⟩
  · exact .done (.failed (fails left stays))
  · exact .done (.ok (succeeds value left stays))

theorem lift_then {kind : σ → Prop} {may : S.Request → Prop} {action : Action S σ γ}
    {next : γ → Checked S σ α} {other : γ → Action S σ β} (asks : action.AsksFrom kind may)
    (start : kind state)
    (rest : ∀ value left, kind left → (next value).Agrees sound (other value) left space ok failed)
    (fails : ∀ left, kind left → failed left space) :
    (Checked.lift action >>= next).Agrees sound (action >>= other) state space ok failed := by
  apply bind (fun value found left spare => value = found ∧ kind left ∧ spare = space)
  · exact lift asks start (fun _ _ stays => ⟨rfl, stays, rfl⟩) fails
  · rintro value _ left _ ⟨rfl, stays, rfl⟩
    exact rest value left stays

theorem fail_then {fault : Fault} {next : γ → Checked S σ α} {other : γ → Action S σ β}
    (holds : failed state space) :
    (Checked.lift (Action.fail fault) >>= next).Agrees sound (Action.fail fault >>= other) state space
      ok failed := Prog.Matches.done (.failed holds)

theorem ite {condition : Prop} [Decidable condition] {second : Checked S σ α} {other : Action S σ β}
    (holds : condition → checked.Agrees sound action state space ok failed)
    (fails : ¬ condition → second.Agrees sound other state space ok failed) :
    Agrees sound (if condition then checked else second) (if condition then action else other) state
      space ok failed := by
  split
  · exact holds ‹_›
  · exact fails ‹_›

theorem map {first : α → γ} {second : β → δ} {ok : γ → δ → σ → Bytes → Prop}
    (agrees : checked.Agrees sound action state space (fun value found => ok (first value) (second found))
      failed) : (first <$> checked).Agrees sound (second <$> action) state space ok failed :=
  bind _ agrees fun _ _ _ _ holds => .done holds

/-- What the operation returns is put into a form of its own. -/
theorem returning {form : β → γ} {ok : α → γ → σ → Bytes → Prop}
    (agrees : checked.Agrees sound action state space (fun value found => ok value (form found)) failed) :
    checked.Agrees sound (action >>= fun found => pure (form found)) state space ok failed := by
  have same : (checked state space).bind Prog.done = checked state space := Prog.bind_done _
  unfold Agrees
  rw [← same]
  apply Prog.Matches.bind agrees
  intro ended found agreed
  cases agreed with
  | ok holds => exact .done (.ok holds)
  | failed holds => exact .done (.failed holds)

theorem get_then {next : σ → Checked S σ α} {other : σ → Action S σ β}
    (rest : (next state).Agrees sound (other state) state space ok failed) :
    (Checked.lift Action.get >>= next).Agrees sound (Action.get >>= other) state space ok failed := rest

/-- The checked operation alone looks at the state. -/
theorem look_then {next : σ → Checked S σ α}
    (rest : (next state).Agrees sound action state space ok failed) :
    (Checked.lift Action.get >>= next).Agrees sound action state space ok failed := rest

theorem modify {change : σ → σ} {ok : Unit → Unit → σ → Bytes → Prop}
    (holds : ok () () (change state) space) :
    (Checked.lift (Action.modify change)).Agrees sound (Action.modify change) state space ok failed :=
  Prog.Matches.done (.ok holds)

theorem modify_then {change : σ → σ} {next : Unit → Checked S σ α} {other : Unit → Action S σ β}
    (rest : (next ()).Agrees sound (other ()) (change state) space ok failed) :
    (Checked.lift (Action.modify change) >>= next).Agrees sound (Action.modify change >>= other) state
      space ok failed := rest

theorem ofExcept_then {result : Except Error γ} {next : γ → Checked S σ α} {other : γ → Action S σ β}
    (rest : ∀ value, (next value).Agrees sound (other value) state space ok failed)
    (fails : failed state space) :
    (Checked.lift (Action.ofExcept result) >>= next).Agrees sound (Action.ofExcept result >>= other) state
      space ok failed := by
  cases result with
  | error error => exact Prog.Matches.done (.failed fails)
  | ok value => exact rest value

theorem inside_then {result : Option γ} {value : γ} {next : γ → Checked S σ α}
    (found : result = some value) (rest : (next value).Agrees sound action state space ok failed) :
    (inside result >>= next).Agrees sound action state space ok failed := by
  cases found
  exact rest

theorem space_then {next : Bytes → Checked S σ α}
    (rest : (next space).Agrees sound action state space ok failed) :
    (Checked.space >>= next).Agrees sound action state space ok failed := rest

theorem setSpace_then {fresh : Bytes} {next : Unit → Checked S σ α}
    (rest : (next ()).Agrees sound action state fresh ok failed) :
    (setSpace fresh >>= next).Agrees sound action state space ok failed := rest

theorem outcome {ok : Except Fault α → Except Fault β → σ → Bytes → Prop}
    (agrees : checked.Agrees sound action state space (fun value found => ok (.ok value) (.ok found))
      fun left space => ∀ fault, ok (.error fault) (.error fault) left space) :
    (outcome checked).Agrees sound (Action.outcome action) state space ok failed := by
  apply Prog.Matches.bind agrees
  intro ended found agreed
  cases agreed with
  | ok holds => exact .done (.ok holds)
  | failed holds => exact .done (.ok (holds _))

theorem rethrow {result : Except Fault α} {ok : α → α → σ → Bytes → Prop}
    (succeeds : ∀ value, result = .ok value → ok value value state space)
    (fails : ∀ fault, result = .error fault → failed state space) :
    (rethrow result).Agrees sound (fun state => .done (result, state)) state space ok failed := by
  cases result with
  | error fault => exact Prog.Matches.done (.failed (fails fault rfl))
  | ok value => exact Prog.Matches.done (.ok (succeeds value rfl))

theorem part {read : σ → τ} {write : τ → σ → σ} {checked : Checked S τ α} {action : Action S τ β}
    (agrees : checked.Agrees sound action (read state) space
      (fun value found changed => ok value found (write changed state))
      fun changed => failed (write changed state)) :
    (part read write checked).Agrees sound (Action.part read write action) state space ok failed := by
  apply Prog.Matches.bind agrees
  intro ended found agreed
  cases agreed with
  | ok holds => exact .done (.ok holds)
  | failed holds => exact .done (.failed holds)

theorem front {size : Nat} (fits : size ≤ space.length)
    (agrees : checked.Agrees sound action state (space.take size)
      (fun value found left part => ok value found left (part ++ space.drop size))
      fun left part => failed left (part ++ space.drop size)) :
    (front size checked).Agrees sound action state space ok failed := by
  have same : (action state).bind Prog.done = action state := Prog.bind_done _
  unfold Agrees Checked.front
  rw [Bytes.part?_zero fits, ← same]
  apply Prog.Matches.bind agrees
  intro ended found agreed
  cases agreed with
  | ok holds => exact .done (.ok holds)
  | failed holds => exact .done (.failed holds)

end Agrees

end Checked

/-- A load of bytes moves no more of them than it was asked for, and all of them if it does not fail. -/
def Medium.Sound : (request : Medium.Request) → Medium.Answer request → Prop
  | .loadBytes _ size, transfer =>
    transfer.moved.length ≤ size ∧ (transfer.failure = none → transfer.moved.length = size)
  | _, _ => True

def Host.Sound : (request : Host.Request) → Host.Answer request → Prop
  | .medium request, answer => Medium.Sound request answer
  | _, _ => True

theorem Checked.Agrees.onHost {σ α β : Type} {checked : Checked Medium σ α} {action : Action Medium σ β}
    {state : σ} {space : Bytes} {ok : α → β → σ → Bytes → Prop} {failed : σ → Bytes → Prop}
    (agrees : checked.Agrees Medium.Sound action state space ok failed) :
    checked.onHost.Agrees Host.Sound action.onHost state space ok failed :=
  Prog.Matches.interpret (fun _ => ⟨trivial, fun _ _ given => given⟩) agrees

theorem Action.AsksFrom.onHost {σ α : Type} {kind : σ → Prop} {may : Medium.Request → Prop}
    {action : Action Medium σ α} (asks : action.AsksFrom kind may) :
    action.onHost.AsksFrom kind fun _ => True := by
  have hosted {β : Type} {program : Prog Medium β} {post : β → Prop} (asks : program.Asks may post) :
      (program.interpret Host.answer).Asks (fun _ => True) post := by
    induction program with
    | done value => exact asks
    | ask request next ih => exact ⟨trivial, fun answer _ _ => ih answer (asks.2 answer () trivial)⟩
  exact fun state start => hosted (asks state start)

/-- A part of the state is worked on through the medium. -/
theorem Checked.Agrees.part_then {σ τ α β γ δ : Type} {read : σ → τ} {write : τ → σ → σ}
    {checked : Checked Medium τ γ} {action : Action Medium τ δ} {next : γ → Checked Host σ α}
    {other : δ → Action Host σ β} {state : σ} {space : Bytes} {done : γ → δ → τ → Bytes → Prop}
    {undone : τ → Bytes → Prop} {ok : α → β → σ → Bytes → Prop} {failed : σ → Bytes → Prop}
    (agrees : checked.Agrees Medium.Sound action (read state) space done undone)
    (rest : ∀ value found changed after, done value found changed after →
      (next value).Agrees Host.Sound (other found) (write changed state) after ok failed)
    (fails : ∀ changed after, undone changed after → failed (write changed state) after) :
    (Checked.part read write checked.onHost >>= next).Agrees Host.Sound
      (Action.part read write action.onHost >>= other) state space ok failed := by
  apply bind fun value found left after => ∃ changed, left = write changed state ∧
    done value found changed after
  · apply Checked.Agrees.part
    exact agrees.onHost.mono (fun _ _ _ _ holds => ⟨_, rfl, holds⟩) fails
  · rintro value found _ after ⟨changed, rfl, holds⟩
    exact rest value found changed after holds

theorem Checked.Agrees.ask {σ : Type} {request : Host.Request} {state : σ} {space : Bytes}
    {ok : Host.Answer request → Host.Answer request → σ → Bytes → Prop} {failed : σ → Bytes → Prop}
    (asked : ∀ answer, ok answer answer state space) :
    (Checked.lift (Action.ask (Host.request request))).Agrees Host.Sound
      (Action.ask (Host.request request)) state space ok failed := by
  refine Prog.Matches.ask (S := Host) request fun answer _ => ?_
  exact Prog.Matches.done (.ok (asked answer))

/-- A collaborator is asked: it may answer anything. -/
theorem Checked.Agrees.ask_then {σ α β : Type} {request : Host.Request}
    {next : Host.Answer request → Checked Host σ α} {other : Host.Answer request → Action Host σ β}
    {state : σ} {space : Bytes} {ok : α → β → σ → Bytes → Prop} {failed : σ → Bytes → Prop}
    (rest : ∀ answer, (next answer).Agrees Host.Sound (other answer) state space ok failed) :
    (Checked.lift (Action.ask (Host.request request)) >>= next).Agrees Host.Sound
      (Action.ask (Host.request request) >>= other) state space ok failed := by
  refine Prog.Matches.ask (S := Host) request fun answer _ => ?_
  exact rest answer

/-- The other side: words that may change at will, between any two accesses and to anything, and
collaborators that answer as they like. -/
structure Peer (ω : Type) where
  words : Handler Words ω
  others : Handler Host ω

namespace Peer

variable {ω : Type} (peer : Peer ω)

def onMedium : Handler Medium ω := fun request => (Prog.request request).inWords.run peer.words

def onBus : Handler Bus ω := fun request => (Bus.inWords request).run peer.words

def onHost : Handler Host ω
  | .medium request, world => peer.onMedium request world
  | request, world => peer.others request world

end Peer

theorem length_flatMap_ofWord (words : List UInt32) :
    (words.flatMap Bytes.ofWord).length = 4 * words.length := by
  simp only [List.length_flatMap, Bytes.length_ofWord, List.map_const', List.sum_replicate_nat,
    Nat.mul_comm]

theorem Bus.Chunk.length_toBytes (chunk : Chunk) : chunk.toBytes.length = chunkBytes := by
  rw [toBytes, length_flatMap_ofWord, Vector.length_toList]
  rfl

theorem Bus.loadChunks_moves (chunks address size : Nat) :
    ((loadChunks chunks address size).interpret inWords).Asks (fun _ => True) fun transfer =>
      transfer.moved.length ≤ chunkBytes * chunks + size ∧
        (transfer.failure = none → transfer.moved.length = chunkBytes * chunks + size) := by
  induction chunks generalizing address with
  | zero =>
    simp only [loadChunks, Prog.bind_eq, Prog.interpret_bind, Words.loadEach_inWords]
    refine Prog.Asks.bind _ (Words.loadEach_asks _ fun _ => trivial) fun run all => ?_
    change ((run.moved.flatMap Bytes.ofWord).take size).length ≤ _ ∧ (run.failure = none →
      ((run.moved.flatMap Bytes.ofWord).take size).length = _)
    rw [List.length_take, length_flatMap_ofWord]
    refine ⟨by omega, fun complete => ?_⟩
    rw [all complete, Bytes.wordCount]
    omega
  | succ chunks ih =>
    simp only [loadChunks, Prog.bind_eq, Prog.interpret_bind]
    refine Prog.Asks.bind (fun _ => True) ?_ fun answer _ => ?_
    · change (((Words.loadEach Words.load address 8).bind _).bind _).Asks _ _
      rw [Prog.bind_assoc]
      exact Prog.Asks.bind _ (Words.loadEach_asks _ fun _ => trivial) fun _ _ => trivial
    · cases answer with
      | error error => exact ⟨Nat.zero_le _, fun complete => by cases complete⟩
      | ok chunk =>
        simp only [Prog.interpret_bind]
        refine Prog.Asks.bind _ (ih _) fun rest moved => ?_
        change (chunk.toBytes ++ rest.moved).length ≤ _ ∧ (rest.failure = none →
          (chunk.toBytes ++ rest.moved).length = _)
        rw [List.length_append, chunk.length_toBytes, Nat.mul_succ]
        refine ⟨by omega, fun complete => ?_⟩
        have whole := moved.2 complete
        omega

namespace Peer

variable {ω : Type} (peer : Peer ω)

/-- Whatever the words are, a load of bytes moves what it may. -/
theorem onMedium_sound (request : Medium.Request) (world : ω) :
    Medium.Sound request (peer.onMedium request world).1 := by
  cases request with
  | loadBytes address size =>
    have moves := Bus.loadChunks_moves (size / Bus.chunkBytes) address (size % Bus.chunkBytes)
    rw [Bus.chunkBytes, Nat.div_add_mod] at moves
    change Medium.Sound (.loadBytes address size)
      ((((Bus.loadChunks _ address _).bind Prog.done).interpret Bus.inWords).run _ _).1
    rw [Prog.bind_done]
    exact Prog.Ensures.run peer.words (fun _ => ()) (fun _ _ => trivial) world moves
  | load address => trivial
  | store address word => trivial
  | storeBytes address bytes => trivial

theorem onHost_sound (request : Host.Request) (world : ω) :
    Host.Sound request (peer.onHost request world).1 := by
  cases request with
  | medium request => exact peer.onMedium_sound request world
  | _ => trivial

end Peer

end NodeLink

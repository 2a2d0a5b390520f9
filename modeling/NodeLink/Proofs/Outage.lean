import NodeLink.Proofs.MediumAccess

/-! Accesses over the bus that fail. A word access that fails is not made, and a chunk that fails may
have stored any of its words. An operation that ends at the first failed access leaves what it ensures
up to there, but for the words that its last chunk spilled. -/
namespace NodeLink

/-- Which answers tell that a request failed, and what it may have stored all the same. -/
structure Signature.Failing (S : Signature) where
  failed : (request : S.Request) → S.Answer request → Prop
  spills : S.Request → Nat → Prop

namespace Prog

variable {S T : Signature} {α β : Type} {failing : S.Failing} {within : T.Failing}
  {bytes wider : Nat → Prop} {lost : α → Prop} {gone : β → Prop}

/-- A program ends with the first request that fails, and in a value that says so. -/
def Quits (failing : S.Failing) (bytes : Nat → Prop) (lost : α → Prop) : Prog S α → Prop
  | done _ => True
  | ask request next => (∀ address, failing.spills request address → bytes address) ∧
    ∀ answer, (failing.failed request answer → ∃ value, next answer = done value ∧ lost value) ∧
      (¬ failing.failed request answer → (next answer).Quits failing bytes lost)

theorem Quits.mono {program : Prog S α} (quits : program.Quits failing bytes lost)
    (implies : ∀ address, bytes address → wider address) : program.Quits failing wider lost := by
  induction program with
  | done value => trivial
  | ask request next ih =>
    obtain ⟨spills, goes⟩ := quits
    constructor
    · intro address spilled
      exact implies address (spills address spilled)
    · intro answer
      exact ⟨(goes answer).1, fun made => ih answer ((goes answer).2 made)⟩

theorem Quits.bind {program : Prog S α} {next : α → Prog S β}
    (quits : program.Quits failing bytes lost) (rest : ∀ value, (next value).Quits failing bytes gone)
    (ends : ∀ value, lost value → ∃ last, next value = done last ∧ gone last) :
    (program.bind next).Quits failing bytes gone := by
  induction program with
  | done value => exact rest value
  | ask request more ih =>
    obtain ⟨spills, goes⟩ := quits
    refine ⟨spills, fun answer => ⟨fun failed => ?_, fun made => ih answer ((goes answer).2 made)⟩⟩
    obtain ⟨value, same, gave⟩ := (goes answer).1 failed
    change ∃ last, (more answer).bind next = done last ∧ gone last
    rw [same]
    exact ends value gave

/-- A program that quits does so over requests of another kind, if each of its own quits. -/
theorem Quits.interpret {program : Prog S α} (quits : program.Quits failing bytes lost)
    {answer : (request : S.Request) → Prog T (S.Answer request)}
    (answers : ∀ request,
      (answer request).Quits within (failing.spills request) (failing.failed request)) :
    (program.interpret answer).Quits within bytes lost := by
  induction program with
  | done value => trivial
  | ask request next ih =>
    obtain ⟨spills, goes⟩ := quits
    apply ((answers request).mono spills).bind
    · intro value
      by_cases failed : failing.failed request value
      · obtain ⟨last, same, -⟩ := (goes value).1 failed
        rw [same]
        trivial
      · exact ih value ((goes value).2 failed)
    · intro value failed
      obtain ⟨last, same, gave⟩ := (goes value).1 failed
      exact ⟨last, by rw [same]; rfl, gave⟩

end Prog

namespace Bus

/-- What a request answers that failed. -/
def Request.failed : (request : Request) → Bus.Answer request
  | .load _ => .error .medium
  | .store _ _ => .error .medium
  | .loadChunk _ => .error .medium
  | .storeChunk _ _ => .error .medium

/-- The addresses that a request may have stored to although it failed. -/
def Request.Spills : Request → Nat → Prop
  | .storeChunk address _, other => Within address chunkWords other
  | _, _ => False

def failing : Signature.Failing Bus := ⟨fun request answer => answer = request.failed, Request.Spills⟩

/-- Which accesses of an operation fail, counted from its first, and which words of its chunk each of
them has stored. -/
structure Outage where
  fails : Nat → Bool
  stores : Nat → Nat → Bool

namespace Outage

/-- No access fails. -/
def none : Outage := ⟨fun _ => false, fun _ _ => false⟩

/-- Store chosen ones of the words from an address on. -/
def storeSome (stores : Nat → Bool) (memory : SharedMemory) (address : Nat) :
    (index : Nat) → List UInt32 → SharedMemory
  | _, [] => memory
  | index, word :: rest =>
    storeSome stores (if stores index then (memory.store address word).2 else memory) (address + 4)
      (index + 1) rest

/-- The memory after an access that failed. -/
def spill (stores : Nat → Bool) (memory : SharedMemory) : Request → SharedMemory
  | .storeChunk address chunk => storeSome stores memory address 0 chunk.toList
  | _ => memory

def onBus (outage : Outage) : Handler Bus (SharedMemory × Nat)
  | request, (memory, count) =>
    if outage.fails count then (request.failed, spill (outage.stores count) memory request, count + 1)
    else
      let (answer, memory) := SharedMemory.onBus request memory
      (answer, memory, count + 1)

/-- An access between these two fails. -/
def Hits (outage : Outage) (first last : Nat) : Prop :=
  ∃ count, first ≤ count ∧ count < last ∧ outage.fails count = true

theorem none_not_hits {first last : Nat} : ¬ none.Hits first last := by
  rintro ⟨_, -, -, fails⟩
  cases fails

theorem storeSome_same {stores : Nat → Bool} {memory : SharedMemory} {address index : Nat}
    (words : List UInt32) : SharedMemory.SameOutside (Within address words.length) memory
      (storeSome stores memory address index words) := by
  induction words generalizing memory address index with
  | nil => exact .refl _ _
  | cons word rest ih =>
    have first : SharedMemory.SameOutside (Within address (word :: rest).length) memory
        (if stores index then (memory.store address word).2 else memory) := by
      split
      · constructor
        · intro other
          exact SharedMemory.mapped_store
        · intro other outside
          apply SharedMemory.load_store_of_ne
          rintro rfl
          simp [Within] at outside
      · exact .refl _ _
    apply first.trans
    apply ih.mono
    intro other inside
    simp only [Within, List.length_cons] at inside ⊢
    omega

theorem spill_same {stores : Nat → Bool} {memory : SharedMemory} (request : Request) :
    SharedMemory.SameOutside request.Spills memory (spill stores memory request) := by
  cases request with
  | storeChunk address chunk =>
    have words : SharedMemory.SameOutside (Within address chunk.toList.length) memory
        (storeSome stores memory address 0 chunk.toList) := storeSome_same chunk.toList
    rw [Vector.length_toList] at words
    exact words
  | _ => exact .refl _ _

section Run

variable {α : Type} {outage : Outage} {memory : SharedMemory} {first : Nat} {bytes : Nat → Prop}
  {lost : α → Prop} {calm broken : α → SharedMemory → Prop} {may : Words.Request → Prop}

/-- How a run over the bus ends: no access failed, or one did. -/
def Ends (outage : Outage) (program : Prog Bus α) (memory : SharedMemory) (first : Nat)
    (calm broken : α → SharedMemory → Prop) : Prop :=
  let (value, after, last) := program.run outage.onBus (memory, first)
  first ≤ last ∧ (¬ outage.Hits first last ∧ calm value after ∨
    outage.Hits first last ∧ broken value after)

theorem ends_done {value : α} (ended : calm value memory) :
    outage.Ends (.done value) memory first calm broken := by
  refine ⟨Nat.le_refl _, .inl ⟨?_, ended⟩⟩
  rintro ⟨count, above, below, -⟩
  omega

/-- An access is made or fails. -/
theorem ends_ask {request : Request} {next : Bus.Answer request → Prog Bus α}
    (made : outage.Ends (next (SharedMemory.onBus request memory).1)
      (SharedMemory.onBus request memory).2 (first + 1) calm broken)
    (lapsed : ∃ value, next request.failed = .done value ∧
      ∀ stores, broken value (spill stores memory request)) :
    outage.Ends (.ask request next) memory first calm broken := by
  unfold Ends
  rw [Prog.run_ask]
  by_cases fails : outage.fails first = true
  · obtain ⟨value, same, broke⟩ := lapsed
    simp only [onBus, if_pos fails, same, Prog.run_done]
    exact ⟨Nat.le_succ _, .inr ⟨⟨first, Nat.le_refl _, Nat.lt_succ_self _, fails⟩, broke _⟩⟩
  · simp only [onBus, if_neg fails]
    obtain ⟨later, ended⟩ := made
    have hits (last : Nat) : outage.Hits first last ↔ outage.Hits (first + 1) last := by
      constructor
      · rintro ⟨count, above, below, failed⟩
        have apart : first ≠ count := fun same => fails (same ▸ failed)
        exact ⟨count, by omega, below, failed⟩
      · rintro ⟨count, above, below, failed⟩
        exact ⟨count, by omega, below, failed⟩
    refine ⟨Nat.le_of_succ_le later, ?_⟩
    rw [hits]
    exact ended

/-- A request may fail with its first word. -/
theorem ensures_failed {request : Request} {next : Bus.Answer request → Prog Words α}
    {post : α → SharedMemory → Prop} (holds : ((Bus.inWords request).bind next).Ensures
      (SharedMemory.Answers True) may memory post) :
    (next request.failed).Ensures (SharedMemory.Answers True) may memory post := by
  cases request with
  | load address => exact holds.2 (.error .medium) memory ⟨.inr ⟨trivial, rfl⟩, rfl⟩
  | store address word => exact holds.2 (.error .medium) memory (.inr ⟨trivial, rfl, rfl⟩)
  | loadChunk address => exact holds.2 (.error .medium) memory ⟨.inr ⟨trivial, rfl⟩, rfl⟩
  | storeChunk address chunk =>
    obtain ⟨word, rest, words⟩ : ∃ word rest, chunk.toList = word :: rest := by
      have eight : chunk.toList.length = 8 := Vector.length_toList
      cases same : chunk.toList with
      | nil =>
        rw [same] at eight
        contradiction
      | cons word rest => exact ⟨word, rest, rfl⟩
    change ((Words.storeEach Words.store address chunk.toList).bind next).Ensures _ _ _ _ at holds
    rw [words] at holds
    exact holds.2 (.error .medium) memory (.inr ⟨trivial, rfl, rfl⟩)

/-- A program that quits ends as it ensures, but for what its last access spilled. -/
theorem ends_of_quits {program : Prog Bus α} {post : Prop → α → SharedMemory → Prop}
    (quits : program.Quits failing bytes lost)
    (holds : ∀ faults, (program.interpret Bus.inWords).Ensures (SharedMemory.Answers faults) may
      memory (post faults)) :
    outage.Ends program memory first (post False) fun value after =>
      lost value ∧ ∃ last, post True value last ∧ SharedMemory.SameOutside bytes last after := by
  induction program generalizing memory first with
  | done value => exact ends_done (holds False)
  | ask request next ih =>
    obtain ⟨spills, goes⟩ := quits
    have onwards (faults : Prop) :
        ((next (SharedMemory.onBus request memory).1).interpret Bus.inWords).Ensures
          (SharedMemory.Answers faults) may (SharedMemory.onBus request memory).2 (post faults) :=
      ((Prog.ensures_bind _ _ _).mp (holds faults)).run SharedMemory.onWords (fun memory => memory)
        (SharedMemory.answers_onWords faults) memory
    apply ends_ask
    · by_cases failed : (SharedMemory.onBus request memory).1 = request.failed
      · obtain ⟨value, same, -⟩ := (goes _).1 failed
        rw [same] at onwards ⊢
        exact ends_done (onwards False)
      · exact ih _ ((goes _).2 failed) onwards
    · obtain ⟨value, same, gave⟩ := (goes request.failed).1 rfl
      have broke := ensures_failed (holds True)
      rw [same] at broke
      exact ⟨value, same, fun stores => ⟨gave, memory, broke, (spill_same request).mono spills⟩⟩

theorem Ends.mono {program : Prog Bus α} {calm' broken' : α → SharedMemory → Prop}
    (ends : outage.Ends program memory first calm broken)
    (whole : ∀ value after, calm value after → calm' value after)
    (part : ∀ value after, broken value after → broken' value after) :
    outage.Ends program memory first calm' broken' := by
  obtain ⟨later, ended⟩ := ends
  refine ⟨later, ended.imp ?_ ?_⟩
  · rintro ⟨calm, made⟩
    exact ⟨calm, whole _ _ made⟩
  · rintro ⟨hit, broke⟩
    exact ⟨hit, part _ _ broke⟩

end Run

end Outage

end Bus

/-- The answers of the medium that tell of a failure, and what a failed transfer may have stored. -/
def Medium.failing : Signature.Failing Medium where
  failed
    | .load _, answer => answer = .error .medium
    | .store _ _, answer => answer = .error .medium
    | .loadBytes _ _, transfer => transfer.failure = some .medium
    | .storeBytes _ _, answer => answer = .error .medium
  spills
    | .storeBytes address bytes, other => Within address bytes.words.length other
    | _, _ => False

namespace Bus

variable {spilled : Nat → Prop}

theorem storeEach_quits (address : Nat) (words : List UInt32) :
    (Words.storeEach store address words).Quits failing spilled (· = .error .medium) := by
  induction words generalizing address with
  | nil => trivial
  | cons word rest ih =>
    refine ⟨fun _ => False.elim, fun answer => ⟨?_, fun _ => ?_⟩⟩
    · rintro rfl
      exact ⟨_, rfl, rfl⟩
    · cases answer with
      | error error => trivial
      | ok done => exact ih (address + 4)

theorem loadEach_quits (address count : Nat) :
    (Words.loadEach load address count).Quits failing spilled (·.failure = some .medium) := by
  induction count generalizing address with
  | zero => trivial
  | succ count ih =>
    refine ⟨fun _ => False.elim, fun answer => ⟨?_, fun _ => ?_⟩⟩
    · rintro rfl
      exact ⟨_, rfl, rfl⟩
    · cases answer with
      | error error => trivial
      | ok word =>
        apply (ih (address + 4)).bind
        · intro run
          trivial
        · intro run failed
          exact ⟨_, rfl, failed⟩

theorem storeChunks_quits (chunks address : Nat) (bytes : Bytes)
    (enough : chunkBytes * chunks ≤ bytes.length) :
    (storeChunks chunks address bytes).Quits failing (Within address bytes.words.length)
      (· = .error .medium) := by
  induction chunks generalizing address bytes with
  | zero => exact storeEach_quits address bytes.words
  | succ chunks ih =>
    simp only [chunkBytes] at enough
    have words : bytes.words.length = (bytes.length + 3) / 4 := Bytes.length_words bytes
    refine ⟨fun other inside => ?_, fun answer => ⟨?_, fun _ => ?_⟩⟩
    · have chunk : Within address chunkWords other := inside
      simp only [Within, chunkWords] at chunk ⊢
      omega
    · rintro rfl
      exact ⟨_, rfl, rfl⟩
    · cases answer with
      | error error => trivial
      | ok done =>
        have left : (bytes.drop chunkBytes).length = bytes.length - 32 := List.length_drop
        have still : chunkBytes * chunks ≤ (bytes.drop chunkBytes).length := by
          rw [left, chunkBytes]
          omega
        apply (ih (address + chunkBytes) (bytes.drop chunkBytes) still).mono
        rintro other ⟨above, below⟩
        have rest : (Bytes.words (bytes.drop chunkBytes)).length = (bytes.length - 32 + 3) / 4 := by
          rw [Bytes.length_words, left, Bytes.wordCount]
        rw [rest] at below
        simp only [Within, chunkBytes] at above below ⊢
        omega

theorem loadChunks_quits (chunks address size : Nat) :
    (loadChunks chunks address size).Quits failing spilled (·.failure = some .medium) := by
  induction chunks generalizing address with
  | zero =>
    apply (loadEach_quits address (Bytes.wordCount size)).bind
    · intro run
      trivial
    · intro run failed
      exact ⟨_, rfl, failed⟩
  | succ chunks ih =>
    refine ⟨fun _ => False.elim, fun answer => ⟨?_, fun _ => ?_⟩⟩
    · rintro rfl
      exact ⟨_, rfl, rfl⟩
    · cases answer with
      | error error => trivial
      | ok chunk =>
        apply (ih (address + chunkBytes)).bind
        · intro rest
          trivial
        · intro rest failed
          exact ⟨_, rfl, failed⟩

/-- The bus gives a transfer up with the first access that fails. -/
theorem answer_quits (request : Medium.Request) : (answer request).Quits failing
    (Medium.failing.spills request) (Medium.failing.failed request) := by
  cases request with
  | load address =>
    refine ⟨fun _ => False.elim, fun answer => ⟨?_, fun _ => trivial⟩⟩
    rintro rfl
    exact ⟨_, rfl, rfl⟩
  | store address word =>
    refine ⟨fun _ => False.elim, fun answer => ⟨?_, fun _ => trivial⟩⟩
    rintro rfl
    exact ⟨_, rfl, rfl⟩
  | loadBytes address size => exact loadChunks_quits _ address _
  | storeBytes address bytes => exact storeChunks_quits _ address bytes (Nat.mul_div_le _ _)

end Bus

end NodeLink

import NodeLink.Medium
import NodeLink.Proofs.Memory
import NodeLink.Proofs.Packing

/-! Operations on the medium in single word accesses, and what each access to the shared memory ensures.
Stored bytes leave their words, loaded bytes are the packed ones; an access of several words that fails
has changed no word outside its range. -/
namespace NodeLink

namespace Prog

variable {α β : Type}

/-- The accesses that the bus makes for a program, word by word. -/
def inWords (program : Prog Medium α) : Prog Words α :=
  (program.interpret Bus.answer).interpret Bus.inWords

theorem inWords_bind (program : Prog Medium α) (next : α → Prog Medium β) :
    (program.bind next).inWords = program.inWords.bind fun value => (next value).inWords := by
  simp only [inWords, interpret_bind]

end Prog

namespace Words

theorem storeEach_inWords (address : Nat) (words : List UInt32) :
    (storeEach Bus.store address words).interpret Bus.inWords =
      storeEach Words.store address words := by
  induction words generalizing address with
  | nil => rfl
  | cons word rest ih =>
    simp only [storeEach, Prog.bind_eq, Prog.interpret_bind]
    congr 1
    funext answer
    cases answer with
    | error error => rfl
    | ok done => exact ih (address + 4)

theorem loadEach_inWords (address count : Nat) :
    (loadEach Bus.load address count).interpret Bus.inWords =
      loadEach Words.load address count := by
  induction count generalizing address with
  | zero => rfl
  | succ count ih =>
    simp only [loadEach, Prog.bind_eq, Prog.interpret_bind]
    congr 1
    funext answer
    cases answer with
    | error error => rfl
    | ok word => simp only [Prog.interpret_bind, ih]; rfl

theorem storeEach_append {S : Signature} (store : Nat → UInt32 → Prog S (Except Error Unit))
    (address : Nat) (first second : List UInt32) :
    storeEach store address (first ++ second) =
      (storeEach store address first).bind fun
        | .error error => .done (.error error)
        | .ok () => storeEach store (address + 4 * first.length) second := by
  induction first generalizing address with
  | nil => rfl
  | cons word rest ih =>
    simp only [List.cons_append, storeEach, Prog.bind_eq, Prog.bind_assoc]
    congr 1
    funext answer
    cases answer with
    | error error => rfl
    | ok done =>
      have shifted : address + 4 + 4 * rest.length = address + 4 * (word :: rest).length := by
        simp only [List.length_cons]
        omega
      simp only [ih, shifted]

end Words

namespace Bus

/-- Chunks make no difference to what is stored, nor to the order. -/
theorem storeChunks_inWords (chunks address : Nat) (bytes : Bytes)
    (enough : chunkBytes * chunks ≤ bytes.length) :
    (storeChunks chunks address bytes).interpret inWords =
      Words.storeEach Words.store address bytes.words := by
  induction chunks generalizing address bytes with
  | zero => exact Words.storeEach_inWords address bytes.words
  | succ chunks ih =>
    have long : chunkBytes ≤ bytes.length := by
      simp only [chunkBytes] at enough ⊢
      omega
    have size : (bytes.take chunkBytes).length = 32 := by
      rw [List.length_take, Nat.min_eq_left long, chunkBytes]
    have eight : (Bytes.words (bytes.take chunkBytes)).length = 8 := by
      rw [Bytes.length_words, size]
      rfl
    have split : bytes.words =
        Bytes.words (bytes.take chunkBytes) ++ Bytes.words (bytes.drop chunkBytes) := by
      rw [← Bytes.words_append _ _ (by rw [size]), List.take_append_drop]
    have rest := ih (address + chunkBytes) (bytes.drop chunkBytes) (by
      simp only [List.length_drop, chunkBytes] at enough ⊢
      omega)
    rw [split, Words.storeEach_append, eight]
    simp only [storeChunks, Prog.bind_eq, Prog.interpret_bind]
    have first : (storeChunk address (Chunk.ofWords (Bytes.words (bytes.take chunkBytes)))).interpret
        inWords = Words.storeEach Words.store address (Bytes.words (bytes.take chunkBytes)) := by
      change (Words.storeEach Words.store address (Chunk.ofWords _).toList).bind Prog.done = _
      rw [Prog.bind_done, Chunk.toList_ofWords _ eight]
    rw [first]
    congr 1
    funext answer
    cases answer with
    | error error => rfl
    | ok done => exact rest

end Bus

theorem Medium.storeBytes_inWords (address : Nat) (bytes : Bytes) :
    (Medium.storeBytes address bytes).inWords =
      Words.storeEach Words.store address bytes.words := by
  have enough : Bus.chunkBytes * (bytes.length / Bus.chunkBytes) ≤ bytes.length :=
    Nat.mul_div_le _ _
  change ((Bus.storeChunks _ address bytes).bind Prog.done).interpret Bus.inWords = _
  rw [Prog.bind_done, Bus.storeChunks_inWords _ _ _ enough]

section Ranges

variable {faults : Prop} {may : Words.Request → Prop} {memory : SharedMemory} {address : Nat}

/-- The bytes of words from an address on. -/
def Within (address count other : Nat) : Prop := address ≤ other ∧ other < address + 4 * count

theorem ensures_storeEach (words : List UInt32)
    (permitted : ∀ other word, Within address words.length other → may (.store other word))
    (mapped : ∀ index < words.length, memory.Mapped (address + 4 * index)) :
    (Words.storeEach Words.store address words).Ensures (SharedMemory.Answers faults) may memory
      fun answer after =>
        SharedMemory.SameOutside (Within address words.length) memory after ∧
          (answer = .ok () ∧ after.HasWords address words ∨
            faults ∧ answer = .error .medium) := by
  induction words generalizing address memory with
  | nil => exact ⟨.refl _ _, .inl ⟨rfl, trivial⟩⟩
  | cons word rest ih =>
    have here : Within address (word :: rest).length address := by
      simp only [Within, List.length_cons]
      omega
    have wider (other : Nat) (later : Within (address + 4) rest.length other) :
        Within address (word :: rest).length other := by
      simp only [Within, List.length_cons] at later ⊢
      omega
    have first : memory.Mapped address := mapped 0 (Nat.zero_lt_succ _)
    refine ⟨permitted _ _ here, ?_⟩
    intro answer after given
    have same := given.store_same
    rcases given.store_cases first with ⟨rfl, stored⟩ | ⟨allowed, rfl, rfl⟩
    · have behind (index : Nat) (inside : index < rest.length) :
          after.Mapped (address + 4 + 4 * index) := by
        have shifted : address + 4 + 4 * index = address + 4 * (index + 1) := by omega
        rw [shifted]
        exact (same.1 _).mpr (mapped _ (Nat.succ_lt_succ inside))
      have start : SharedMemory.SameOutside (Within address (word :: rest).length) memory after :=
        same.mono fun _ equal => equal ▸ here
      apply (ih (fun other word later => permitted other word (wider other later)) behind).mono
        (fun _ => id)
      rintro answer final ⟨later, finished⟩
      refine ⟨start.trans (later.mono wider), finished.imp_left fun ⟨done, has⟩ => ⟨done, ?_, has⟩⟩
      exact (later.2 address (by simp only [Within]; omega)).trans stored
    · exact ⟨.refl _ _, .inr ⟨allowed, rfl⟩⟩

theorem ensures_loadEach (words : List UInt32)
    (permitted : ∀ other, Within address words.length other → may (.load other))
    (has : memory.HasWords address words) :
    (Words.loadEach Words.load address words.length).Ensures (SharedMemory.Answers faults) may memory
      fun run after => after = memory ∧
        (run = ⟨words, none⟩ ∨ faults ∧ run.failure = some .medium) := by
  induction words generalizing address with
  | nil => exact ⟨rfl, .inl rfl⟩
  | cons word rest ih =>
    have wider (other : Nat) (later : Within (address + 4) rest.length other) :
        Within address (word :: rest).length other := by
      simp only [Within, List.length_cons] at later ⊢
      omega
    refine ⟨permitted _ (by simp only [Within, List.length_cons]; omega), ?_⟩
    rintro answer after ⟨rfl | ⟨allowed, rfl⟩, rfl⟩
    · rw [has.1]
      change ((Words.loadEach Words.load (address + 4) rest.length).bind _).Ensures _ _ _ _
      refine (Prog.ensures_bind _ _ _).mpr
        ((ih (fun other later => permitted other (wider other later)) has.2).mono (fun _ => id) ?_)
      rintro run after ⟨rfl, rfl | lost⟩
      · exact ⟨rfl, .inl rfl⟩
      · exact ⟨rfl, .inr lost⟩
    · exact ⟨rfl, .inr ⟨allowed, rfl⟩⟩

theorem ensures_loadChunk (words : List UInt32) (eight : words.length = 8)
    (permitted : ∀ other, Within address words.length other → may (.load other))
    (has : memory.HasWords address words) :
    ((Bus.loadChunk address).interpret Bus.inWords).Ensures (SharedMemory.Answers faults) may memory
      fun answer after => after = memory ∧
        (answer = .ok (Bus.Chunk.ofWords words) ∨ faults ∧ answer = .error .medium) := by
  change (((Words.loadEach Words.load address 8).bind _).bind _).Ensures _ _ _ _
  rw [Prog.bind_assoc, ← eight]
  refine (Prog.ensures_bind _ _ _).mpr ((ensures_loadEach words permitted has).mono (fun _ => id) ?_)
  rintro ⟨moved, failure⟩ after ⟨rfl, whole | ⟨allowed, lost⟩⟩
  · cases whole
    exact ⟨rfl, .inl rfl⟩
  · cases lost
    exact ⟨rfl, .inr ⟨allowed, rfl⟩⟩

theorem ensures_loadChunks (chunks size : Nat) (payload : Bytes)
    (long : payload.length = Bus.chunkBytes * chunks + size)
    (permitted : ∀ other, Within address payload.words.length other → may (.load other))
    (has : memory.HasWords address payload.words) :
    ((Bus.loadChunks chunks address size).interpret Bus.inWords).Ensures
      (SharedMemory.Answers faults) may memory fun transfer after => after = memory ∧
        (transfer = ⟨payload, none⟩ ∨ faults ∧ transfer.failure = some .medium) := by
  induction chunks generalizing address payload with
  | zero =>
    have all : payload.length = size := by rw [long, Nat.mul_zero, Nat.zero_add]
    have count : Bytes.wordCount size = payload.words.length := by
      rw [Bytes.length_words, all]
    simp only [Bus.loadChunks, Prog.bind_eq, Prog.interpret_bind, Words.loadEach_inWords, count]
    refine (Prog.ensures_bind _ _ _).mpr
      ((ensures_loadEach payload.words permitted has).mono (fun _ => id) ?_)
    rintro run after ⟨rfl, rfl | lost⟩
    · refine ⟨rfl, .inl ?_⟩
      rw [Transfer.ofWords, ← all, Bytes.take_flatMap_words]
    · exact ⟨rfl, .inr lost⟩
  | succ chunks ih =>
    have taken : (payload.take Bus.chunkBytes).length = 32 := by
      rw [List.length_take, long, Bus.chunkBytes]
      omega
    have eight : (Bytes.words (payload.take Bus.chunkBytes)).length = 8 := by
      rw [Bytes.length_words, taken]
      rfl
    have split : payload.words =
        Bytes.words (payload.take Bus.chunkBytes) ++ Bytes.words (payload.drop Bus.chunkBytes) := by
      rw [← Bytes.words_append _ _ (by rw [taken]), List.take_append_drop]
    have counts := congrArg List.length split
    rw [List.length_append, eight] at counts
    rw [split, SharedMemory.hasWords_append, eight] at has
    have inChunk (other : Nat)
        (inside : Within address (Bytes.words (payload.take Bus.chunkBytes)).length other) :
        may (.load other) :=
      permitted other (by simp only [Within, eight] at inside ⊢; omega)
    have inRest (other : Nat) (inside : Within (address + Bus.chunkBytes)
        (Bytes.words (payload.drop Bus.chunkBytes)).length other) : may (.load other) :=
      permitted other (by simp only [Within, Bus.chunkBytes] at inside counts ⊢; omega)
    have left : (payload.drop Bus.chunkBytes).length = Bus.chunkBytes * chunks + size := by
      rw [List.length_drop, long, Nat.mul_succ]
      omega
    have unpacked : (Bus.Chunk.ofWords (Bytes.words (payload.take Bus.chunkBytes))).toBytes =
        payload.take Bus.chunkBytes := by
      rw [Bus.Chunk.toBytes, Bus.Chunk.toList_ofWords _ eight, Bytes.flatMap_words _ (by rw [taken])]
    simp only [Bus.loadChunks, Prog.bind_eq, Prog.interpret_bind]
    refine (Prog.ensures_bind _ _ _).mpr
      ((ensures_loadChunk _ eight inChunk has.1).mono (fun _ => id) ?_)
    rintro answer after ⟨rfl, rfl | ⟨allowed, rfl⟩⟩
    · simp only [Prog.interpret_bind]
      refine (Prog.ensures_bind _ _ _).mpr ((ih _ left inRest has.2).mono (fun _ => id) ?_)
      rintro rest after ⟨rfl, rfl | lost⟩
      · refine ⟨rfl, .inl ?_⟩
        simp only [unpacked, List.take_append_drop]
      · exact ⟨rfl, .inr lost⟩
    · exact ⟨rfl, .inr ⟨allowed, rfl⟩⟩

theorem ensures_loadBytes (payload : Bytes)
    (permitted : ∀ other, Within address payload.words.length other → may (.load other))
    (has : memory.HasWords address payload.words) :
    (Medium.loadBytes address payload.length).inWords.Ensures (SharedMemory.Answers faults) may
      memory fun transfer after => after = memory ∧
        (transfer = ⟨payload, none⟩ ∨ faults ∧ transfer.failure = some .medium) := by
  change ((Bus.loadChunks _ address _).bind Prog.done).interpret Bus.inWords |>.Ensures _ _ _ _
  rw [Prog.bind_done]
  exact ensures_loadChunks _ _ payload (Nat.div_add_mod _ _).symm permitted has

end Ranges

end NodeLink

import NodeLink.Link
import NodeLink.Proofs.Footprint

/-! The link and the bus make the same word accesses. They differ in what a failed load of bytes has
moved by then: the bus hands on no word of a chunk that fails. -/
namespace NodeLink

/-- A transfer without what it moved before it failed. -/
def Transfer.told (transfer : Transfer) : Transfer :=
  match transfer.failure with
  | none => transfer
  | some error => ⟨[], some error⟩

namespace Transfer

variable {first second : Transfer}

@[simp] theorem told_failure (transfer : Transfer) : transfer.told.failure = transfer.failure := by
  obtain ⟨moved, failure | error⟩ := transfer <;> rfl

theorem eq_of_told_eq (same : first.told = second.told) (complete : first.failure = none) :
    first = second := by
  have also : second.failure = none := by rw [← told_failure, ← same, told_failure, complete]
  obtain ⟨moved, failure⟩ := first
  obtain ⟨moved', failure'⟩ := second
  cases complete
  cases also
  exact same

/-- Bytes that were moved before. -/
def behind (before : Bytes) (transfer : Transfer) : Transfer :=
  { transfer with moved := before ++ transfer.moved }

theorem told_behind (before : Bytes) (transfer : Transfer) :
    (transfer.told.behind before).told = (transfer.behind before).told := by
  obtain ⟨moved, failure | error⟩ := transfer <;> rfl

/-- The words moved first fill their bytes. -/
theorem ofWords_append {words : List UInt32} {size : Nat} (run : WordRun) :
    ofWords (4 * words.length + size) ⟨words ++ run.moved, run.failure⟩ =
      (ofWords size run).behind (words.flatMap Bytes.ofWord) := by
  have length : (words.flatMap Bytes.ofWord).length = 4 * words.length := by
    simp only [List.length_flatMap, Bytes.length_ofWord, List.map_const',
      List.sum_replicate_nat, Nat.mul_comm]
  simp only [ofWords, behind, List.flatMap_append]
  rw [← length, List.take_length_add_append]

end Transfer

namespace Words

variable {S : Signature}

theorem loadEach_add (load : Nat → Prog S (Except Error UInt32)) (address first second : Nat) :
    loadEach load address (first + second) = (loadEach load address first).bind fun run =>
      match run.failure with
      | some error => .done ⟨run.moved, some error⟩
      | none => (loadEach load (address + 4 * first) second).bind fun rest =>
        .done ⟨run.moved ++ rest.moved, rest.failure⟩ := by
  induction first generalizing address with
  | zero =>
    rw [Nat.zero_add, Nat.mul_zero, Nat.add_zero]
    exact (Prog.bind_done _).symm
  | succ first ih =>
    rw [Nat.succ_add]
    simp only [loadEach, Prog.bind_eq, Prog.bind_assoc]
    congr 1
    funext answer
    cases answer with
    | error error => rfl
    | ok word =>
      have shifted : address + 4 + 4 * first = address + 4 * (first + 1) := by omega
      simp only [ih, Prog.bind_assoc, shifted]
      congr 1
      funext run
      obtain ⟨moved, failure⟩ := run
      cases failure with
      | some error => rfl
      | none => simp only [Prog.bind_assoc]; rfl

end Words

namespace Link

theorem storeEach_one (address : Nat) (word : UInt32) :
    Words.storeEach Words.store address [word] = Words.store address word := by
  change Prog.ask _ _ = Prog.ask _ _
  congr 1
  funext answer
  rcases answer with error | ⟨⟩ <;> rfl

theorem storeWord_inWords (address : Nat) (word : UInt32) :
    (storeWord address word).interpret inWords = Words.store address word := by
  have packed : (Bytes.ofWord word).words = [word] := by
    exact congrArg (fun word => [word]) (Bytes.toWord_ofWord word)
  change (Words.storeEach Words.store address (Bytes.ofWord word).words).bind Prog.done = _
  rw [packed, Prog.bind_done, storeEach_one]

theorem fetchWord_inWords (address : Nat) :
    (fetchWord address).interpret inWords = Words.load address := by
  change Prog.ask _ _ = Prog.ask _ _
  congr 1
  funext answer
  cases answer with
  | error error => rfl
  | ok word =>
    exact congrArg (fun word => Prog.done (Except.ok word)) (Bytes.toWord_ofWord word)

theorem store_inWords (address : Nat) (bytes : Bytes) :
    (store address bytes).interpret inWords = Words.storeEach Words.store address bytes.words :=
  Prog.bind_done _

end Link

theorem Bus.Chunk.toBytes_ofWords {words : List UInt32} (full : words.length = 8) :
    (Chunk.ofWords words).toBytes = words.flatMap Bytes.ofWord := by
  rw [toBytes, toList_ofWords words full]

theorem Bus.wordCount_chunk (chunks size : Nat) :
    Bytes.wordCount (chunkBytes * (chunks + 1) + size) =
      8 + Bytes.wordCount (chunkBytes * chunks + size) := by
  simp only [Bytes.wordCount, chunkBytes]
  omega

/-- Bytes in one transfer and bytes in chunks come from the same accesses. -/
theorem Bus.loadChunks_told (chunks address size : Nat) :
    (((loadChunks chunks address size).interpret inWords).bind fun transfer => .done transfer.told) =
      (Words.loadEach Words.load address (Bytes.wordCount (chunkBytes * chunks + size))).bind
        fun run => .done (Transfer.ofWords (chunkBytes * chunks + size) run).told := by
  induction chunks generalizing address with
  | zero =>
    simp only [loadChunks, Prog.bind_eq, Prog.interpret_bind, Words.loadEach_inWords,
      Nat.mul_zero, Nat.zero_add, Prog.bind_assoc]
    rfl
  | succ chunks ih =>
    rw [wordCount_chunk, Words.loadEach_add]
    simp only [loadChunks, Prog.bind_eq, Prog.interpret_bind, Prog.bind_assoc]
    have chunk : (loadChunk address).interpret inWords =
        (Words.loadEach Words.load address 8).bind fun run =>
          .done (match run.failure with
            | some error => .error error
            | none => .ok (Chunk.ofWords run.moved)) := Prog.bind_done _
    rw [chunk, Prog.bind_assoc]
    have loads : (Words.loadEach Words.load address 8).Asks (fun _ => True) _ :=
      Words.loadEach_asks 8 fun _ => trivial
    refine loads.bind_congr ?_
    rintro ⟨words, _ | error⟩ complete
    · have eight : words.length = 8 := complete rfl
      have size : chunkBytes * (chunks + 1) + size =
          4 * words.length + (chunkBytes * chunks + size) := by
        rw [eight, chunkBytes]
        omega
      simp only [Prog.done_bind, Prog.interpret_bind, Prog.bind_assoc, size,
        Transfer.ofWords_append]
      rw [← Chunk.toBytes_ofWords eight]
      have behind := congrArg (fun program => program.bind fun transfer =>
        Prog.done (transfer.behind (Chunk.ofWords words).toBytes).told) (ih (address + chunkBytes))
      simp only [Prog.bind_assoc, Prog.done_bind, Transfer.told_behind] at behind
      exact behind
    · rfl

theorem Link.loadBytes_told (address size : Nat) :
    (((answer (.loadBytes address size)).interpret inWords).bind fun transfer =>
        .done transfer.told) =
      ((Bus.answer (.loadBytes address size)).interpret Bus.inWords).bind fun transfer =>
        .done transfer.told := by
  change _ = ((Bus.loadChunks _ address _).interpret Bus.inWords).bind _
  rw [Bus.loadChunks_told, Bus.chunkBytes, Nat.div_add_mod]
  change (((Words.loadEach Words.load address (Bytes.wordCount size)).bind _).bind Prog.done).bind _ = _
  rw [Prog.bind_done, Prog.bind_assoc]
  rfl

end NodeLink

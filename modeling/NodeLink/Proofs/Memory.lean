import NodeLink.Proofs.Ensures
import NodeLink.SharedMemory
import Mathlib.Logic.Basic
import Mathlib.Tactic.ByContra

/-! Word accesses to the shared memory, as programs see them: a mapped word holds what was stored there
last, and an access may be allowed to fail, which changes nothing. -/
namespace NodeLink

namespace SharedMemory

def Mapped (memory : SharedMemory) (address : Nat) : Prop :=
  address % 4 = 0 ∧ memory.base ≤ address ∧
    (address - memory.base) / 4 < memory.words.size

variable {memory : SharedMemory} {address other : Nat} {word : UInt32}

/-- The place of a mapped word. -/
def place (mapped : memory.Mapped address) : Fin memory.words.size :=
  ⟨(address - memory.base) / 4, mapped.2.2⟩

theorem index?_of_mapped (mapped : memory.Mapped address) :
    memory.index? address = some (place mapped) := by
  obtain ⟨aligned, above, inside⟩ := mapped
  simp only [index?, aligned, above, inside, and_self, if_true, dite_true, place]

theorem index?_of_not_mapped (unmapped : ¬ memory.Mapped address) :
    memory.index? address = none := by
  unfold index?
  split
  · rename_i placed
    exact dif_neg fun inside => unmapped ⟨placed.1, placed.2, inside⟩
  · rfl

theorem load_of_mapped (mapped : memory.Mapped address) :
    memory.load address = .ok memory.words[place mapped] := by
  simp only [load, index?_of_mapped mapped]

theorem load_of_not_mapped (unmapped : ¬ memory.Mapped address) :
    memory.load address = .error .medium := by
  simp only [load, index?_of_not_mapped unmapped]

theorem mapped_of_load (loaded : memory.load address = .ok word) : memory.Mapped address := by
  by_contra unmapped
  rw [load_of_not_mapped unmapped] at loaded
  contradiction

theorem store_of_mapped (mapped : memory.Mapped address) :
    memory.store address word =
      (.ok (), { memory with words := memory.words.set (place mapped) word }) := by
  simp only [store, index?_of_mapped mapped]

theorem store_of_not_mapped (unmapped : ¬ memory.Mapped address) :
    memory.store address word = (.error .medium, memory) := by
  simp only [store, index?_of_not_mapped unmapped]

theorem store_result_of_mapped (mapped : memory.Mapped address) :
    (memory.store address word).1 = .ok () := by rw [store_of_mapped mapped]

/-- A store moves no word to another place. -/
theorem mapped_store : (memory.store address word).2.Mapped other ↔ memory.Mapped other := by
  by_cases mapped : memory.Mapped address
  · rw [store_of_mapped mapped]
    simp only [Mapped, Array.size_set]
  · rw [store_of_not_mapped mapped]

theorem load_store_self (mapped : memory.Mapped address) :
    (memory.store address word).2.load address = .ok word := by
  rw [load_of_mapped (mapped_store.mpr mapped)]
  simp only [store_of_mapped mapped, place, Fin.getElem_fin, Array.getElem_set_self]

theorem load_store_of_ne (apart : other ≠ address) :
    (memory.store address word).2.load other = memory.load other := by
  by_cases mapped : memory.Mapped address
  · by_cases found : memory.Mapped other
    · rw [load_of_mapped (mapped_store.mpr found), load_of_mapped found]
      have distinct : (address - memory.base) / 4 ≠ (other - memory.base) / 4 := by
        obtain ⟨aligned, above, _⟩ := mapped
        obtain ⟨aligned', above', _⟩ := found
        omega
      simp only [store_of_mapped mapped, place, Fin.getElem_fin]
      exact congrArg Except.ok (Array.getElem_set_ne _ _ distinct)
    · rw [load_of_not_mapped found, load_of_not_mapped (mapped_store.not.mpr found)]
  · rw [store_of_not_mapped mapped]

/-- What an access may answer. With `faults` it may fail instead of being made. -/
def Answers (faults : Prop) : Semantics Words SharedMemory
  | .load address, memory, answer, after =>
    (answer = memory.load address ∨ faults ∧ answer = .error .medium) ∧ after = memory
  | .store address word, memory, answer, after =>
    (answer, after) = memory.store address word ∨
      faults ∧ answer = .error .medium ∧ after = memory

theorem answers_onWords (faults : Prop) (request : Words.Request) (memory : SharedMemory) :
    Answers faults request memory (onWords request memory).1 (onWords request memory).2 := by
  cases request with
  | load address => exact ⟨.inl rfl, rfl⟩
  | store address word => exact .inl rfl

/-- The words from an address on are these. -/
def HasWords (memory : SharedMemory) : Nat → List UInt32 → Prop
  | _, [] => True
  | address, word :: rest =>
    memory.load address = .ok word ∧ memory.HasWords (address + 4) rest

/-- All words outside these addresses are as before, and the same words are mapped. -/
def SameOutside (changed : Nat → Prop) (before after : SharedMemory) : Prop :=
  (∀ address, after.Mapped address ↔ before.Mapped address) ∧
    ∀ address, ¬ changed address → after.load address = before.load address

theorem SameOutside.refl (changed : Nat → Prop) (memory : SharedMemory) :
    SameOutside changed memory memory := ⟨fun _ => Iff.rfl, fun _ _ => rfl⟩

theorem SameOutside.trans {changed : Nat → Prop} {first second third : SharedMemory}
    (start : SameOutside changed first second) (rest : SameOutside changed second third) :
    SameOutside changed first third :=
  ⟨fun address => (rest.1 address).trans (start.1 address),
    fun address outside => (rest.2 address outside).trans (start.2 address outside)⟩

theorem SameOutside.mono {changed wider : Nat → Prop} {before after : SharedMemory}
    (same : SameOutside changed before after) (implies : ∀ address, changed address → wider address) :
    SameOutside wider before after :=
  ⟨same.1, fun address outside => same.2 address fun inside => outside (implies address inside)⟩

theorem mapped_iff_of_load_eq {twin : SharedMemory} (same : twin.load address = memory.load address) :
    twin.Mapped address ↔ memory.Mapped address := by
  constructor
  · intro mapped
    rw [load_of_mapped mapped] at same
    exact mapped_of_load same.symm
  · intro mapped
    rw [load_of_mapped mapped] at same
    exact mapped_of_load same

theorem store_result_of_load_eq {twin : SharedMemory} (word : UInt32)
    (same : twin.load address = memory.load address) :
    (twin.store address word).1 = (memory.store address word).1 := by
  have both := mapped_iff_of_load_eq same
  by_cases mapped : memory.Mapped address
  · rw [store_of_mapped mapped, store_of_mapped (both.mpr mapped)]
  · rw [store_of_not_mapped mapped, store_of_not_mapped (both.not.mpr mapped)]

theorem load_store_of_load_eq {twin : SharedMemory} (word : UInt32)
    (same : twin.load address = memory.load address) (alike : twin.load other = memory.load other) :
    (twin.store address word).2.load other = (memory.store address word).2.load other := by
  have both := mapped_iff_of_load_eq same
  by_cases equal : other = address
  · subst equal
    by_cases mapped : memory.Mapped other
    · rw [load_store_self mapped, load_store_self (both.mpr mapped)]
    · rw [store_of_not_mapped mapped, store_of_not_mapped (both.not.mpr mapped)]
      exact alike
  · rw [load_store_of_ne equal, load_store_of_ne equal]
    exact alike

/-- A store changes its word alone, also when it fails. -/
theorem Answers.store_same {faults : Prop} {answer : Except Error Unit} {after : SharedMemory}
    (given : Answers faults (.store address word) memory answer after) :
    SameOutside (· = address) memory after := by
  rcases given with made | ⟨_, _, rfl⟩
  · rw [(Prod.mk.inj made).2]
    exact ⟨fun _ => mapped_store, fun _ apart => load_store_of_ne apart⟩
  · exact .refl _ _

/-- A store to a mapped word is made, or fails without effect. -/
theorem Answers.store_cases {faults : Prop} {answer : Except Error Unit} {after : SharedMemory}
    (mapped : memory.Mapped address)
    (given : Answers faults (.store address word) memory answer after) :
    answer = .ok () ∧ after.load address = .ok word ∨
      faults ∧ answer = .error .medium ∧ after = memory := by
  refine given.imp_left fun made => ?_
  have loaded : (memory.store address word).2.load address = .ok word := load_store_self mapped
  rw [← made] at loaded
  rw [store_of_mapped mapped] at made
  exact ⟨(Prod.mk.inj made).1, loaded⟩

theorem HasWords.congr {after : SharedMemory} {words : List UInt32}
    (same : ∀ other, address ≤ other → other < address + 4 * words.length →
      after.load other = memory.load other)
    (has : memory.HasWords address words) : after.HasWords address words := by
  induction words generalizing address with
  | nil => trivial
  | cons word rest ih =>
    simp only [List.length_cons] at same
    refine ⟨(same address (Nat.le_refl _) (by omega)).trans has.1, ih ?_ has.2⟩
    intro other above below
    exact same other (by omega) (by omega)

theorem hasWords_append {first second : List UInt32} :
    memory.HasWords address (first ++ second) ↔
      memory.HasWords address first ∧ memory.HasWords (address + 4 * first.length) second := by
  induction first generalizing address with
  | nil => simp only [List.nil_append, HasWords, List.length_nil, Nat.mul_zero, Nat.add_zero,
      true_and]
  | cons word rest ih =>
    have shifted : address + 4 + 4 * rest.length = address + 4 * (rest.length + 1) := by omega
    simp only [List.cons_append, HasWords, ih, List.length_cons, shifted, and_assoc]

end SharedMemory

def Words.Request.address : Words.Request → Nat
  | .load address | .store address _ => address

/-- Stores to these addresses are the only accesses. -/
def StoresIn (inside : Nat → Prop) : Words.Request → Prop
  | .load _ => False
  | .store address _ => inside address

/-- Loads from these addresses are the only accesses. -/
def LoadsIn (inside : Nat → Prop) : Words.Request → Prop
  | .load address => inside address
  | .store _ _ => False

/-- Loads are from these addresses; stores may go anywhere. -/
def LoadsFrom (inside : Nat → Prop) : Words.Request → Prop
  | .load address => inside address
  | .store _ _ => True

namespace Prog.Ensures

variable {α : Type} {faults : Prop} {inside : Nat → Prop} {may : Words.Request → Prop}
  {program : Prog Words α} {memory : SharedMemory} {post : α → SharedMemory → Prop}

theorem stores_keep
    (holds : program.Ensures (SharedMemory.Answers faults) (StoresIn inside) memory post) :
    program.Ensures (SharedMemory.Answers faults) (StoresIn inside) memory fun value after =>
      post value after ∧ SharedMemory.SameOutside inside memory after := by
  apply holds.keeps _ (SharedMemory.SameOutside.refl inside) SharedMemory.SameOutside.trans
  intro request before answer after permitted given
  cases request with
  | load address => exact permitted.elim
  | store address word => exact given.store_same.mono fun _ same => same ▸ permitted

theorem loads_keep
    (holds : program.Ensures (SharedMemory.Answers faults) (LoadsIn inside) memory post) :
    program.Ensures (SharedMemory.Answers faults) (LoadsIn inside) memory fun value after =>
      post value after ∧ after = memory := by
  apply holds.keeps (fun before after => after = before) (fun _ => rfl)
    (fun first second => second.trans first)
  intro request before answer after permitted given
  cases request with
  | load address => exact given.2
  | store address word => exact permitted.elim

end Prog.Ensures

end NodeLink

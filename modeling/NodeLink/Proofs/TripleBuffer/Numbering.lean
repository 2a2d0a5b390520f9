import NodeLink.TripleBuffer

/-! The numbers that successive writes carry, and the slots they go to. Numbers repeat after 255 writes,
so equal numbers tell the count of writes modulo 255 and no more. -/
namespace NodeLink

namespace Sequence

/-- The number of the latest of so many writes. -/
def ofCount : Nat → Sequence
  | 0 => 0
  | count + 1 => (ofCount count).next

@[simp] theorem ofCount_zero : ofCount 0 = 0 := rfl

theorem next_ofCount (count : Nat) : (ofCount count).next = ofCount (count + 1) := rfl

theorem toNat_next (seq : Sequence) : seq.next.toNat = seq.toNat % 255 + 1 := by
  have bound := seq.toNat_lt
  have sum : (seq + 1).toNat = (seq.toNat + 1) % 256 := UInt8.toNat_add seq 1
  unfold next
  split
  · rename_i wrapped
    have zero : (seq + 1).toNat = 0 := by rw [wrapped]; rfl
    have last : seq.toNat = 255 := by omega
    rw [last]
    rfl
  · rename_i apart
    have positive : (seq + 1).toNat ≠ 0 := fun zero => apart (UInt8.toNat_inj.mp zero)
    omega

theorem toNat_ofCount_succ (count : Nat) : (ofCount (count + 1)).toNat = count % 255 + 1 := by
  induction count with
  | zero => decide
  | succ count ih =>
    rw [ofCount, toNat_next, ih]
    omega

theorem ofCount_eq_zero_iff (count : Nat) : ofCount count = 0 ↔ count = 0 := by
  cases count with
  | zero => simp only [ofCount]
  | succ count => simp only [ofCount, next_ne_zero, Nat.add_eq_zero_iff, Nat.one_ne_zero, and_false]

/-- Two counts share a number when they are equal or a multiple of 255 writes apart. -/
theorem ofCount_eq_iff (first second : Nat) : ofCount first = ofCount second ↔
    (first = 0 ↔ second = 0) ∧ first % 255 = second % 255 := by
  cases first with
  | zero =>
    rw [ofCount_zero, eq_comm, ofCount_eq_zero_iff]
    constructor
    · rintro rfl
      exact ⟨Iff.rfl, rfl⟩
    · intro same
      exact same.1.mp rfl
  | succ first =>
    cases second with
    | zero => simp only [ofCount_zero, ofCount_eq_zero_iff, Nat.add_eq_zero_iff, Nat.one_ne_zero,
        and_false, iff_true, false_and]
    | succ second =>
      rw [← UInt8.toNat_inj, toNat_ofCount_succ, toNat_ofCount_succ]
      omega

/-- An earlier write shares the number of a later one when whole rounds of 255 lie between them. -/
theorem ofCount_eq_iff_of_lt {first second : Nat} (before : second < first) :
    ofCount first = ofCount second ↔ 0 < second ∧ 255 ∣ first - second := by
  rw [ofCount_eq_iff]
  omega

theorem ofCount_succ_ne (count : Nat) : ofCount (count + 1) ≠ ofCount count := by
  rw [Ne, ofCount_eq_iff_of_lt (Nat.lt_succ_self count)]
  omega

theorem isFresh_self (seq : Sequence) : seq.isFresh seq = false := by
  simp only [isFresh, bne_self_eq_false, Bool.and_false]

/-- A number tells that writes were missed, unless whole rounds of them were. -/
theorem isFresh_ofCount_iff {written seen : Nat} (order : seen ≤ written) :
    (ofCount written).isFresh (ofCount seen) = true ↔
      seen < written ∧ ¬ (0 < seen ∧ 255 ∣ written - seen) := by
  cases Nat.lt_or_eq_of_le order with
  | inl missed =>
    have some : ofCount written ≠ 0 := by
      rw [Ne, ofCount_eq_zero_iff]
      omega
    simp only [isFresh, Bool.and_eq_true, bne_iff_ne, Ne, ofCount_eq_iff_of_lt missed, some,
      not_false_eq_true, missed, true_and]
  | inr none =>
    subst none
    simp only [isFresh_self, Nat.lt_irrefl, false_and, Bool.false_eq_true]

theorem isFresh_ofCount_succ (count : Nat) : (ofCount (count + 1)).isFresh (ofCount count) = true := by
  rw [isFresh_ofCount_iff (Nat.le_succ count)]
  omega

end Sequence

namespace TripleBuffer

/-- Of three slots one is always free. -/
theorem freeSlot_spec (latest reading : UInt8) :
    (freeSlot latest reading).toNat < 3 ∧ freeSlot latest reading ≠ latest ∧
      freeSlot latest reading ≠ reading := by
  cases found : ([0, 1, 2] : List UInt8).find? fun slot => slot != latest && slot != reading with
  | none =>
    have taken := List.find?_eq_none.mp found
    have zero := taken 0 (by decide)
    have one := taken 1 (by decide)
    have two := taken 2 (by decide)
    simp only [Bool.and_eq_true, bne_iff_ne, not_and, Decidable.not_not] at zero one two
    grind
  | some slot =>
    have free := List.find?_some found
    simp only [Bool.and_eq_true, bne_iff_ne] at free
    rw [freeSlot, found, Option.getD_some]
    refine ⟨?_, free⟩
    have member := List.mem_of_find?_eq_some found
    simp only [List.mem_cons, List.not_mem_nil, or_false] at member
    rcases member with rfl | rfl | rfl <;> decide

end TripleBuffer

end NodeLink

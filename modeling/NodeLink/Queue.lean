/-! First-in first-out queues of bounded length. A full queue takes nothing more, so no element is
lost by an insertion. -/

namespace NodeLink

structure Queue (α : Type) (capacity : Nat) where
  toList : List α
  within : toList.length ≤ capacity

namespace Queue

variable {α : Type} {capacity : Nat}

def empty : Queue α capacity := ⟨[], Nat.zero_le _⟩

def size (queue : Queue α capacity) : Nat := queue.toList.length

def isFull (queue : Queue α capacity) : Bool := queue.size == capacity

/-- The queue with one more element at its end, unless it is full. -/
def push? (queue : Queue α capacity) (value : α) : Option (Queue α capacity) :=
  if room : queue.toList.length < capacity then
    some ⟨queue.toList ++ [value], by simpa only [List.length_append, List.length_singleton]⟩
  else none

/-- The oldest element. -/
def head? (queue : Queue α capacity) : Option α := queue.toList.head?

/-- The queue without its oldest element. -/
def tail (queue : Queue α capacity) : Queue α capacity :=
  ⟨queue.toList.tail, by
    have := queue.within
    rw [List.length_tail]
    omega⟩

@[simp] theorem toList_empty : (empty : Queue α capacity).toList = [] := rfl

@[simp] theorem toList_tail (queue : Queue α capacity) : queue.tail.toList = queue.toList.tail := rfl

theorem push?_eq_some (queue next : Queue α capacity) (value : α) :
    queue.push? value = some next ↔
      queue.size < capacity ∧ next.toList = queue.toList ++ [value] := by
  obtain ⟨items, within⟩ := next
  simp only [push?, size]
  split
  · simp only [Option.some.injEq, mk.injEq, *, true_and, eq_comm]
  · simp only [reduceCtorEq, *, false_and]

theorem push?_eq_none (queue : Queue α capacity) (value : α) :
    queue.push? value = none ↔ queue.size = capacity := by
  have := queue.within
  simp only [push?, size, dite_eq_right_iff, reduceCtorEq, imp_false]
  omega

end Queue

end NodeLink

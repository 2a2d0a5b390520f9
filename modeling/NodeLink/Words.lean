import NodeLink.Layout
import NodeLink.Prog

/-! Single word accesses, the steps in which every access to the shared memory is made. Longer
accesses are sequences of them that end with the first that fails. -/

namespace NodeLink

/-- The words that a sequence of loads moved, and why it moved no more. -/
structure WordRun where
  moved : List UInt32
  failure : Option Error
  deriving DecidableEq, Repr

namespace Words

inductive Request where
  | load (address : Nat)
  | store (address : Nat) (word : UInt32)

end Words

abbrev Words : Signature where
  Request := Words.Request
  Answer
    | .load _ => Except Error UInt32
    | .store _ _ => Except Error Unit

namespace Words

def load (address : Nat) : Prog Words (Except Error UInt32) :=
  Prog.request (S := Words) (.load address)

def store (address : Nat) (word : UInt32) : Prog Words (Except Error Unit) :=
  Prog.request (S := Words) (.store address word)

variable {S : Signature}

/-- Load so many words one after the other. -/
def loadEach (load : Nat → Prog S (Except Error UInt32)) (address : Nat) :
    (count : Nat) → Prog S WordRun
  | 0 => .done ⟨[], none⟩
  | count + 1 => do
    match ← load address with
    | .error error => .done ⟨[], some error⟩
    | .ok word =>
      let run ← loadEach load (address + 4) count
      return { run with moved := word :: run.moved }

/-- Store words one after the other. -/
def storeEach (store : Nat → UInt32 → Prog S (Except Error Unit)) (address : Nat) :
    List UInt32 → Prog S (Except Error Unit)
  | [] => .done (.ok ())
  | word :: rest => do
    match ← store address word with
    | .error error => .done (.error error)
    | .ok () => storeEach store (address + 4) rest

end Words

end NodeLink

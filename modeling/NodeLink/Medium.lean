import NodeLink.Words

/-! What the triple buffer protocol asks of the memory it lies in: single words, and byte strings
that need not move at once. A failed load of bytes may have moved some of them. -/

namespace NodeLink

/-- The bytes that a load moved, and why it moved no more. -/
structure Transfer where
  moved : Bytes
  failure : Option Error
  deriving DecidableEq, Repr

/-- The first `size` bytes of words. -/
def Transfer.ofWords (size : Nat) (run : WordRun) : Transfer :=
  ⟨(run.moved.flatMap Bytes.ofWord).take size, run.failure⟩

namespace Medium

inductive Request where
  | load (address : Nat)
  | store (address : Nat) (word : UInt32)
  | loadBytes (address : Nat) (size : Nat)
  | storeBytes (address : Nat) (bytes : Bytes)

end Medium

abbrev Medium : Signature where
  Request := Medium.Request
  Answer
    | .load _ => Except Error UInt32
    | .store _ _ => Except Error Unit
    | .loadBytes _ _ => Transfer
    | .storeBytes _ _ => Except Error Unit

namespace Medium

def load (address : Nat) : Prog Medium (Except Error UInt32) :=
  Prog.request (S := Medium) (.load address)

def store (address : Nat) (word : UInt32) : Prog Medium (Except Error Unit) :=
  Prog.request (S := Medium) (.store address word)

def loadBytes (address : Nat) (size : Nat) : Prog Medium Transfer :=
  Prog.request (S := Medium) (.loadBytes address size)

def storeBytes (address : Nat) (bytes : Bytes) : Prog Medium (Except Error Unit) :=
  Prog.request (S := Medium) (.storeBytes address bytes)

end Medium

end NodeLink

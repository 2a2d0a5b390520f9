import NodeLink.Medium

/-! Access to the medium over a link that copies bytes, such as a serial line: a word is a transfer of
four bytes, and a byte string is one transfer. -/

namespace NodeLink

namespace Link

inductive Request where
  | fetch (address : Nat) (size : Nat)
  | store (address : Nat) (bytes : Bytes)

end Link

abbrev Link : Signature where
  Request := Link.Request
  Answer
    | .fetch _ _ => Transfer
    | .store _ _ => Except Error Unit

namespace Link

def fetch (address : Nat) (size : Nat) : Prog Link Transfer :=
  Prog.request (S := Link) (.fetch address size)

def store (address : Nat) (bytes : Bytes) : Prog Link (Except Error Unit) :=
  Prog.request (S := Link) (.store address bytes)

def fetchWord (address : Nat) : Prog Link (Except Error UInt32) := do
  let transfer ← fetch address 4
  return match transfer.failure with
    | some error => .error error
    | none => .ok transfer.moved.toWord

def storeWord (address : Nat) (word : UInt32) : Prog Link (Except Error Unit) :=
  store address (Bytes.ofWord word)

/-- The medium as the link reaches it. -/
def answer : (request : Medium.Request) → Prog Link (Medium.Answer request)
  | .load address => fetchWord address
  | .store address word => storeWord address word
  | .loadBytes address size => fetch address size
  | .storeBytes address bytes => store address bytes

/-- The link in single word accesses. -/
def inWords : (request : Link.Request) → Prog Words (Link.Answer request)
  | .fetch address size => do
    return .ofWords size (← Words.loadEach Words.load address (Bytes.wordCount size))
  | .store address bytes => Words.storeEach Words.store address bytes.words

end Link

end NodeLink

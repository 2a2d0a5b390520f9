import NodeLink.Medium

/-! Access to the medium over the processor's own bus: words one at a time, and chunks of eight words
that it moves in bulk. Bytes travel in whole chunks first and then word by word; the last word is
padded with zeros when stored, and only the bytes asked for are taken from it when loaded. A chunk
that fails has moved some of its words, but none of them to the reader. -/

namespace NodeLink

namespace Bus

/-- Words in a chunk. -/
def chunkWords : Nat := 8

def chunkBytes : Nat := 32

abbrev Chunk := Vector UInt32 8

namespace Chunk

def ofWords (words : List UInt32) : Chunk := Vector.ofFn fun i => words.getD i 0

def toBytes (chunk : Chunk) : Bytes := chunk.toList.flatMap Bytes.ofWord

end Chunk

inductive Request where
  | load (address : Nat)
  | store (address : Nat) (word : UInt32)
  | loadChunk (address : Nat)
  | storeChunk (address : Nat) (chunk : Chunk)

end Bus

abbrev Bus : Signature where
  Request := Bus.Request
  Answer
    | .load _ => Except Error UInt32
    | .store _ _ => Except Error Unit
    | .loadChunk _ => Except Error Bus.Chunk
    | .storeChunk _ _ => Except Error Unit

namespace Bus

def load (address : Nat) : Prog Bus (Except Error UInt32) :=
  Prog.request (S := Bus) (.load address)

def store (address : Nat) (word : UInt32) : Prog Bus (Except Error Unit) :=
  Prog.request (S := Bus) (.store address word)

def loadChunk (address : Nat) : Prog Bus (Except Error Chunk) :=
  Prog.request (S := Bus) (.loadChunk address)

def storeChunk (address : Nat) (chunk : Chunk) : Prog Bus (Except Error Unit) :=
  Prog.request (S := Bus) (.storeChunk address chunk)

/-- Store so many chunks, then the rest word by word. -/
def storeChunks : Nat → Nat → Bytes → Prog Bus (Except Error Unit)
  | 0, address, bytes => Words.storeEach store address bytes.words
  | chunks + 1, address, bytes => do
    match ← storeChunk address (Chunk.ofWords (Bytes.words (bytes.take chunkBytes))) with
    | .error error => .done (.error error)
    | .ok () => storeChunks chunks (address + chunkBytes) (bytes.drop chunkBytes)

/-- Load so many chunks, then `size` further bytes word by word. -/
def loadChunks : Nat → Nat → Nat → Prog Bus Transfer
  | 0, address, size => do
    return .ofWords size (← Words.loadEach load address (Bytes.wordCount size))
  | chunks + 1, address, size => do
    match ← loadChunk address with
    | .error error => .done ⟨[], some error⟩
    | .ok chunk =>
      let rest ← loadChunks chunks (address + chunkBytes) size
      return { rest with moved := chunk.toBytes ++ rest.moved }

/-- The medium as the bus reaches it. -/
def answer : (request : Medium.Request) → Prog Bus (Medium.Answer request)
  | .load address => load address
  | .store address word => store address word
  | .loadBytes address size => loadChunks (size / chunkBytes) address (size % chunkBytes)
  | .storeBytes address bytes => storeChunks (bytes.length / chunkBytes) address bytes

/-- The bus in single word accesses. -/
def inWords : (request : Bus.Request) → Prog Words (Bus.Answer request)
  | .load address => Words.load address
  | .store address word => Words.store address word
  | .loadChunk address => do
    let run ← Words.loadEach Words.load address chunkWords
    return match run.failure with
      | some error => .error error
      | none => .ok (Chunk.ofWords run.moved)
  | .storeChunk address chunk => Words.storeEach Words.store address chunk.toList

end Bus

end NodeLink

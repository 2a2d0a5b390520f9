import NodeLink.Bus
import NodeLink.Link

/-! The memory both processors reach: words from a base address on. An access fails if its address is
not a multiple of four or lies outside; an access of several words moves those before the first that
fails. -/

namespace NodeLink

structure SharedMemory where
  base : Nat
  words : Array UInt32
  deriving DecidableEq

namespace SharedMemory

def zeroed (base : Nat) (size : Nat) : SharedMemory := ⟨base, Array.replicate size 0⟩

/-- The word that an address names. -/
def index? (memory : SharedMemory) (address : Nat) : Option (Fin memory.words.size) :=
  if address % 4 = 0 ∧ memory.base ≤ address then
    let index := (address - memory.base) / 4
    if inside : index < memory.words.size then some ⟨index, inside⟩ else none
  else none

def load (memory : SharedMemory) (address : Nat) : Except Error UInt32 :=
  match memory.index? address with
  | none => .error .medium
  | some index => .ok memory.words[index]

def store (memory : SharedMemory) (address : Nat) (word : UInt32) :
    Except Error Unit × SharedMemory :=
  match memory.index? address with
  | none => (.error .medium, memory)
  | some index => (.ok (), { memory with words := memory.words.set index word })

def onWords : Handler Words SharedMemory
  | .load address, memory => (memory.load address, memory)
  | .store address word, memory => memory.store address word

def onBus : Handler Bus SharedMemory := fun request => (Bus.inWords request).run onWords

def onLink : Handler Link SharedMemory := fun request => (Link.inWords request).run onWords

end SharedMemory

end NodeLink

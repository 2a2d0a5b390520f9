import NodeLink.Bytes
import NodeLink.Error
import NodeLink.Queue

/-! A queue of byte elements of one size, chosen when the queue is made and at most `largest`. -/

namespace NodeLink

structure ElementFifo (capacity largest : Nat) where
  elementSize : Nat
  elements : Queue Bytes capacity
  size_pos : 0 < elementSize
  size_le : elementSize ≤ largest

namespace ElementFifo

variable {capacity largest : Nat}

def new (elementSize : Nat) : Except Error (ElementFifo capacity largest) :=
  if valid : 0 < elementSize ∧ elementSize ≤ largest then
    .ok ⟨elementSize, .empty, valid.1, valid.2⟩
  else .error .bufferTooSmall

def insert (fifo : ElementFifo capacity largest) (element : Bytes) :
    Except Error (ElementFifo capacity largest) :=
  if element.length ≠ fifo.elementSize then .error .payloadTooLarge
  else
    match fifo.elements.push? element with
    | none => .error .fifoFull
    | some elements => .ok { fifo with elements }

/-- Take the oldest element out, for a reader with `room` bytes of space. -/
def take (fifo : ElementFifo capacity largest) (room : Nat) :
    Except Error (Bytes × ElementFifo capacity largest) :=
  if room < fifo.elementSize then .error .bufferTooSmall
  else
    match fifo.elements.head? with
    | none => .error .fifoEmpty
    | some element => .ok (element, { fifo with elements := fifo.elements.tail })

def peek? (fifo : ElementFifo capacity largest) : Option Bytes := fifo.elements.head?

def discard (fifo : ElementFifo capacity largest) : Except Error (ElementFifo capacity largest) :=
  match fifo.elements.head? with
  | none => .error .fifoEmpty
  | some _ => .ok { fifo with elements := fifo.elements.tail }

def flush (fifo : ElementFifo capacity largest) : ElementFifo capacity largest :=
  { fifo with elements := .empty }

end ElementFifo

end NodeLink

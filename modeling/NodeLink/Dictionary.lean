import NodeLink.Bytes
import NodeLink.Error

/-! An object dictionary that keeps its objects in the order they were last set. An object may claim
another size than its value has, and may refuse to be read or written. -/

namespace NodeLink

namespace Dictionary

structure Entry where
  object : ObjectRef
  value : Bytes
  /-- The size that the object claims, if it is not the value's. -/
  claimed : Option Nat
  readAbort : Option AbortCode
  writeAbort : Option AbortCode
  deriving DecidableEq, Repr

end Dictionary

structure Dictionary where
  entries : List Dictionary.Entry
  deriving DecidableEq, Repr

namespace Dictionary

def empty : Dictionary := ⟨[]⟩

def find? (dictionary : Dictionary) (object : ObjectRef) : Option Entry :=
  dictionary.entries.find? (·.object = object)

def erase (dictionary : Dictionary) (object : ObjectRef) : Dictionary :=
  ⟨dictionary.entries.filter (·.object ≠ object)⟩

/-- Put an object at the end, in place of any that it had. -/
def insert (dictionary : Dictionary) (entry : Entry) : Dictionary :=
  ⟨(dictionary.erase entry.object).entries ++ [entry]⟩

def sizeOf (dictionary : Dictionary) (object : ObjectRef) : Option Nat :=
  (dictionary.find? object).map fun entry => entry.claimed.getD entry.value.length

/-- The value of an object, for a reader with `room` bytes of space. -/
def read (dictionary : Dictionary) (object : ObjectRef) (room : Nat) : Except AbortCode Bytes :=
  match dictionary.find? object with
  | none => .error .noObject
  | some entry =>
    match entry.readAbort with
    | some code => .error code
    | none => if room < entry.value.length then .error .lengthMismatch else .ok entry.value

/-- Replace the value of the first entry for an object. -/
def replaceValue (object : ObjectRef) (value : Bytes) : List Entry → List Entry
  | [] => []
  | entry :: rest =>
    if entry.object = object then { entry with value } :: rest
    else entry :: replaceValue object value rest

def write (dictionary : Dictionary) (object : ObjectRef) (value : Bytes) :
    Except AbortCode Unit × Dictionary :=
  match dictionary.find? object with
  | none => (.error .noObject, dictionary)
  | some entry =>
    match entry.writeAbort with
    | some code => (.error code, dictionary)
    | none =>
      if value.length ≠ entry.value.length then (.error .lengthMismatch, dictionary)
      else (.ok (), ⟨replaceValue object value dictionary.entries⟩)

end Dictionary

end NodeLink

/-! The nine shared buffers and who writes each. Every buffer has exactly one producing processor,
so the two processors always take opposite roles on it. -/

namespace NodeLink

/-- The two processors of a node: one runs the fieldbus stack, one the user logic. -/
inductive Processor where
  | communication
  | application
  deriving DecidableEq, Repr

inductive Role where
  | producer
  | consumer
  deriving DecidableEq, Repr

inductive BufferId where
  | status
  | configuration
  | receivePdo
  | transmitPdo
  | ssdoTransmit
  | ssdoReceive
  | asyncTransmit
  | asyncReceive
  | logbook
  deriving DecidableEq, Repr

namespace BufferId

def all : List BufferId :=
  [status, configuration, receivePdo, transmitPdo, ssdoTransmit, ssdoReceive, asyncTransmit,
    asyncReceive, logbook]

/-- Buffers are numbered in the order of `all`. -/
def ofNumber? (number : Nat) : Option BufferId := all[number]?

def producer : BufferId → Processor
  | status | receivePdo | ssdoReceive | asyncReceive => .communication
  | configuration | transmitPdo | ssdoTransmit | asyncTransmit | logbook => .application

def roleOf (id : BufferId) (side : Processor) : Role :=
  if id.producer = side then .producer else .consumer

theorem mem_all (id : BufferId) : id ∈ all := by cases id <;> decide

theorem roleOf_opposite (id : BufferId) :
    id.roleOf .communication ≠ id.roleOf .application := by cases id <;> decide

end BufferId

end NodeLink

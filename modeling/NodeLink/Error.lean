import NodeLink.Buffer
import NodeLink.Object

/-! Failures of the interface. An `Error` is reported; `Fault.busy` only says that the operation
has to be tried again on a later cycle. -/

namespace NodeLink

inductive Error where
  | notAligned
  | bufferTooSmall
  | payloadTooLarge
  /-- The owner has not created the buffer yet. -/
  | uninitialised
  /-- Not allowed for this role or in this state. -/
  | invalidOperation
  | invalidSize (id : BufferId)
  | missingBuffer (id : BufferId)
  | duplicateBuffer (id : BufferId)
  /-- A link table entry does not fit the dictionary or the image. -/
  | linkMismatch (object : ObjectRef)
  | poolExhausted
  | invalidHandle
  | fifoFull
  | fifoEmpty
  | malformed
  /-- A checksum in a received frame does not match. -/
  | checksum
  | transport
  | timeout
  | staleTimebase
  | unlinkedObject (object : ObjectRef)
  | unknownChannel (channel : UInt8)
  | abort (code : AbortCode)
  /-- The shared memory or the link to it failed. -/
  | medium
  deriving DecidableEq, Repr

/-- Errors of the configuration show at start-up and are fatal. -/
def Error.isConfiguration : Error → Bool
  | notAligned | bufferTooSmall | invalidSize _ | missingBuffer _ | duplicateBuffer _
  | linkMismatch _ | poolExhausted => true
  | _ => false

inductive Fault where
  | busy
  | error (cause : Error)
  deriving DecidableEq, Repr

/-- Where a reported error comes from. -/
inductive Source where
  | buffer (id : BufferId)
  /-- The application's actions before and after a cycle. -/
  | stream
  deriving DecidableEq, Repr

end NodeLink

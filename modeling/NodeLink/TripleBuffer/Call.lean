import NodeLink.TripleBuffer

/-! Calls on an end of a buffer as values, so that sequences of them can be spoken of: what one buffer
answers to a sequence, over whatever reaches the medium. -/

namespace NodeLink.TripleBuffer

inductive Call where
  | write (payload : Bytes)
  | read (room : Nat)
  | hasFresh
  | acknowledge (seq : Sequence)
  | acknowledged
  deriving DecidableEq, Repr

/-- What a call returns, failed or not. A read tells what it moved into its space also when it fails. -/
inductive Reply where
  | written (result : Except Fault Sequence)
  | read (room : Nat) (attempt : Except Fault ReadAttempt)
  | fresh (result : Except Fault Bool)
  | acknowledge (result : Except Fault Unit)
  | acknowledged (result : Except Fault Bool)

/-- The reply that an operation's outcome makes. -/
def replyWith {α : Type} (reply : Except Fault α → Reply) (operation : Operation α) :
    Operation Reply := reply <$> Action.outcome operation

def Call.perform : Call → Operation Reply
  | .write payload => replyWith .written (TripleBuffer.write payload)
  | .read room => replyWith (.read room) (tryRead room)
  | .hasFresh => replyWith .fresh TripleBuffer.hasFresh
  | .acknowledge seq => replyWith .acknowledge (TripleBuffer.acknowledge seq)
  | .acknowledged => replyWith .acknowledged TripleBuffer.acknowledged

/-- Make calls one after the other. -/
def performEach : List (Operation Reply) → Operation (List Reply)
  | [] => return []
  | operation :: rest => do
    let reply ← operation
    let replies ← performEach rest
    return reply :: replies

def performAll (calls : List Call) : Operation (List Reply) := performEach (calls.map Call.perform)

end NodeLink.TripleBuffer

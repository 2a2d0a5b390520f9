import NodeLink.Channel.Sender
import NodeLink.Logbook.Entry
import NodeLink.Timer

/-! The application's end of the logbook. A record stays in place until it was acknowledged; each time
the timeout passes before that is an error. -/

namespace NodeLink.Logbook

/-- The format named in the headers. -/
def format : UInt8 := 0x20

structure Producer where
  sender : Channel.Sender
  timer : TimerPool.Handle
  deriving DecidableEq

namespace Producer

/-- The end and the pool of timers it shares with others. -/
abbrev State := Producer × TimerPool

def new (buffer : TripleBuffer) (timeout : Nat) (pool : TimerPool) : Except Error State := do
  if buffer.slotSize < Channel.headerSize + entrySize then .error (.invalidSize buffer.id)
  else
    let sender ← Channel.Sender.new buffer 0
    let (timer, pool) ← pool.create timeout
    return (⟨sender, timer⟩, pool)

def onSender {α : Type} : Channel.Sender.Operation α → Action Medium State α :=
  Action.part (·.1.sender) fun sender state => ({ state.1 with sender }, state.2)

abbrev onTimer (change : TimerPool → TimerPool.Handle → Except Error TimerPool) :
    Action Medium State Unit := Action.onTimer Producer.timer change

def phase : Action Medium State Timer.Phase := do
  let (producer, pool) ← Action.get
  Action.ofExcept (pool.phase producer.timer)

def ready : Action Medium State Bool := onSender Channel.Sender.ready

/-- Post a record. Busy while the one before is unacknowledged. -/
def post (entry : Entry) : Action Medium State Unit := do
  let _ ← onSender (Channel.Sender.post format entry.toBytes)
  onTimer TimerPool.start

/-- Count a cycle while a record is unacknowledged. -/
def tick : Action Medium State Unit := do
  if (← phase) = .stopped then return
  else if ← ready then onTimer TimerPool.stop
  else
    onTimer TimerPool.tick
    if (← phase) = .expired then
      onTimer TimerPool.start
      Action.fail (.error .timeout)

end Producer

end NodeLink.Logbook

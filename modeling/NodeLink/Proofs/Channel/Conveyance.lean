import Mathlib.Control.Monad.Basic
import NodeLink.Proofs.Agreement
import NodeLink.Proofs.Channel
import NodeLink.Proofs.TripleBuffer.Connection

/-! Both ends of a channel, called in any order. Every message that was posted is polled once, in the
order of the posts and as it was posted; the next one is posted after that was acknowledged. Any access
of a post may fail, and a post that fails leaves nothing that a later call could tell. -/
namespace NodeLink.Channel

open TripleBuffer (anyAccess)

/-- What a sender is given to convey. -/
structure Letter where
  format : UInt8
  channel : UInt8
  payload : Bytes
  deriving DecidableEq

namespace Letter

variable (letter : Letter)

/-- The header of a letter that is posted under a number. -/
def header (number : MessageNumber) : Header where
  number := number
  retry := false
  format := letter.format
  channel := letter.channel
  size := UInt16.ofNat letter.payload.length

def bytes (number : MessageNumber) : Bytes := (letter.header number).toBytes ++ letter.payload

/-- The message that the letter posted at this place is polled as. -/
def message (place : Nat) : Message :=
  ⟨letter.header (number place), Sequence.ofCount place, false, letter.payload⟩

end Letter

def Message.letter (message : Message) : Letter :=
  ⟨message.header.format, message.header.channel, message.payload⟩

/-- Both ends, their memory, and the message that was polled last. -/
structure Exchange where
  memory : SharedMemory
  sender : Sender
  receiver : Receiver
  held : Option Message

inductive Call where
  /-- The accesses of a post fail as listed, counted from its first. -/
  | post (fails : Nat → Bool) (format : UInt8) (payload : Bytes)
  | setChannel (channel : UInt8)
  | poll (room : Nat)
  /-- Acknowledge the message that was polled last. -/
  | acknowledge

/-- What is seen of a call. -/
inductive Sight where
  | posted (letter : Letter) (result : Except Fault MessageNumber)
  | switched
  | polled (result : Except Fault (Option Message))
  | acknowledged (result : Except Fault Unit)
  /-- There is no message to acknowledge. -/
  | idle
  deriving DecidableEq

namespace Exchange

/-- The ends right after the buffer was made, on the processor that owns its memory. -/
def setUp (owner : Role) (d : Descriptor) (channel : UInt8) (memory : SharedMemory) :
    Except Fault Exchange :=
  match (TripleBuffer.connect owner d).inWords.run SharedMemory.onWords memory with
  | (.error fault, _) => .error fault
  | (.ok (producing, consuming), memory) =>
    match Sender.new producing channel, Receiver.new consuming with
    | .ok sender, .ok receiver => .ok ⟨memory, sender, receiver, none⟩
    | .error error, _ | _, .error error => .error (.error error)

def call (exchange : Exchange) : Call → Sight × Exchange
  | .post fails format payload =>
    let outcome := (Sender.post format payload).runFailing fails exchange.sender exchange.memory
    (.posted ⟨format, exchange.sender.channel, payload⟩ outcome.1.1,
      { exchange with sender := outcome.1.2, memory := outcome.2 })
  | .setChannel channel => (.switched, { exchange with sender.channel := channel })
  | .poll room =>
    let outcome :=
      (Receiver.poll room).runFailing (fun _ => false) exchange.receiver exchange.memory
    let held :=
      match outcome.1.1 with
      | .ok (some message) => some message
      | _ => exchange.held
    (.polled outcome.1.1, { exchange with receiver := outcome.1.2, memory := outcome.2, held })
  | .acknowledge =>
    match exchange.held with
    | none => (.idle, exchange)
    | some message =>
      let outcome :=
        (Receiver.acknowledge message).runFailing (fun _ => false) exchange.receiver exchange.memory
      (.acknowledged outcome.1.1, { exchange with receiver := outcome.1.2, memory := outcome.2 })

def after (exchange : Exchange) (calls : List Call) : Exchange :=
  calls.foldl (fun exchange call => (exchange.call call).2) exchange

/-- What is seen of the calls, one after the other. -/
def log (exchange : Exchange) : List Call → List Sight
  | [] => []
  | call :: rest => (exchange.call call).1 :: (exchange.call call).2.log rest

end Exchange

/-- What the posts that succeeded were given. -/
def posted : List Sight → List Letter := List.filterMap fun
  | .posted letter (.ok _) => some letter
  | _ => none

/-- What the polls returned. -/
def polled : List Sight → List Message := List.filterMap fun
  | .polled (.ok (some message)) => some message
  | _ => none

/-- All that was posted was polled, and then acknowledged. -/
def Settled (before : List Sight) : Prop :=
  posted before = [] ∨ ∃ earlier later, before = earlier ++ .acknowledged (.ok ()) :: later ∧
    (polled earlier).map Message.letter = posted before

/-- What a call may be seen to return after the calls before it. -/
inductive Expected (before : List Sight) : Sight → Prop where
  | posted (letter : Letter) (number : MessageNumber) (settled : Settled before) :
      Expected before (.posted letter (.ok number))
  | refused (letter : Letter) (fault : Fault) : Expected before (.posted letter (.error fault))
  | switched : Expected before .switched
  | fresh (message : Message) (new : message.duplicate = false) (first : message.header.retry = false)
      (next : posted before = (polled before).map Message.letter ++ [message.letter]) :
      Expected before (.polled (.ok (some message)))
  | stale (all : posted before = (polled before).map Message.letter) :
      Expected before (.polled (.ok none))
  | acknowledged : Expected before (.acknowledged (.ok ()))
  | idle (none : polled before = []) : Expected before .idle

section Logs

variable {before : List Sight} {sight : Sight}

@[simp] theorem posted_append (first second : List Sight) :
    posted (first ++ second) = posted first ++ posted second := List.filterMap_append

@[simp] theorem polled_append (first second : List Sight) :
    polled (first ++ second) = polled first ++ polled second := List.filterMap_append

theorem Settled.keep (settled : Settled before) (quiet : posted [sight] = []) :
    Settled (before ++ [sight]) := by
  cases settled with
  | inl none =>
    left
    rw [posted_append, none, quiet]
    rfl
  | inr found =>
    obtain ⟨earlier, later, split, told⟩ := found
    right
    refine ⟨earlier, later ++ [sight], ?_, ?_⟩
    · rw [split, List.append_assoc, List.cons_append]
    · rw [posted_append, quiet, List.append_nil]
      exact told

end Logs

variable {d : Descriptor} {before : List Sight} {published : List Bytes} {latest slot : UInt8}
  {settled : Nat} {exchange first second : Exchange} {memory : SharedMemory}

/-- How far the ends have come. The letters before the last one were polled and acknowledged; the last
one may be too. -/
structure Stands (d : Descriptor) (before : List Sight) (published : List Bytes) (settled : Nat)
    (exchange : Exchange) : Prop where
  producing : exchange.sender.buffer.Produces d
  numbered : exchange.sender.next = number (published.length + 1)
  consuming : exchange.receiver.buffer.Consumes d (.ofCount (polled before).length)
  delivered : exchange.receiver.delivered = number settled
  held : exchange.held = (polled before).getLast?
  written : ∀ message, exchange.held = some message →
    message.write = Sequence.ofCount (polled before).length ∧
      message.header.number = number (polled before).length
  length : published.length = (posted before).length
  latest : ∀ letter, (posted before).getLast? = some letter →
    published.getLast? = some (letter.bytes (number published.length)) ∧
      (letter.header (number published.length)).Heads letter.payload
  taken : settled ≤ (polled before).length
  ahead : published.length ≤ settled + 1
  conveyed : ∃ waiting, posted before = (polled before).map Message.letter ++ waiting
  closed : settled = published.length → Settled before

/-- Two exchanges that no call tells apart. -/
def Twins (d : Descriptor) (before : List Sight) (first second : Exchange) : Prop :=
  ∃ published latest slot settled, Stands d before published settled first ∧
    d.Shows first.memory published latest ⟨.ofCount settled, slot⟩ ∧
    d.Shows second.memory published latest ⟨.ofCount settled, slot⟩ ∧
    (∀ address, second.memory.Mapped address ↔ first.memory.Mapped address) ∧
    second = { first with memory := second.memory }

namespace Stands

variable (stands : Stands d before published settled exchange)

include stands

theorem behind : (polled before).length ≤ published.length := by
  obtain ⟨waiting, split⟩ := stands.conveyed
  have counts := congrArg List.length split
  simp only [List.length_append, List.length_map] at counts
  rw [stands.length]
  omega

theorem all (equal : published.length = (polled before).length) :
    posted before = (polled before).map Message.letter := by
  obtain ⟨waiting, split⟩ := stands.conveyed
  have counts := congrArg List.length split
  simp only [List.length_append, List.length_map, ← stands.length] at counts
  have empty : waiting = [] := List.length_eq_zero_iff.mp (by omega)
  rw [split, empty, List.append_nil]

theorem next (waits : (polled before).length < published.length) :
    ∃ letter, posted before = (polled before).map Message.letter ++ [letter] := by
  obtain ⟨waiting, split⟩ := stands.conveyed
  have counts := congrArg List.length split
  have taken := stands.taken
  have ahead := stands.ahead
  simp only [List.length_append, List.length_map, ← stands.length] at counts
  obtain ⟨letter, single⟩ := List.length_eq_one_iff.mp (show waiting.length = 1 by omega)
  exact ⟨letter, single ▸ split⟩

/-- A poll without a new message changes nothing. -/
theorem poll_stale {room : Nat} (all : published.length = (polled before).length)
    (shows : d.Shows memory published latest ⟨.ofCount settled, slot⟩) :
    (Receiver.poll room).runFailing (fun _ => false) exchange.receiver memory =
      ((.ok none, exchange.receiver), memory) := by
  have stale : (Sequence.ofCount published.length).isFresh (.ofCount (polled before).length) =
      false := by
    rw [all]
    exact Sequence.isFresh_self _
  have polls : (Receiver.poll room).Ensures (Action.Fails fun _ => false) anyAccess exchange.receiver
      memory _ _ :=
    Receiver.poll_shows stands.consuming shows (by simp only [stale]; nofun) (by simp only [stale]; nofun)
  have ended := polls.runFailing
  generalize (Receiver.poll room).runFailing (fun _ => false) exchange.receiver memory =
    outcome at ended
  obtain ⟨⟨result, left⟩, after⟩ := outcome
  cases result with
  | error fault =>
    obtain ⟨_, _, faulty, _⟩ := ended
    exact absurd faulty Action.not_fails
  | ok polled =>
    cases polled with
    | none =>
      obtain ⟨_, rfl, rfl⟩ := ended
      rfl
    | some message =>
      have fresh := ended.1
      rw [stands.consuming.seen, stale] at fresh
      contradiction

/-- A new message is polled as it was posted. -/
theorem poll_fresh {room : Nat} {letter : Letter} (roomy : d.size ≤ room)
    (next : posted before = (polled before).map Message.letter ++ [letter])
    (shows : d.Shows memory published latest ⟨.ofCount settled, slot⟩) :
    ∃ after, (Receiver.poll room).runFailing (fun _ => false) exchange.receiver memory =
        ((.ok (some (letter.message published.length)),
          { exchange.receiver with buffer := exchange.receiver.buffer.taken published latest }), after) ∧
      d.Shows after published latest ⟨.ofCount settled, latest⟩ ∧
      ∀ address, after.Mapped address ↔ memory.Mapped address := by
  have length : published.length = (polled before).length + 1 := by
    rw [stands.length, next, List.length_append, List.length_map, List.length_singleton]
  have settled : settled = (polled before).length := by
    have taken := stands.taken
    have ahead := stands.ahead
    omega
  obtain ⟨last, heads⟩ := stands.latest letter (by rw [next, List.getLast?_concat])
  have polls : (Receiver.poll room).Ensures (Action.Fails fun _ => false) anyAccess exchange.receiver
      memory _ _ := Receiver.poll_shows stands.consuming shows ?told ?fits
  case told =>
    intro _ bytes found
    rw [last, Option.some.injEq] at found
    exact ⟨_, _, found.symm, heads⟩
  case fits =>
    intro _ bytes found
    exact Nat.le_trans (shows.holds bytes found).fits roomy
  have ended := polls.runFailing
  have kept := polls.mapped_runFailing
  generalize (Receiver.poll room).runFailing (fun _ => false) exchange.receiver memory =
    outcome at ended kept
  obtain ⟨⟨result, left⟩, after⟩ := outcome
  cases result with
  | error fault =>
    obtain ⟨_, _, faulty, _⟩ := ended
    exact absurd faulty Action.not_fails
  | ok polled =>
    cases polled with
    | none =>
      have stale := ended.1
      rw [stands.consuming.seen, length, Sequence.isFresh_ofCount_succ] at stale
      contradiction
    | some message =>
      obtain ⟨_, rfl, shows, found, heads', write, duplicate⟩ := ended
      rw [last, Option.some.injEq] at found
      obtain ⟨header, payload⟩ := heads.unique heads' found
      have same : message = letter.message published.length := by
        obtain ⟨header', write', duplicate', payload'⟩ := message
        simp only at header payload write duplicate
        subst header payload write
        have new : (letter.header (number published.length)).number ≠ exchange.receiver.delivered := by
          rw [stands.delivered, settled, length]
          exact number_succ_ne _
        rw [duplicate, beq_false_of_ne new]
        rfl
      rw [same]
      exact ⟨after, rfl, shows, kept⟩

/-- An acknowledge tells the number of the message that was polled last. -/
theorem acknowledge {message : Message} (held : exchange.held = some message)
    (shows : d.Shows memory published latest ⟨.ofCount settled, slot⟩) :
    ∃ after, (Receiver.acknowledge message).runFailing (fun _ => false) exchange.receiver memory =
        ((.ok (), { exchange.receiver with delivered := number (polled before).length }), after) ∧
      d.Shows after published latest
        ⟨.ofCount (polled before).length, exchange.receiver.buffer.reading⟩ ∧
      ∀ address, after.Mapped address ↔ memory.Mapped address := by
  obtain ⟨write, numbered⟩ := stands.written message held
  have answers : (Receiver.acknowledge message).Ensures (Action.Fails fun _ => false) anyAccess
      exchange.receiver memory _ _ := Receiver.acknowledge_shows stands.consuming shows
  have ended := answers.runFailing
  have kept := answers.mapped_runFailing
  generalize (Receiver.acknowledge message).runFailing (fun _ => false) exchange.receiver memory =
    outcome at ended kept
  obtain ⟨⟨result, left⟩, after⟩ := outcome
  cases result with
  | error fault =>
    obtain ⟨_, _, faulty, _⟩ := ended
    exact absurd faulty Action.not_fails
  | ok done =>
    obtain ⟨rfl, shows⟩ := ended
    rw [write] at shows
    rw [numbered]
    exact ⟨after, rfl, shows, kept⟩

end Stands

/-- Memories that show the same have the same control words. -/
theorem agree_of_shows {control : ControlWord} {other : SharedMemory}
    (shows : d.Shows memory published latest control) (too : d.Shows other published latest control)
    (mapped : ∀ address, other.Mapped address ↔ memory.Mapped address) :
    SharedMemory.Agree d.IsControl memory other where
  mapped := mapped
  loads address chosen := by
    cases chosen with
    | inl producer => rw [producer, shows.producer, too.producer]
    | inr consumer => rw [consumer, shows.consumer, too.consumer]

namespace Stands

/-- A call that neither posts nor polls a message makes no difference, whatever it leaves in memory. -/
theorem quiet (memory : SharedMemory) {sight : Sight}
    (stands : Stands d before published settled exchange)
    (silent : posted [sight] = []) (idle : polled [sight] = []) :
    Stands d (before ++ [sight]) published settled { exchange with memory } where
  producing := stands.producing
  numbered := stands.numbered
  consuming := by simpa [idle] using stands.consuming
  delivered := stands.delivered
  held := by simpa [idle] using stands.held
  written := by simpa [idle] using stands.written
  length := by simpa [silent] using stands.length
  latest := by simpa [silent] using stands.latest
  taken := by simpa [idle] using stands.taken
  ahead := stands.ahead
  conveyed := by simpa [silent, idle] using stands.conveyed
  closed equal := (stands.closed equal).keep silent

/-- A post succeeds when the letters before it are settled. -/
theorem ready (stands : Stands d before published settled exchange)
    (answered : Sequence.ofCount published.length = Sequence.ofCount settled) :
    settled = published.length := by
  have taken := stands.taken
  have ahead := stands.ahead
  have behind := stands.behind
  by_contra apart
  have next : published.length = settled + 1 := by omega
  rw [next] at answered
  exact Sequence.ofCount_succ_ne settled answered

/-- A post that succeeds adds its letter. -/
theorem post {letter : Letter} {result : MessageNumber} {left : Sender}
    (stands : Stands d before published settled exchange) (equal : settled = published.length)
    (same : left = { exchange.sender with next := exchange.sender.next.next })
    (fits : ¬ Sender.Oversize d letter.payload) :
    Stands d (before ++ [.posted letter (.ok result)])
      (published ++ [letter.bytes exchange.sender.next]) settled
      { exchange with sender := left, memory } := by
  have taken := stands.taken
  have behind := stands.behind
  have sees : posted [.posted letter (.ok result)] = [letter] := rfl
  have idle : polled [.posted letter (.ok result)] = [] := rfl
  have grown : (published ++ [letter.bytes exchange.sender.next]).length = published.length + 1 :=
    List.length_append
  constructor
  case producing => rw [same]; exact stands.producing
  case numbered => rw [same, grown, stands.numbered]; rfl
  case consuming => simpa [idle] using stands.consuming
  case delivered => exact stands.delivered
  case held => simpa [idle] using stands.held
  case written => simpa [idle] using stands.written
  case length => simp [sees, stands.length]
  case latest =>
    intro other last
    rw [posted_append, sees, List.getLast?_concat, Option.some.injEq] at last
    subst last
    rw [grown, stands.numbered, List.getLast?_concat]
    constructor
    · rfl
    · have heads : (Sender.header ⟨exchange.sender.buffer, letter.channel, exchange.sender.next⟩
          (number (published.length + 1)) false letter.format letter.payload).Heads
            letter.payload := Sender.header_heads (number_succ_ne_zero _) fits
      exact heads
  case taken => simpa [idle] using taken
  case ahead => omega
  case conveyed =>
    refine ⟨[letter], ?_⟩
    rw [posted_append, polled_append, sees, idle, List.append_nil, stands.all (by omega)]
  case closed =>
    intro finished
    omega

/-- A poll that returns a message takes its letter. -/
theorem poll {letter : Letter} {left : Receiver} (stands : Stands d before published settled exchange)
    (next : posted before = (polled before).map Message.letter ++ [letter])
    (same : left =
      { exchange.receiver with buffer := exchange.receiver.buffer.taken published latest }) :
    Stands d (before ++ [.polled (.ok (some (letter.message published.length)))]) published settled
      { exchange with receiver := left, memory, held := some (letter.message published.length) } := by
  have length : published.length = (polled before).length + 1 := by
    rw [stands.length, next, List.length_append, List.length_map, List.length_singleton]
  have silent : posted [.polled (.ok (some (letter.message published.length)))] = [] := rfl
  have sees : polled [.polled (.ok (some (letter.message published.length)))] =
      [letter.message published.length] := rfl
  have count : (polled before ++ [letter.message published.length]).length = published.length := by
    rw [List.length_append, length]
    rfl
  have taken := stands.taken
  constructor
  case producing => exact stands.producing
  case numbered => exact stands.numbered
  case consuming =>
    have seen := stands.consuming.taken published latest
    unfold TripleBuffer.seenAfter at seen
    rw [length, Sequence.isFresh_ofCount_succ, if_pos rfl, ← length] at seen
    rw [polled_append, sees, count, same]
    exact seen
  case delivered => rw [same]; exact stands.delivered
  case held => rw [polled_append, sees, List.getLast?_concat]
  case written =>
    intro message equal
    rw [polled_append, sees, count]
    cases equal
    exact ⟨rfl, rfl⟩
  case length => simpa [silent] using stands.length
  case latest => simpa [silent] using stands.latest
  case taken =>
    rw [polled_append, sees, count, length]
    omega
  case ahead => exact stands.ahead
  case conveyed =>
    refine ⟨[], ?_⟩
    rw [posted_append, polled_append, silent, sees, List.append_nil, List.append_nil, next,
      List.map_append]
    rfl
  case closed =>
    intro equal
    omega

/-- An acknowledge settles all that was polled. -/
theorem acknowledged (memory : SharedMemory) {left : Receiver}
    (stands : Stands d before published settled exchange)
    (same : left = { exchange.receiver with delivered := number (polled before).length }) :
    Stands d (before ++ [.acknowledged (.ok ())]) published (polled before).length
      { exchange with receiver := left, memory } := by
  have silent : posted [.acknowledged (.ok ())] = [] := rfl
  have idle : polled [.acknowledged (.ok ())] = [] := rfl
  have behind := stands.behind
  have taken := stands.taken
  have ahead := stands.ahead
  constructor
  case producing => exact stands.producing
  case numbered => exact stands.numbered
  case consuming => simpa [idle, same] using stands.consuming
  case delivered => rw [same]
  case held => simpa [idle] using stands.held
  case written => simpa [idle] using stands.written
  case length => simpa [silent] using stands.length
  case latest => simpa [silent] using stands.latest
  case taken => simp [idle]
  case ahead => omega
  case conveyed => simpa [silent, idle] using stands.conveyed
  case closed =>
    intro equal
    right
    refine ⟨before, [], rfl, ?_⟩
    rw [posted_append, silent, List.append_nil]
    exact (stands.all equal.symm).symm

end Stands

/-- A call that may be seen after others, and leaves exchanges that no later one tells apart. -/
def Agrees (d : Descriptor) (before : List Sight) (first second : Sight × Exchange) : Prop :=
  second.1 = first.1 ∧ Expected before first.1 ∧ Twins d (before ++ [first.1]) first.2 second.2

theorem post_agrees {fails : Nat → Bool} {format : UInt8} {payload : Bytes}
    (twins : Twins d before first second) :
    Agrees d before (first.call (.post fails format payload))
      (second.call (.post fails format payload)) := by
  obtain ⟨published, latest, slot, settled, stands, shows, too, mapped, same⟩ := twins
  have posts {memory : SharedMemory} (shows : d.Shows memory published latest ⟨.ofCount settled, slot⟩) :=
    show (Sender.post format payload).Ensures (Action.Fails fails) (LoadsFrom d.IsControl) first.sender
      memory _ _ from Sender.post_shows stands.producing shows
  have ended := (posts shows).runFailing
  have kept := (posts shows).mapped_runFailing
  have ended' := (posts too).runFailing
  have kept' := (posts too).mapped_runFailing
  have alike := (posts shows).runFailing_agree (agree_of_shows shows too mapped)
  rw [same]
  simp only [Exchange.call]
  generalize (Sender.post format payload).runFailing fails first.sender first.memory =
    outcome at ended kept alike
  generalize (Sender.post format payload).runFailing fails first.sender second.memory =
    outcome' at ended' kept' alike
  obtain ⟨⟨result, left⟩, after⟩ := outcome
  obtain ⟨_, after'⟩ := outcome'
  cases alike
  have mapped (address : Nat) : after'.Mapped address ↔ after.Mapped address :=
    (kept' address).trans ((mapped address).trans (kept address).symm)
  refine ⟨rfl, ?_⟩
  cases result with
  | error fault =>
    obtain ⟨rfl, shows, _⟩ := ended
    obtain ⟨_, too, _⟩ := ended'
    constructor
    · exact .refused _ fault
    · exact ⟨_, _, _, _, stands.quiet _ rfl rfl, shows, too, mapped, rfl⟩
  | ok number =>
    obtain ⟨rfl, rfl, ready, fits, shows⟩ := ended
    obtain ⟨_, _, _, _, too⟩ := ended'
    have equal := stands.ready ready
    constructor
    · exact .posted _ _ (stands.closed equal)
    · exact ⟨_, _, _, _, stands.post equal rfl fits, shows, too, mapped, rfl⟩

theorem setChannel_agrees {channel : UInt8} (twins : Twins d before first second) :
    Agrees d before (first.call (.setChannel channel)) (second.call (.setChannel channel)) := by
  obtain ⟨published, latest, slot, settled, stands, shows, too, mapped, same⟩ := twins
  rw [same]
  refine ⟨rfl, .switched, _, _, _, _, ?_, shows, too, mapped, rfl⟩
  have quiet : Stands d (before ++ [.switched]) _ _ _ := stands.quiet first.memory rfl rfl
  exact { quiet with producing := ⟨stands.producing.role, stands.producing.region⟩ }

theorem poll_agrees {room : Nat} (roomy : d.size ≤ room) (twins : Twins d before first second) :
    Agrees d before (first.call (.poll room)) (second.call (.poll room)) := by
  obtain ⟨published, latest, slot, settled, stands, shows, too, mapped, same⟩ := twins
  rw [same]
  simp only [Exchange.call]
  by_cases none : published.length = (polled before).length
  · rw [stands.poll_stale none shows, stands.poll_stale none too]
    refine ⟨rfl, .stale (stands.all none), ?_⟩
    exact ⟨_, _, _, _, stands.quiet _ rfl rfl, shows, too, mapped, rfl⟩
  · have behind := stands.behind
    obtain ⟨letter, next⟩ := stands.next (by omega)
    obtain ⟨after, ran, shows, kept⟩ := stands.poll_fresh roomy next shows
    obtain ⟨after', ran', too, kept'⟩ := stands.poll_fresh roomy next too
    have mapped (address : Nat) : after'.Mapped address ↔ after.Mapped address :=
      (kept' address).trans ((mapped address).trans (kept address).symm)
    rw [ran, ran']
    refine ⟨rfl, .fresh _ rfl rfl next, ?_⟩
    exact ⟨_, _, _, _, stands.poll next rfl, shows, too, mapped, rfl⟩

theorem acknowledge_agrees (twins : Twins d before first second) :
    Agrees d before (first.call .acknowledge) (second.call .acknowledge) := by
  obtain ⟨published, latest, slot, settled, stands, shows, too, mapped, same⟩ := twins
  rw [same]
  simp only [Exchange.call]
  cases held : first.held with
  | none =>
    have none : polled before = [] := List.getLast?_eq_none_iff.mp (stands.held.symm.trans held)
    refine ⟨rfl, .idle none, ?_⟩
    exact ⟨_, _, _, _, stands.quiet _ rfl rfl, shows, too, mapped, by simp only [held]⟩
  | some message =>
    obtain ⟨after, ran, shows, kept⟩ := stands.acknowledge held shows
    obtain ⟨after', ran', too, kept'⟩ := stands.acknowledge held too
    have mapped (address : Nat) : after'.Mapped address ↔ after.Mapped address :=
      (kept' address).trans ((mapped address).trans (kept address).symm)
    have acknowledged := stands.acknowledged after rfl
    rw [held] at acknowledged
    simp only [ran, ran']
    exact ⟨rfl, .acknowledged, _, _, _, _, acknowledged, shows, too, mapped, rfl⟩

/-- A poll has room for any message. -/
def Call.Roomy (d : Descriptor) : Call → Prop
  | .poll room => d.size ≤ room
  | _ => True

theorem call_agrees {call : Call} (roomy : call.Roomy d) (twins : Twins d before first second) :
    Agrees d before (first.call call) (second.call call) := by
  cases call with
  | post fails format payload => exact post_agrees twins
  | setChannel channel => exact setChannel_agrees twins
  | poll room => exact poll_agrees roomy twins
  | acknowledge => exact acknowledge_agrees twins

theorem log_agrees {calls : List Call} (roomy : ∀ call ∈ calls, call.Roomy d)
    (twins : Twins d before first second) :
    second.log calls = first.log calls ∧
      (∀ earlier sight later, first.log calls = earlier ++ sight :: later →
        Expected (before ++ earlier) sight) ∧
      Twins d (before ++ first.log calls) (first.after calls) (second.after calls) := by
  induction calls generalizing before first second with
  | nil =>
    refine ⟨rfl, ?_, ?_⟩
    · intro earlier sight later split
      have lengths := congrArg List.length split
      simp [Exchange.log] at lengths
    · simpa [Exchange.log, Exchange.after] using twins
  | cons call rest ih =>
    obtain ⟨same, expected, twins⟩ := call_agrees (roomy call List.mem_cons_self) twins
    obtain ⟨alike, all, twins⟩ := ih (fun call member => roomy call (List.mem_cons_of_mem _ member)) twins
    refine ⟨?_, ?_, ?_⟩
    · simp only [Exchange.log, same, alike]
    · intro earlier sight later split
      cases earlier with
      | nil =>
        obtain ⟨rfl, _⟩ := List.cons.inj split
        rw [List.append_nil]
        exact expected
      | cons head earlier =>
        obtain ⟨rfl, rest⟩ := List.cons.inj split
        have found := all earlier sight later rest
        rwa [List.append_assoc, List.singleton_append] at found
    · rwa [List.append_assoc, List.singleton_append] at twins

theorem setUp_twins {owner : Role} {channel : UInt8} {start : Exchange}
    (made : Exchange.setUp owner d channel memory = .ok start) : Twins d [] start start := by
  unfold Exchange.setUp at made
  split at made
  · contradiction
  rename_i producing consuming after connected
  obtain ⟨produces, consumes, shows⟩ := TripleBuffer.connected_shows connected
  have sender : Sender.new producing channel = .ok ⟨producing, channel, .first⟩ := if_pos produces.role
  have receiver : Receiver.new consuming = .ok ⟨consuming, .none⟩ := if_pos consumes.role
  rw [sender, receiver] at made
  cases made
  refine ⟨[], 0, _, 0, ?_, shows, shows, fun _ => Iff.rfl, rfl⟩
  exact {
    producing := produces
    numbered := rfl
    consuming := consumes
    delivered := rfl
    held := rfl
    written := nofun
    length := rfl
    latest := nofun
    taken := Nat.le_refl _
    ahead := Nat.zero_le _
    conveyed := ⟨[], rfl⟩
    closed := fun _ => .inl rfl }

/-- A post that fails leaves an exchange that no later call tells from the one before it. -/
theorem post_failed_twins {fails : Nat → Bool} {format : UInt8} {payload : Bytes} {letter : Letter}
    {fault : Fault} (twins : Twins d before first first)
    (failed : (first.call (.post fails format payload)).1 = .posted letter (.error fault)) :
    Twins d before first (first.call (.post fails format payload)).2 := by
  obtain ⟨published, latest, slot, settled, stands, shows, _, _, _⟩ := twins
  have posts : (Sender.post format payload).Ensures (Action.Fails fails) (LoadsFrom d.IsControl)
      first.sender first.memory _ _ := Sender.post_shows stands.producing shows
  have ended := posts.runFailing
  have kept := posts.mapped_runFailing
  simp only [Exchange.call] at failed ⊢
  generalize (Sender.post format payload).runFailing fails first.sender first.memory =
    outcome at ended kept failed ⊢
  obtain ⟨⟨result, left⟩, after⟩ := outcome
  cases failed
  obtain ⟨rfl, too, _⟩ := ended
  exact ⟨published, latest, slot, settled, stands, shows, too, kept, rfl⟩

/-- Every message posted is polled once, in order and as it was posted, before the next one is posted;
the last one may be still to come. A post that fails leaves the sender as it was, and all that is seen
later is as without it. -/
theorem messages_conveyed_in_order {owner : Role} {channel : UInt8} {start : Exchange}
    (made : Exchange.setUp owner d channel memory = .ok start) (calls : List Call)
    (roomy : ∀ call ∈ calls, call.Roomy d) :
    (∃ waiting, posted (start.log calls) = (polled (start.log calls)).map Message.letter ++ waiting ∧
        waiting.length ≤ 1) ∧
      (∀ before sight later, start.log calls = before ++ sight :: later → Expected before sight) ∧
      ∀ before fails format payload later letter fault,
        calls = before ++ .post fails format payload :: later →
        ((start.after before).call (.post fails format payload)).1 = .posted letter (.error fault) →
          ((start.after before).call (.post fails format payload)).2.sender =
              (start.after before).sender ∧
            ((start.after before).call (.post fails format payload)).2.log later =
              (start.after before).log later := by
  have twins := setUp_twins made
  obtain ⟨_, expected, last⟩ := log_agrees roomy twins
  refine ⟨?_, expected, ?_⟩
  · obtain ⟨published, latest, slot, settled, stands, _⟩ := last
    obtain ⟨waiting, split⟩ := stands.conveyed
    have counts := congrArg List.length split
    have taken := stands.taken
    have ahead := stands.ahead
    rw [← stands.length, List.length_append, List.length_map] at counts
    exact ⟨waiting, split, by omega⟩
  · intro before fails format payload later letter fault split failed
    have earlier (call : Call) (member : call ∈ before) : call.Roomy d :=
      roomy call (split ▸ List.mem_append_left _ member)
    have rest (call : Call) (member : call ∈ later) : call.Roomy d :=
      roomy call (split ▸ List.mem_append_right _ (List.mem_cons_of_mem _ member))
    obtain ⟨_, _, here⟩ := log_agrees earlier twins
    have left := post_failed_twins here failed
    obtain ⟨alike, _, _⟩ := log_agrees rest left
    obtain ⟨_, _, _, _, _, _, _, _, same⟩ := left
    rw [same]
    rw [same] at alike
    exact ⟨rfl, alike⟩

/-- The first post fails while it fills its slot. The next message is polled once, acknowledged, and
acknowledged again when the one after it is posted. -/
theorem messages_conveyed_in_order_interrupted :
    let never : Nat → Bool := fun _ => false
    let later : List Call := [.post never 1 [20], .post never 1 [30], .poll 16, .acknowledge,
      .setChannel 7, .post never 2 [30], .acknowledge, .poll 16, .poll 16]
    let failing : Call := .post (· == 5) 1 [10]
    ∃ start, Exchange.setUp .producer ⟨.logbook, 0, 16⟩ 3 (.zeroed 0 25) = .ok start ∧
      (∀ call ∈ failing :: later, call.Roomy ⟨.logbook, 0, 16⟩) ∧
      start.log (failing :: later) = [.posted ⟨1, 3, [10]⟩ (.error (.error .medium)),
        .posted ⟨1, 3, [20]⟩ (.ok 1), .posted ⟨1, 3, [30]⟩ (.error .busy),
        .polled (.ok (some ⟨⟨1, false, 1, 3, 1⟩, 1, false, [20]⟩)), .acknowledged (.ok ()), .switched,
        .posted ⟨2, 7, [30]⟩ (.ok 2), .acknowledged (.ok ()),
        .polled (.ok (some ⟨⟨2, false, 2, 7, 1⟩, 2, false, [30]⟩)), .polled (.ok none)] ∧
      (start.call failing).2.log later = start.log later := by
  intro never later failing
  have roomy : ∀ call ∈ failing :: later, call.Roomy ⟨.logbook, 0, 16⟩ := by
    simp [failing, later, Call.Roomy]
  refine ⟨_, rfl, roomy, by decide +kernel, ?_⟩
  have conveyed := @messages_conveyed_in_order ⟨.logbook, 0, 16⟩ (.zeroed 0 25) .producer 3 _ rfl _ roomy
  exact (conveyed.2.2 [] _ _ _ _ ⟨1, 3, [10]⟩ (.error .medium) rfl (by decide +kernel)).2

end NodeLink.Channel

import NodeLink.Async.Receiver
import NodeLink.Async.Sender
import NodeLink.Proofs.Acyclic
import NodeLink.Proofs.Safety.Reader

/-! The async buffer as an acyclic channel. A message is handled when its frame was given to a handler, or
when the reason not to is reported. It is judged before the acknowledge. If that fails, the message was
handled, but the failure takes the place of the report. -/
namespace NodeLink.Async

open Channel (Custody Keeps)
open TripleBuffer (anyAccess)

/-- A call of the sending end. -/
inductive Request where
  | post (format : Channel.Format) (message : Bytes)
  | transmit (message : Bytes)
  | setChannel (channel : UInt8)

/-- A message, with the format and channel that its header names. -/
structure Post where
  format : Channel.Format
  channel : UInt8
  message : Bytes

/-- The frame in a message, if it is of the format named. -/
def Post.frame (post : Post) : Except Error Safety.Frame := do
  let frame ← Safety.Frame.ofMessage post.message
  if frame.format = post.format then .ok frame else .error .malformed

/-- The format that the first byte of a message tells. -/
def announced : Bytes → Option Channel.Format
  | [] => none
  | first :: _ => (Channel.Format.ofByte first).toOption

inductive Handles (channels : List UInt8) (post : Post) (events : List Host.Event) :
    Except Fault Bool → Prop where
  | delivered {frame : Safety.Frame} (registered : post.channel ∈ channels)
      (framed : post.frame = .ok frame) (given : ⟨.deliverFrame post.channel frame, ()⟩ ∈ events) :
      Handles channels post events (.ok true)
  | dropped {error : Error} (registered : post.channel ∈ channels) (framed : post.frame = .error error) :
      Handles channels post events (.error (.error error))
  | unserved (registered : post.channel ∈ channels) (asked : ⟨.serves post.channel, false⟩ ∈ events) :
      Handles channels post events (.error (.error (.unknownChannel post.channel)))
  | unregistered (unregistered : post.channel ∉ channels) :
      Handles channels post events (.error (.error (.unknownChannel post.channel)))

/-- The channel, with the logical channel of the first posts as its option. -/
def acyclic : Acyclic where
  Producer := Sender
  Consumer := Receiver
  Item := Post
  Request := Request
  Report := Bool
  Setting := UInt8
  Options := UInt8
  produce channel buffer := Sender.new buffer channel
  consume := Receiver.new
  receiver receiver := receiver.receiver
  serve
    | .post format message => Sender.post format message
    | .transmit message => Sender.transmit message
    | .setChannel channel => Action.modify (·.onChannel channel)
  posts sender
    | .post format message => some ⟨format, sender.sender.channel, message⟩
    | .transmit message => (announced message).map fun format => ⟨format, sender.sender.channel, message⟩
    | .setChannel _ => none
  ready := Sender.ready
  configure channel receiver := (receiver.register channel).toOption.getD receiver
  process := Receiver.process
  Handles receiver := Handles receiver.channels

structure Post.Tells (post : Post) (header : Channel.Header) (payload : Bytes) : Prop where
  format : header.format = post.format.toByte
  channel : header.channel = post.channel
  payload : payload = post.message

def terms : Acyclic.Terms acyclic where
  Offers d count sender := Channel.Offers d count sender.sender
  Tells := Post.Tells

variable {faults : Prop} {d : Descriptor} {count : Nat} {custody : Custody}
  {inner : Channel.Receiver} {memory : SharedMemory} {sender : Sender} {receiver : Receiver}
  {world : World} {header : Channel.Header} {payload : Bytes} {post : Post}
  {message : Channel.Message}

theorem Sender.ready_ensures (offers : Channel.Offers d (custody.posted count) sender.sender)
    (keeps : Keeps d count custody inner memory) :
    ready.Ensures faults anyAccess sender memory
      (fun answer left after => (answer = true ↔ custody = .settled) ∧ left = sender ∧ after = memory)
      fun _ left after => faults ∧ left = sender ∧ after = memory := by
  unfold ready onSender
  exact keeps.part_ready rfl offers.producing

theorem Sender.post_ensures (format : Channel.Format) (message : Bytes)
    (offers : Channel.Offers d (custody.posted count) sender.sender)
    (keeps : Keeps d count custody inner memory) :
    (Sender.post format message).Ensures faults anyAccess sender memory
      (fun _ => terms.Posted d count custody inner (some ⟨format, sender.sender.channel, message⟩))
      fun _ => terms.Posted d count custody inner none := by
  apply Action.Ensures.bind (fun _ left after =>
    terms.Posted d count custody inner (some ⟨format, sender.sender.channel, message⟩) left after)
  · apply Action.ensures_part
    apply (keeps.post offers).mono (fun _ granted => granted)
    · intro _ left after posted
      obtain ⟨rfl, rfl, keeps⟩ := posted
      exact ⟨rfl, offers.next, _, _, ⟨rfl, rfl, rfl⟩, keeps⟩
    · intro fault left after refused
      obtain ⟨rfl, keeps⟩ := refused
      exact ⟨offers, keeps⟩
  · intro _ left after posted
    exact posted

theorem Sender.transmit_ensures (message : Bytes)
    (offers : Channel.Offers d (custody.posted count) sender.sender)
    (keeps : Keeps d count custody inner memory) :
    (transmit message).Ensures faults anyAccess sender memory
      (fun _ => terms.Posted d count custody inner
        ((announced message).map fun format => ⟨format, sender.sender.channel, message⟩))
      fun _ => terms.Posted d count custody inner none := by
  cases message with
  | nil => exact ⟨offers, keeps⟩
  | cons first rest =>
    simp only [announced]
    apply Action.ofExcept_then
    · intro format known
      rw [known]
      exact post_ensures format (first :: rest) offers keeps
    · intro error unknown
      exact ⟨offers, keeps⟩

theorem Post.Tells.frameOf (tells : post.Tells message.header message.payload) :
    Receiver.frameOf message = post.frame := by
  have same (format : Channel.Format) :
      format.toByte = message.header.format ↔ format = post.format := by
    rw [tells.format]
    cases format <;> cases post.format <;> decide
  unfold Receiver.frameOf Post.frame
  simp only [same, tells.payload]

theorem Post.frame_ne_medium : post.frame ≠ .error .medium := by
  have refuses : Safety.Refuses post.frame := by
    apply Safety.Refuses.bind (Safety.Frame.ofMessage_refuses _)
    intro frame
    exact .ite (.ok _) .malformed
  intro lost
  cases refuses _ lost <;> contradiction

/-- What giving a message to its handler comes to. The memory has no part in it. -/
structure Judged (receiver : Receiver) (world : World) (post : Post) (result : Except Fault Unit)
    (left : Receiver) (after : World) : Prop where
  same : left = receiver
  memory : after.memory = world.memory
  sound : result ≠ .error (.error .medium)
  handles : ∃ more, after.events = world.events ++ more ∧
    Handles receiver.channels post more (result.map fun _ => true)

theorem Receiver.dispatch_judges (tells : post.Tells message.header message.payload) :
    (dispatch message).Meets faults receiver world
      (fun done => Judged receiver world post (.ok done))
      fun fault => Judged receiver world post (.error fault) := by
  have channel : message.header.channel = post.channel := tells.channel
  unfold dispatch
  simp only [channel]
  apply Action.Meets.get_then
  split
  · rename_i registered
    apply Action.Meets.ask_then
    · intro access same
      cases same
    · intro serves asked memory told
      cases serves with
      | false => exact ⟨rfl, memory, nofun, _, told, .unserved registered List.mem_cons_self⟩
      | true =>
        simp only [if_true, tells.frameOf]
        cases framed : post.frame with
        | error error =>
          refine ⟨rfl, memory, ?_, _, told, .dropped registered framed⟩
          rintro ⟨⟩
          exact Post.frame_ne_medium framed
        | ok frame =>
          apply Action.Meets.ofExcept_then rfl
          apply Action.Meets.ask
          · intro access same
            cases same
          · intro answer after quiet given
            rw [told, List.append_assoc] at given
            refine ⟨rfl, quiet.trans memory, nofun, _, given, .delivered registered framed ?_⟩
            exact List.mem_append_right _ List.mem_cons_self
  · rename_i unregistered
    exact ⟨rfl, rfl, nofun, [], (List.append_nil _).symm, .unregistered unregistered⟩

theorem Receiver.process_handles (tells : post.Tells header payload)
    (keeps : Keeps d count (.waiting header payload) receiver.receiver world.memory) :
    Receiver.process.Meets faults receiver world
      (fun report => Acyclic.Processed acyclic faults d count header payload post
        receiver world.events (.ok report))
      fun fault => Acyclic.Processed acyclic faults d count header payload post
        receiver world.events (.error fault) := by
  apply keeps.poll_some_then
  · intro message inner after headed same single due owed quiet
    rw [← headed, ← same] at tells
    simp only [single]
    apply Action.Meets.bind _ (Action.Meets.outcome (dispatch_judges tells))
    intro result left judged ended
    obtain ⟨rfl, memory, sound, more, told, handles⟩ := ended
    rw [quiet] at told
    rw [← memory] at owed
    apply owed.acknowledge_then due
    · intro inner last settled same
      rw [told] at same
      cases result with
      | error fault =>
        refine .handled same ?_ handles settled
        intro equal
        exact sound (congrArg Except.error (Except.error.inj equal))
      | ok done => exact .handled same nofun handles settled
    · intro inner last allowed owed
      exact .lost allowed owed
  · intro inner after allowed waiting
    exact .missed allowed waiting

theorem lawful : terms.Lawful where
  produces {d channel buffer sender} produces made := by
    obtain ⟨inner, opened, offers⟩ := Channel.Offers.new channel produces
    change Sender.new buffer channel = .ok sender at made
    unfold Sender.new at made
    rw [opened] at made
    cases made
    exact offers
  consumes {d buffer receiver} consumes made := by
    change Receiver.new buffer = .ok receiver at made
    unfold Receiver.new at made
    rw [Channel.Receiver.new_of_consumes consumes] at made
    cases made
    rfl
  serves request offers keeps := by
    cases request with
    | post format message => exact Sender.post_ensures format message offers keeps
    | transmit message => exact Sender.transmit_ensures message offers keeps
    | setChannel channel => exact ⟨⟨offers.producing, offers.numbered⟩, keeps⟩
  answers offers keeps := Sender.ready_ensures offers keeps
  configures channel receiver := by
    change ((receiver.register channel).toOption.getD receiver).receiver = receiver.receiver
    unfold Receiver.register
    split
    · rfl
    · split
      · rfl
      · rfl
  rests polls keeps := by
    apply keeps.poll_none_then polls
    · intro inner after kept _
      exact kept
    · intro inner after _ kept
      exact kept
  processes tells keeps := Receiver.process_handles tells keeps

end NodeLink.Async

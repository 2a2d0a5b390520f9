import NodeLink.Logbook.Consumer
import NodeLink.Logbook.Producer
import NodeLink.Proofs.Acyclic
import NodeLink.Proofs.Timer.Shared

/-! The logbook as an acyclic channel. A record is handled when it was handed on. It is handed on after
the acknowledge, so one whose acknowledge fails is lost. -/
namespace NodeLink.Logbook

open Channel (Custody Keeps)
open TripleBuffer (anyAccess)

/-- A call of the application's end. -/
inductive Request where
  | post (entry : Entry)
  | tick

inductive Handles (entry : Entry) (events : List Host.Event) : Except Fault Bool → Prop where
  | recorded (handed : ⟨.record entry, ()⟩ ∈ events) : Handles entry events (.ok true)

/-- The channel, with the timeout and the pool of timers as its options. -/
def acyclic : Acyclic where
  Producer := Producer.State
  Consumer := Consumer
  Item := Entry
  Request := Request
  Report := Bool
  Setting := Empty
  Options := Nat × TimerPool
  produce options buffer := Producer.new buffer options.1 options.2
  consume := Consumer.new
  receiver consumer := consumer.receiver
  serve
    | .post entry => Producer.post entry
    | .tick => Producer.tick
  posts _
    | .post entry => some entry
    | .tick => none
  ready := Producer.ready
  configure setting _ := nomatch setting
  process := Consumer.process
  Handles _ := Handles

/-- The sender is where it was left, and the timer is in use. -/
structure Producer.Offers (d : Descriptor) (count : Nat) (state : Producer.State) : Prop where
  sender : Channel.Offers d count state.1.sender
  live : state.2.Live state.1.timer

def terms : Acyclic.Terms acyclic where
  Offers := Producer.Offers
  Tells entry _ payload := payload = entry.toBytes

variable {faults : Prop} {d : Descriptor} {count : Nat} {custody : Custody}
  {receiver : Channel.Receiver} {memory : SharedMemory}

namespace Producer

variable {state : State} {posted : Nat}

theorem new_offers {buffer : TripleBuffer} {timeout : Nat} {pool : TimerPool}
    (produces : buffer.Produces d) (made : new buffer timeout pool = .ok state) : Offers d 0 state := by
  obtain ⟨sender, opened, offers⟩ := Channel.Offers.new 0 produces
  unfold new at made
  split at made
  · contradiction
  rw [opened] at made
  cases created : pool.create timeout with
  | error error =>
    rw [created] at made
    contradiction
  | ok place =>
    rw [created] at made
    cases made
    exact ⟨offers, TimerPool.live_of_create created⟩

theorem phase_ensures (live : state.2.Live state.1.timer) :
    phase.Ensures faults anyAccess state memory
      (fun _ left after => left = state ∧ after = memory) fun _ _ _ => False := by
  obtain ⟨found, read⟩ := live.phase
  apply Action.get_then
  change Action.Ended _ _ ((state.2.phase state.1.timer).mapError Fault.error, state) memory
  rw [read]
  exact ⟨rfl, rfl⟩

theorem ready_ensures (offers : Offers d (custody.posted count) state)
    (keeps : Keeps d count custody receiver memory) :
    ready.Ensures faults anyAccess state memory
      (fun answer left after => (answer = true ↔ custody = .settled) ∧ left = state ∧ after = memory)
      fun _ left after => faults ∧ left = state ∧ after = memory := by
  unfold ready onSender
  exact keeps.part_ready rfl offers.sender.producing

theorem post_ensures (entry : Entry) (offers : Offers d (custody.posted count) state)
    (keeps : Keeps d count custody receiver memory) :
    (post entry).Ensures faults anyAccess state memory
      (fun _ => terms.Posted d count custody receiver (some entry))
      fun _ => terms.Posted d count custody receiver none := by
  apply Action.Ensures.bind (fun _ left after => custody = .settled ∧ Offers d (count + 1) left ∧
    ∃ header, Keeps d count (.waiting header entry.toBytes) receiver after)
  · apply Action.ensures_part
    apply (keeps.post offers.sender).mono (fun _ granted => granted)
    · intro _ left after posted
      obtain ⟨rfl, rfl, keeps⟩ := posted
      exact ⟨rfl, ⟨offers.sender.next, offers.live⟩, _, keeps⟩
    · intro fault left after refused
      obtain ⟨rfl, keeps⟩ := refused
      exact ⟨offers, keeps⟩
  · intro _ left after posted
    obtain ⟨settled, offers, header, keeps⟩ := posted
    obtain ⟨pool, started, live⟩ := offers.live.start
    exact .onTimer started ⟨settled, ⟨offers.sender, live⟩, header, _, rfl, keeps⟩

/-- Counting cycles leaves the record where it is. -/
theorem tick_ensures (offers : Offers d (custody.posted count) state)
    (keeps : Keeps d count custody receiver memory) :
    tick.Ensures faults anyAccess state memory
      (fun _ => terms.Posted d count custody receiver none)
      fun _ => terms.Posted d count custody receiver none := by
  apply Action.Ensures.bind _ ((phase_ensures offers.live).mono (fun _ granted => granted)
    (fun _ _ _ read => read) fun _ _ _ => False.elim)
  rintro phase state memory ⟨rfl, rfl⟩
  split
  · exact ⟨offers, keeps⟩
  apply Action.Ensures.bind _ ((ready_ensures offers keeps).mono (fun _ granted => granted)
    (fun _ _ _ answered => answered.2) ?_)
  · rintro answer _ _ ⟨rfl, rfl⟩
    split
    · obtain ⟨pool, stopped, live⟩ := offers.live.stop
      exact .onTimer stopped ⟨⟨offers.sender, live⟩, keeps⟩
    obtain ⟨pool, ticked, live⟩ := offers.live.tick
    refine .onTimer_then ticked ?_
    apply Action.Ensures.bind _ ((phase_ensures live).mono (fun _ granted => granted)
      (fun _ _ _ read => read) fun _ _ _ => False.elim)
    rintro expiry _ _ ⟨rfl, rfl⟩
    split
    · obtain ⟨pool, started, live⟩ := live.start
      exact .onTimer_then started ⟨⟨offers.sender, live⟩, keeps⟩
    · exact ⟨⟨offers.sender, live⟩, keeps⟩
  · rintro fault _ _ ⟨_, rfl, rfl⟩
    exact ⟨offers, keeps⟩

end Producer

theorem Consumer.process_handles {consumer : Consumer} {world : World} {header : Channel.Header}
    {entry : Entry}
    (keeps : Keeps d count (.waiting header entry.toBytes) consumer.receiver world.memory) :
    Consumer.process.Meets faults consumer world
      (fun report => Acyclic.Processed acyclic faults d count header entry.toBytes entry
        consumer world.events (.ok report))
      fun fault => Acyclic.Processed acyclic faults d count header entry.toBytes entry
        consumer world.events (.error fault) := by
  apply keeps.poll_some_then
  · intro message receiver after _ same single due owed quiet
    simp only [same, single]
    apply owed.acknowledge_then due
    · intro receiver after settled same
      rw [quiet] at same
      apply Action.Meets.ofExcept_then entry.decode_toBytes
      apply Action.Meets.ask_then
      · intro access same
        cases same
      · intro answer last memory told
        rw [← memory] at settled
        rw [same] at told
        exact .handled told nofun (.recorded List.mem_cons_self) settled
    · intro receiver after allowed owed
      exact .lost allowed owed
  · intro receiver after allowed waiting
    exact .missed allowed waiting

theorem lawful : terms.Lawful where
  produces := Producer.new_offers
  consumes {d buffer consumer} consumes made := by
    change Consumer.new buffer = .ok consumer at made
    unfold Consumer.new at made
    rw [Channel.Receiver.new_of_consumes consumes] at made
    cases made
    rfl
  serves request offers keeps := by
    cases request with
    | post entry => exact Producer.post_ensures entry offers keeps
    | tick => exact Producer.tick_ensures offers keeps
  answers offers keeps := Producer.ready_ensures offers keeps
  configures setting := nomatch setting
  rests polls keeps := by
    apply keeps.poll_none_then polls
    · intro receiver after kept _
      exact kept
    · intro receiver after _ kept
      exact kept
  processes {faults d count header payload item consumer world} tells keeps := by
    change payload = item.toBytes at tells
    subst tells
    exact Consumer.process_handles keeps

end NodeLink.Logbook

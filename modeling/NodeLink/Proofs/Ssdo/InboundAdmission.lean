import NodeLink.Proofs.Ssdo.InboundRetransmission

/-! Which of the frames that the network may send can be posted. A frame is taken when a channel could
carry it, whatever the slots of the buffer hold. One that fits a slot is posted as soon as it is the
oldest frame and the way is free. One that does not is refused with every call, and no other frame gets
past it. -/
namespace NodeLink.Ssdo.Inbound

open Channel (number headerSize)
open Channel.Sender (Oversize)
open TripleBuffer (anyAccess)

variable {d : Descriptor} {memory : SharedMemory} {published : List Bytes} {acked : Sequence}
  {frames : List QueuedFrame} {frame : QueuedFrame} {settled posted taken : Nat}
  {surroundings : Surroundings}

theorem eq_ok_of_toOption {α ε : Type} {result : Except ε α} {value : α}
    (told : result.toOption = some value) : result = .ok value := by
  cases result with
  | error error => contradiction
  | ok answer => exact congrArg Except.ok (Option.some.inj told)

/-- A channel carries whatever the network may send, so only the slots can be too small. -/
theorem oversize_iff {payload : Bytes} (admitted : payload.length ≤ maxPayload) :
    Oversize d payload ↔ d.size < headerSize + payload.length := by
  refine ⟨fun large => large.resolve_left fun long => ?_, .inr⟩
  simp only [Channel.maxMessage, headerSize, Channel.maxPayload] at long
  simp only [maxPayload] at admitted
  omega

namespace Producer

variable {state : State}

/-- The end has this frame to post, and nothing else to do before. -/
structure Offers (producer : Producer) (frame : QueuedFrame) : Prop where
  idle : producer.phase = .waitForFrame
  unasked : producer.repostRequested = false
  queued : producer.queue.head? = some frame

/-- The end once its oldest frame is written. -/
def posting (producer : Producer) : Producer :=
  { producer with
    sender.next := producer.sender.next.next
    pending := .head producer.sender.next
    phase := .waitForAcknowledge }

/-- With the way free, the oldest frame is posted if and only if it fits. -/
theorem Offers.process (offers : state.1.Offers frame)
    (sound : Sound d frames settled posted state) (carries : d.Carries memory published acked)
    (ready : Sequence.ofCount published.length = acked) :
    process.Ensures False anyAccess state memory
      (fun _ left after => ¬ Oversize d frame.payload ∧ left.1 = state.1.posting ∧
        d.Carries after (published ++ [state.1.message state.1.sender.next false frame]) acked)
      fun fault left _ => Oversize d frame.payload ∧ fault = .error .payloadTooLarge ∧
        left = state := by
  unfold Producer.process
  apply Action.get_then
  simp only [offers.idle, offers.unasked]
  unfold postHead
  apply Action.get_then
  simp only [offers.queued]
  refine Action.Ensures.bind (fun assigned left after => ¬ Oversize d frame.payload ∧
    assigned = state.1.sender.next ∧
    left = ({ state.1 with sender.next := state.1.sender.next.next }, state.2) ∧
    d.Carries after (published ++ [state.1.message state.1.sender.next false frame]) acked)
    (onSender_ensures ((Channel.Sender.post_ensures sound.producing carries).mono
      (fun _ granted => granted) ?_ ?_)) ?_
  · rintro _ _ after ⟨rfl, rfl, _, fits, carries⟩
    exact ⟨fits, rfl, rfl, carries⟩
  · rintro _ _ _ ⟨rfl, _, ⟨lost, _⟩ | ⟨large, rfl⟩ | ⟨unready, _⟩⟩
    · exact lost.elim
    · exact ⟨large, rfl, rfl⟩
    · exact absurd ready unready
  · rintro _ _ after ⟨fits, rfl, rfl, carries⟩
    exact Action.modify_then (await_ensures sound.live fun pool _ => ⟨fits, rfl, carries⟩)

end Producer

namespace System

variable {system : System}

/-- What a call of the producing end answers. -/
def answer {α : Type} (surroundings : Surroundings) (system : System)
    (action : Action Medium Producer.State α) : Except Fault α :=
  (action.onHost.run surroundings.onHost system.producer system.world).1.1

/-- Whether the latest message counts as acknowledged. -/
def ready (surroundings : Surroundings) (system : System) : Except Fault Bool :=
  system.answer surroundings (Producer.onSender Channel.Sender.ready)

theorem answer_ends {action : Action Medium Producer.State Unit}
    {ok : Unit → Producer.State → SharedMemory → Prop}
    {failed : Fault → Producer.State → SharedMemory → Prop}
    (holds : action.Ensures surroundings.Faulty anyAccess system.producer system.world.memory ok
      failed) :
    ∃ left world, system.produce surroundings action = { system with producer := left, world } ∧
      Action.Ended ok failed (system.answer surroundings action, left) world.memory := by
  refine ⟨_, _, rfl, ?_⟩
  have ended := holds.onHost.run surroundings
  unfold answer
  generalize action.onHost.run surroundings.onHost system.producer system.world = outcome
    at ended ⊢
  obtain ⟨⟨fault | _, left⟩, world⟩ := outcome <;> exact ended.1

theorem ready_eq (faultless : ¬ surroundings.Faulty)
    (sound : Producer.Sound d frames settled posted system.producer)
    (carries : d.Carries system.world.memory published acked) :
    system.ready surroundings = .ok (Sequence.ofCount published.length == acked) := by
  have looks : (Producer.onSender Channel.Sender.ready).Ensures False anyAccess system.producer
      system.world.memory
      (fun answered _ _ => answered = (Sequence.ofCount published.length == acked))
      fun _ _ _ => False := by
    refine Producer.onSender_ensures ((Channel.Sender.ready_ensures sound.producing carries).mono
      (fun _ granted => granted) ?_ ?_)
    · rintro _ _ _ ⟨answered, _⟩
      exact answered
    · rintro _ _ _ ⟨_, _, lost, _⟩
      exact lost
  have ended := (looks.of_faultless faultless).onHost.run surroundings
  unfold ready answer
  generalize (Producer.onSender Channel.Sender.ready).onHost.run surroundings.onHost system.producer
    system.world = outcome at ended ⊢
  obtain ⟨⟨fault | answered, left⟩, world⟩ := outcome
  · exact ended.1.elim
  · exact congrArg Except.ok ended.1

/-- What a turn adds to the frames that were accepted. -/
inductive Admits (system : System) : List QueuedFrame → Prop where
  | none : Admits system system.accepted
  | one (frame : QueuedFrame) (fits : frame.payload.length ≤ maxPayload) :
      Admits system (system.accepted ++ [frame])

theorem accept_admits (system : System) (arrival : Arrival) :
    system.Admits (system.accept arrival).accepted := by
  unfold System.accept
  split
  · exact .none
  rename_i producer accepted
  have fits : arrival.payload.length ≤ maxPayload := by
    refine Nat.not_lt.mp fun large => ?_
    simp only [Producer.accept, if_pos large] at accepted
    contradiction
  have stays : producer.queue = system.producer.1.queue → system.Admits (system.accepted ++
      producer.queue.toList.drop system.producer.1.queue.toList.length) := by
    intro same
    rw [same, List.drop_length, List.append_nil]
    exact .none
  cases Producer.accepts_of_accept accepted with
  | ignores => exact stays rfl
  | notes =>
    refine stays ?_
    unfold Producer.requestRepost
    split <;> rfl
  | enqueues queue grown =>
    change system.Admits (_ ++ queue.toList.drop _)
    rw [grown, List.drop_left]
    exact .one _ fits

theorem step_admits (surroundings : Surroundings) (system : System) (turn : Turn) :
    system.Admits (system.step surroundings turn).accepted := by
  cases turn with
  | call call =>
    cases call with
    | accept arrival => exact system.accept_admits arrival
    | process | tick => exact .none
    | consume =>
      simp only [step, System.call]
      split <;> exact .none
  | poll =>
    simp only [step]
    split
    · have same : (system.act surroundings Consumer.poll).2.accepted = system.accepted := rfl
      split <;>
      · rename_i acted
        rw [acted] at same
        exact same ▸ .none
    · exact .none
  | hand | acknowledge =>
    simp only [step]
    split <;> exact .none

theorem step_admitted (surroundings : Surroundings) (turn : Turn)
    (admitted : ∀ frame ∈ system.accepted, frame.payload.length ≤ maxPayload) :
    ∀ frame ∈ (system.step surroundings turn).accepted, frame.payload.length ≤ maxPayload := by
  have admits := system.step_admits surroundings turn
  generalize (system.step surroundings turn).accepted = accepted at admits ⊢
  cases admits with
  | none => exact admitted
  | one frame fits =>
    intro frame member
    rcases List.mem_append.mp member with before | new
    · exact admitted frame before
    · exact List.mem_singleton.mp new ▸ fits

/-- Every frame that was accepted is one that the network may send. -/
theorem after_admitted (surroundings : Surroundings) (turns : List Turn)
    (admitted : ∀ frame ∈ system.accepted, frame.payload.length ≤ maxPayload) :
    ∀ frame ∈ (system.after surroundings turns).accepted, frame.payload.length ≤ maxPayload := by
  induction turns generalizing system with
  | nil => exact admitted
  | cons turn rest ih => exact ih (step_admitted surroundings turn admitted)

theorem Fresh.admitted (fresh : system.Fresh d) :
    ∀ frame ∈ system.accepted, frame.payload.length ≤ maxPayload := by
  rw [fresh.accepted]
  nofun

/-- The oldest frame does not fit a slot, and no frame is in flight. -/
structure Blocked (d : Descriptor) (system : System) (frame : QueuedFrame) : Prop where
  large : Oversize d frame.payload
  sound : ∃ settled taken, system.Sound d settled settled taken ∧
    system.accepted[settled]? = some frame

theorem Blocked.head (blocked : system.Blocked d frame) :
    system.producer.1.queue.head? = some frame := by
  obtain ⟨settled, _, sound, found⟩ := blocked.sound
  rw [Queue.head?, sound.producer.queue, List.head?_drop, found]

/-- A frame at its place among the accepted ones stays there. -/
theorem step_getElem? {index : Nat} (surroundings : Surroundings) (turn : Turn)
    (found : system.accepted[index]? = some frame) :
    (system.step surroundings turn).accepted[index]? = some frame := by
  have admits := system.step_admits surroundings turn
  generalize (system.step surroundings turn).accepted = accepted at admits ⊢
  cases admits with
  | none => exact found
  | one other fits =>
    rw [List.getElem?_append_left (List.getElem?_eq_some_iff.mp found).1]
    exact found

/-- No call of `process` posts a frame that is too large, nor one behind it. -/
theorem Blocked.process (blocked : system.Blocked d frame) :
    ∃ settled taken, (system.call surroundings .process).Sound d settled settled taken ∧
      (system.call surroundings .process).accepted[settled]? = some frame := by
  obtain ⟨settled, taken, sound, found⟩ := blocked.sound
  obtain ⟨published, acked, carries, tells⟩ := sound.between.shown
  obtain ⟨result, left, world, produced, ends⟩ := system.produce_ends surroundings Producer.process
  obtain ⟨ended, quiet⟩ := ends (Producer.process_leaves sound.producer carries)
  have effect : Producer.Effect d system.accepted settled settled published acked left
      world.memory := by
    cases result <;> exact ended
  have stage : system.stage.Sound system.accepted (deliveries world.events) settled taken :=
    quiet.symm ▸ sound.stage
  have kept {published : List Bytes} {acked : Sequence}
      (producer : Producer.Sound d system.accepted settled settled left)
      (carries : d.Carries world.memory published acked)
      (tells : Tells system.accepted settled published) :
      System.Sound d { system with producer := left, world } settled settled taken :=
    { sound with producer, stage, between := { sound.between with shown := ⟨_, _, carries, tells⟩ } }
  have called : system.call surroundings .process = _ := produced
  rw [called]
  cases effect with
  | quiet producer carries => exact ⟨settled, taken, kept producer carries tells, found⟩
  | reposted bytes producer carries tells =>
    exact ⟨settled, taken, kept producer carries tells, found⟩
  | settled ready producer carries => exact ⟨settled, taken, kept producer carries tells, found⟩
  | posted bytes idle ready producer carries tells =>
    obtain ⟨_, other, ⟨⟩, same, fits⟩ := tells.fits carries (List.append_ne_nil_of_right_ne_nil _ nofun)
    obtain rfl := Option.some.inj (found.symm.trans same)
    exact absurd blocked.large fits

/-- Only a call of `process` posts or settles a frame. -/
theorem Sound.turn (sound : system.Sound d settled posted taken) {turn : Turn}
    (other : turn ≠ .call .process) :
    ∃ taken, (system.step surroundings turn).Sound d settled posted taken := by
  cases turn with
  | call call =>
    cases call with
    | accept arrival => exact ⟨taken, accept_keeps arrival sound⟩
    | process => contradiction
    | tick => exact ⟨taken, tick_keeps surroundings sound⟩
    | consume =>
      cases stage : system.stage with
      | idle =>
        simpa only [step, System.call, stage] using consume_keeps surroundings stage sound
      | _ => simpa only [step, System.call, stage] using ⟨taken, sound⟩
  | poll =>
    cases stage : system.stage with
    | idle => exact ⟨taken, poll_keeps surroundings stage sound⟩
    | _ => simpa only [step, stage] using ⟨taken, sound⟩
  | hand =>
    cases stage : system.stage with
    | polled message => exact ⟨taken, hand_keeps surroundings stage sound⟩
    | _ => simpa only [step, stage] using ⟨taken, sound⟩
  | acknowledge =>
    cases stage : system.stage with
    | handed message => exact acknowledge_keeps surroundings stage sound
    | _ => simpa only [step, stage] using ⟨taken, sound⟩

theorem Blocked.step (blocked : system.Blocked d frame) (turn : Turn) :
    (system.step surroundings turn).Blocked d frame := by
  refine ⟨blocked.large, ?_⟩
  by_cases process : turn = .call .process
  · subst process
    exact blocked.process
  · obtain ⟨settled, taken, sound, found⟩ := blocked.sound
    obtain ⟨taken, sound⟩ := sound.turn process
    exact ⟨settled, taken, sound, step_getElem? surroundings turn found⟩

theorem Blocked.after (blocked : system.Blocked d frame) (turns : List Turn) :
    (system.after surroundings turns).Blocked d frame := by
  induction turns generalizing system with
  | nil => exact blocked
  | cons turn rest ih => exact ih (blocked.step turn)

/-- A call of `process` posts a frame: the buffer then shows it as a new message, and the end waits for
the acknowledge of that. -/
structure Posts (surroundings : Surroundings) (system : System) (frame : QueuedFrame) : Prop where
  answer : system.answer surroundings Producer.process = .ok ()
  waits : (system.call surroundings .process).producer.1 = system.producer.1.posting
  shown : ∃ message, (system.call surroundings .process).shown surroundings = some message ∧
    message.header.number = system.producer.1.sender.next ∧ message.header.retry = false ∧
    message.payload = frame.payload

end System

/-- A frame that is written for the first time is what the buffer shows next. -/
theorem System.posts_of_carries {system : System} {left : Producer.State} {world : World}
    (faultless : ¬ surroundings.Faulty) (sound : system.Sound d settled posted taken)
    (fits : ¬ Oversize d frame.payload)
    (called : system.call surroundings .process = { system with producer := left, world })
    (answered : system.answer surroundings Producer.process = .ok ())
    (waits : left.1 = system.producer.1.posting)
    (carries : d.Carries world.memory
      (published ++ [system.producer.1.message system.producer.1.sender.next false frame]) acked) :
    system.Posts surroundings frame := by
  have numbered : system.producer.1.sender.next ≠ 0 :=
    sound.producer.next ▸ Channel.number_succ_ne_zero posted
  have heads : (system.producer.1.sender.header system.producer.1.sender.next false Producer.format
      frame.payload).Heads frame.payload := Channel.Sender.header_heads numbered fits
  refine ⟨answered, called ▸ waits, ?_⟩
  rw [called]
  obtain ⟨message, shown, header, payload⟩ :
      ∃ message, ({ system with producer := left, world } : System).shown surroundings =
        some message ∧ message.header = _ ∧ message.payload = _ :=
    shown_eq faultless sound.between.consuming heads carries
  exact ⟨message, shown, header ▸ rfl, header ▸ rfl, payload⟩

/-- After any run, whatever accesses failed in it: when the end has a frame to post and the latest message
counts as acknowledged, a call of `process` in which no access fails posts that frame if and only if a
slot has room for it with its header. Else the call is refused, and the frame is the oldest one for
ever. -/
theorem oldest_frame_posted_iff {system : System} {owner : Role} {channel : UInt8} {ackTimeout : Nat}
    {pool : TimerPool} (made : System.setUp owner d channel ackTimeout pool memory = .ok system)
    (surroundings : Surroundings) (turns : List Turn)
    (offers : (system.after surroundings turns).producer.1.Offers frame)
    (ready : (system.after surroundings turns).ready surroundings.calm = .ok true) :
    let reached := system.after surroundings turns
    (reached.Posts surroundings.calm frame ↔ headerSize + frame.payload.length ≤ d.size) ∧
    (d.size < headerSize + frame.payload.length →
      reached.answer surroundings.calm Producer.process = .error (.error .payloadTooLarge) ∧
      (reached.call surroundings.calm .process).producer = reached.producer ∧
      ∀ later, (reached.after surroundings later).producer.1.queue.head? = some frame) := by
  intro reached
  have calm := surroundings.not_faulty_calm
  obtain ⟨settled, posted, taken, sound⟩ := after_keeps surroundings turns (setUp_fresh made).sound
  have sound : reached.Sound d settled posted taken := sound
  obtain ⟨published, acked, carries, _⟩ := sound.between.shown
  rw [System.ready_eq calm sound.producer carries, Except.ok.injEq, beq_iff_eq] at ready
  obtain rfl : posted = settled := sound.producer.other (sound.producer.waiting offers.idle)
  have found : reached.accepted[posted]? = some frame := by
    have queued := offers.queued
    rwa [Queue.head?, sound.producer.queue, List.head?_drop] at queued
  have admitted : ∀ frame ∈ reached.accepted, frame.payload.length ≤ maxPayload :=
    System.after_admitted surroundings turns (setUp_fresh made).admitted
  have oversize : Oversize d frame.payload ↔ d.size < headerSize + frame.payload.length :=
    oversize_iff (admitted frame (List.mem_of_getElem? found))
  obtain ⟨left, world, called, ended⟩ := System.answer_ends
    ((offers.process sound.producer carries ready).of_faultless calm)
  have called : reached.call surroundings.calm .process = _ := called
  cases answered : reached.answer surroundings.calm Producer.process with
  | ok value =>
    rw [answered] at ended
    obtain ⟨fits, waits, carries⟩ := ended
    have posts : reached.Posts surroundings.calm frame :=
      System.posts_of_carries calm sound fits called answered waits carries
    rw [oversize] at fits
    exact ⟨⟨fun _ => Nat.not_lt.mp fits, fun _ => posts⟩, fun large => absurd large fits⟩
  | error fault =>
    rw [answered] at ended
    obtain ⟨large, rfl, rfl⟩ := ended
    have blocked : reached.Blocked d frame := ⟨large, _, _, sound, found⟩
    rw [oversize] at large
    refine ⟨⟨fun posts => ?_, fun fits => absurd large (Nat.not_lt.mpr fits)⟩, fun _ => ?_⟩
    · cases answered.symm.trans posts.answer
    · exact ⟨rfl, by rw [called], fun later => (blocked.after later).head⟩

/-- The slots have room for nine bytes. A frame of four bytes is taken, cannot be posted with its header
of six, and keeps the frame behind it from being posted. -/
theorem oldest_frame_posted_iff_blocked :
    let surroundings : Surroundings := ⟨fun _ => false, fun _ => Surroundings.plainAnswer⟩
    let turns : List Turn := [.call (.accept ⟨1, false, [10, 11, 12, 13]⟩),
      .call (.accept ⟨2, false, [20]⟩)]
    ∃ system, System.setUp .producer ⟨.ssdoReceive, 0, 9⟩ 0 1 .empty (.zeroed 0 25) = .ok system ∧
      let reached := system.after surroundings turns
      reached.producer.1.Offers ⟨1, [10, 11, 12, 13]⟩ ∧ reached.ready surroundings.calm = .ok true ∧
      ¬ reached.Posts surroundings.calm ⟨1, [10, 11, 12, 13]⟩ ∧
      ∀ later, (reached.after surroundings later).producer.1.queue.head? =
        some ⟨1, [10, 11, 12, 13]⟩ := by
  intro surroundings turns
  obtain ⟨system, made, offers, ready⟩ : ∃ system, System.setUp .producer ⟨.ssdoReceive, 0, 9⟩ 0 1
      .empty (.zeroed 0 25) = .ok system ∧
      (system.after surroundings turns).producer.1.Offers ⟨1, [10, 11, 12, 13]⟩ ∧
      (system.after surroundings turns).ready surroundings.calm = .ok true :=
    ⟨_, rfl, ⟨by decide +kernel, by decide +kernel, by decide +kernel⟩,
      eq_ok_of_toOption (by decide +kernel)⟩
  obtain ⟨posts, blocked⟩ := oldest_frame_posted_iff made surroundings turns offers ready
  obtain ⟨_, _, still⟩ := blocked (by decide)
  exact ⟨system, made, offers, ready, fun posted => absurd (posts.mp posted) (by decide), still⟩

end NodeLink.Ssdo.Inbound

import NodeLink.Proofs.Ssdo.InboundLedger
import NodeLink.Proofs.Ssdo.InboundSteps

/-! Requests of the network to have the acknowledged frame again. A request is noted until that frame is
written again, and until then no other frame is posted. But a frame that is in flight when the request
is taken is acknowledged first, and then it is the acknowledged frame: the network is sent another
frame than it asked for. -/
namespace NodeLink.Ssdo.Inbound

open Channel (number)

variable {d : Descriptor} {memory : SharedMemory} {published further : List Bytes} {acked : Sequence}
  {surroundings : Surroundings}

namespace Producer

/-- The network asks for the frame that was acknowledged last, and the end takes the request. -/
structure Takes (producer : Producer) (arrival : Arrival) (number : Channel.MessageNumber)
    (frame : QueuedFrame) : Prop where
  retry : arrival.retry = true
  fits : arrival.payload.length ≤ maxPayload
  kept : producer.acknowledged = some (number, frame)
  same : frame.seq = arrival.seq

/-- The frame that is the acknowledged one as soon as none is in flight, and the number of its
message. -/
def due (producer : Producer) : Option (Channel.MessageNumber × QueuedFrame) :=
  match producer.pending with
  | .head number => producer.queue.head?.map (number, ·)
  | _ => producer.acknowledged

/-- The acknowledged frame was written again. -/
structure Again (before : Producer) (published : List Bytes) (left : Producer)
    (further : List Bytes) : Prop where
  pending : left.pending = .acknowledged
  due : before.due = before.acknowledged
  written : ∃ number frame, before.acknowledged = some (number, frame) ∧
    further = published ++ [before.message number true frame]

variable {before left : Producer} {arrival : Arrival} {number : Channel.MessageNumber}
  {frame : QueuedFrame} {turn : Turn}

theorem due_of_head (head : before.pending = .head number) (queued : before.queue.head? = some frame) :
    before.due = some (number, frame) := by
  simp only [due, head, queued, Option.map_some]

theorem due_of_other (other : ∀ number, before.pending ≠ .head number) :
    before.due = before.acknowledged := by
  unfold due
  split
  · rename_i number head
    exact absurd head (other number)
  · rfl

theorem Takes.accept (takes : before.Takes arrival number frame) :
    before.accept arrival = .ok before.requestRepost := by
  rw [Producer.accept, if_neg (Nat.not_lt.mpr takes.fits), if_pos takes.retry, takes.kept,
    Option.any_some, if_pos (beq_iff_eq.mpr takes.same)]

theorem requestRepost_noted (producer : Producer) : producer.requestRepost.Noted := by
  unfold requestRepost
  split
  · exact .inl rfl
  · exact .inr rfl

theorem requestRepost_due (producer : Producer) : producer.requestRepost.due = producer.due := by
  unfold requestRepost
  split <;> rfl

theorem Accepts.due (accepts : Accepts arrival before left) (steady : before.Steady d) :
    left.due = before.due := by
  have queued := @accepts.head
  cases accepts with
  | ignores => rfl
  | notes => exact requestRepost_due before
  | enqueues queue grown =>
    cases pending : before.pending with
    | head number =>
      obtain ⟨frame, found, _⟩ := steady.head number pending
      have kept : queue.head? = some frame := queued found
      simp only [Producer.due, pending, found, kept]
    | nothing | acknowledged => simp only [Producer.due, pending]

theorem Accepts.noted (accepts : Accepts arrival before left) (noted : before.Noted) : left.Noted := by
  cases accepts with
  | ignores => exact noted
  | notes => exact requestRepost_noted before
  | enqueues => exact noted

/-- What is due is the requested frame, unless another one is in flight. -/
theorem Takes.due_iff {frames : List QueuedFrame} {settled posted : Nat} {state : State}
    (takes : state.1.Takes arrival number frame) (sound : Sound d frames settled posted state)
    {assigned : Channel.MessageNumber} {other : QueuedFrame}
    (due : state.1.due = some (assigned, other)) :
    assigned = number ∧ other.payload = frame.payload ↔
      ∀ assigned, state.1.pending ≠ .head assigned := by
  constructor
  · rintro ⟨rfl, _⟩ posted head
    obtain ⟨rfl, rfl⟩ := sound.head posted head
    obtain ⟨queued, found, _⟩ := sound.headFrame head
    obtain ⟨_, _, named, _⟩ := sound.kept assigned frame takes.kept
    rw [due_of_head head found, Option.some.injEq, Prod.mk.injEq, named] at due
    exact Channel.number_succ_ne settled due.1
  · intro none
    rw [due_of_other none, takes.kept, Option.some.injEq, Prod.mk.injEq] at due
    exact ⟨due.1.symm, congrArg QueuedFrame.payload due.2.symm⟩

/-- While a request is noted, no frame is posted: what is due stays due. -/
theorem Does.due (does : Does d acked before published left further) (noted : before.Noted) :
    left.due = before.due := by
  cases does with
  | rests => rfl
  | waits => rfl
  | rewrites => rfl
  | posts frame idle unasked =>
    rcases noted with reposts | requested
    · rw [idle] at reposts
      contradiction
    · rw [unasked] at requested
      contradiction
  | repeats _ _ _ other => exact (due_of_other other).symm
  | settles number frame busy ready head queued => exact (due_of_head head queued).symm
  | closes busy ready again =>
    have other : ∀ number, before.pending ≠ .head number := by
      rw [again]
      exact nofun
    exact (due_of_other other).symm

/-- Where the end does not wait for an acknowledge, a call answers what is noted. -/
theorem Does.again_of_free (does : Does d acked before published left further) (noted : before.Noted)
    (free : before.phase ≠ .waitForAcknowledge) : Again before published left further := by
  cases does with
  | rests idle unasked | posts _ idle unasked =>
    rcases noted with reposts | requested
    · rw [idle] at reposts
      contradiction
    · rw [unasked] at requested
      contradiction
  | repeats number frame _ other asked busy kept =>
    exact ⟨rfl, due_of_other other, number, frame, kept, rfl⟩
  | waits busy | rewrites _ _ busy | settles _ _ busy | closes busy => exact absurd busy free

/-- Waiting for an acknowledge spends no note. -/
theorem Does.noted (does : Does d acked before published left further) (noted : before.Noted)
    (busy : before.phase = .waitForAcknowledge) : left.Noted := by
  have requested : before.repostRequested = true := by
    refine noted.resolve_left fun reposts => ?_
    rw [busy] at reposts
    contradiction
  cases does with
  | rests | waits | rewrites => exact noted
  | posts _ idle => exact nomatch busy.symm.trans idle
  | repeats _ _ requested' _ _ still =>
    exact .inr ((still (fun idle => nomatch busy.symm.trans idle)).trans requested)
  | settles | closes => exact .inr requested

theorem Does.again_of_written (does : Does d acked before published left further)
    (pending : left.pending = .acknowledged) (written : further.length ≠ published.length) :
    Again before published left further := by
  cases does with
  | rests | waits | settles | closes => exact absurd rfl written
  | posts => contradiction
  | rewrites _ _ _ _ head => exact nomatch head.symm.trans pending
  | repeats number frame _ other _ _ kept =>
    exact ⟨rfl, due_of_other other, number, frame, kept, rfl⟩

theorem Turns.due (turns : Turns d before turn left) (steady : before.Steady d) (noted : before.Noted) :
    left.due = before.due := by
  cases turns with
  | stays => rfl
  | accepts accepts => exact accepts.due steady
  | does does => exact does.due noted

end Producer

namespace System

/-- A call of `process` writes the acknowledged frame again. -/
def Repeats (surroundings : Surroundings) (system : System) : Prop :=
  (system.call surroundings .process).latest ≠ system.latest ∧
    (system.call surroundings .process).producer.1.pending = .acknowledged

/-- The message that a consuming end finds that has seen none before. -/
def shown (surroundings : Surroundings) (system : System) : Option Channel.Message :=
  let consumer : Consumer := ⟨⟨{ system.consumer.receiver.buffer with lastSeen := 0 }, .none⟩⟩
  match (({ system with consumer } : System).act surroundings Consumer.poll).1 with
  | .ok message => message
  | .error _ => none

variable {system : System} {header : Channel.Header} {payload : Bytes}

theorem shown_eq (faultless : ¬ surroundings.Faulty)
    (consuming : ∃ lastSeen, system.consumer.receiver.buffer.Consumes d lastSeen)
    (heads : header.Heads payload)
    (carries : d.Carries system.world.memory (published ++ [header.toBytes ++ payload]) acked) :
    ∃ message, system.shown surroundings = some message ∧ message.header = header ∧
      message.payload = payload := by
  obtain ⟨_, consuming⟩ := consuming
  let consumer : Consumer := ⟨⟨{ system.consumer.receiver.buffer with lastSeen := 0 }, .none⟩⟩
  have fresh : consumer.receiver.buffer.Consumes d 0 := ⟨consuming.role, consuming.region, rfl⟩
  have last : (published ++ [header.toBytes ++ payload]).getLast? = some (header.toBytes ++ payload) :=
    List.getLast?_concat
  have told : Channel.Told (published ++ [header.toBytes ++ payload]) := by
    intro bytes same
    rw [last] at same
    exact ⟨header, payload, (Option.some.inj same).symm, heads⟩
  have polled : Consumer.poll.Meets False consumer system.world
      (fun found _ _ => ∃ message, found = some message ∧ message.header = header ∧
        message.payload = payload) fun _ _ _ => False := by
    refine Consumer.onReceiver_meets ((Channel.Receiver.poll_ensures fresh carries fun _ => told).mono
      (fun _ granted => granted) ?_ ?_)
    · rintro found left _ ⟨polled, _⟩ _ _ _
      cases found with
      | none =>
        have stale := polled.1
        rw [List.length_append, ← Sequence.ofCount_zero] at stale
        have missed : (Sequence.ofCount (published.length + 1)).isFresh (.ofCount 0) = true :=
          (Sequence.isFresh_ofCount_iff (Nat.zero_le _)).mpr ⟨Nat.succ_pos _, by omega⟩
        exact absurd (missed.symm.trans stale) (by decide)
      | some message =>
        obtain ⟨_, _, same, heads', _⟩ := polled
        rw [last] at same
        obtain ⟨rfl, rfl⟩ := heads.unique heads' (Option.some.inj same)
        exact ⟨message, rfl, rfl, rfl⟩
    · rintro _ _ _ ⟨_, _, _, lost, _⟩
      exact lost.elim
  obtain ⟨result, _, _, acted, ended⟩ :=
    @act_ends { system with consumer } _ _ _ _ surroundings (polled.of_faultless faultless)
  cases result with
  | error fault => exact ended.elim
  | ok found =>
    obtain ⟨message, rfl, named, carried⟩ := ended
    refine ⟨message, ?_, named, carried⟩
    rw [shown, acted]

theorem Stands.repeats_iff (stands : system.Stands d) (faultless : ¬ surroundings.Faulty) :
    ∃ published acked left world further,
      system.call surroundings .process = { system with producer := left, world } ∧
        Producer.Does d acked system.producer.1 published left.1 further ∧
        d.Carries world.memory further acked ∧
        (system.Repeats surroundings ↔ Producer.Again system.producer.1 published left.1 further) := by
  obtain ⟨published, acked, left, world, further, called, carries, does, after⟩ :=
    stands.process faultless
  obtain ⟨_, _, _, sound⟩ := stands.sound
  obtain ⟨_, _, _, next⟩ := (stands.step faultless (.call .process)).sound
  have latest : (system.call surroundings .process).latest = .ofCount further.length := by
    have shows : d.Carries (system.call surroundings .process).world.memory further acked := by
      rw [called]
      exact after
    exact Ledger.latest_eq next.producer.producing shows
  have before : system.latest = .ofCount published.length :=
    Ledger.latest_eq sound.producer.producing carries
  refine ⟨published, acked, left, world, further, called, does, after, ?_⟩
  rw [Repeats, latest, before, called]
  constructor
  · rintro ⟨written, pending⟩
    exact does.again_of_written pending fun same => written (congrArg _ same)
  · rintro ⟨pending, _, number, frame, _, rfl⟩
    rw [List.length_append]
    exact ⟨Sequence.ofCount_succ_ne _, pending⟩

theorem Stands.repeats_of_free (stands : system.Stands d) (faultless : ¬ surroundings.Faulty)
    (noted : system.producer.1.Noted) (free : system.producer.1.phase ≠ .waitForAcknowledge) :
    system.Repeats surroundings := by
  obtain ⟨_, _, _, _, _, _, does, _, repeats⟩ := stands.repeats_iff faultless
  exact repeats.mpr (does.again_of_free noted free)

/-- What spends a note is a call that writes the acknowledged frame again. -/
theorem Stands.repeats_of_spent (stands : system.Stands d) (faultless : ¬ surroundings.Faulty)
    (noted : system.producer.1.Noted) {turn : Turn}
    (spent : ¬ (system.step surroundings turn).producer.1.Noted) :
    turn = .call .process ∧ system.Repeats surroundings := by
  have turns := stands.turns faultless turn
  generalize (system.step surroundings turn).producer.1 = left at turns spent
  cases turns with
  | stays => exact absurd noted spent
  | accepts accepts => exact absurd (accepts.noted noted) spent
  | does does =>
    exact ⟨rfl, stands.repeats_of_free faultless noted fun busy => spent (does.noted noted busy)⟩

/-- What is written again is the frame that is due. -/
theorem Stands.repeated (stands : system.Stands d) (faultless : ¬ surroundings.Faulty)
    (repeats : system.Repeats surroundings) :
    ∃ message frame, (system.call surroundings .process).shown surroundings = some message ∧
      message.header.retry = true ∧ system.producer.1.due = some (message.header.number, frame) ∧
      message.payload = frame.payload := by
  obtain ⟨_, _, _, sound⟩ := stands.sound
  obtain ⟨_, acked, left, world, _, called, _, carries, again⟩ := stands.repeats_iff faultless
  obtain ⟨_, due, number, frame, kept, rfl⟩ := again.mp repeats
  obtain ⟨index, last, named, _⟩ := sound.producer.kept number frame kept
  have numbered : number ≠ 0 := by
    rw [named, last]
    exact Channel.number_succ_ne_zero index
  have heads : (system.producer.1.sender.header number true Producer.format frame.payload).Heads
      frame.payload :=
    Channel.Sender.header_heads numbered (stands.steady.kept number frame kept)
  rw [called]
  obtain ⟨message, shown, header, payload⟩ :
      ∃ message, ({ system with producer := left, world } : System).shown surroundings =
        some message ∧ message.header = _ ∧ message.payload = _ :=
    shown_eq faultless sound.between.consuming heads carries
  refine ⟨message, frame, shown, ?_, ?_, payload⟩
  · rw [header]
    rfl
  · rw [due, kept, header]
    rfl

theorem Stands.after_due (stands : system.Stands d) (faultless : ¬ surroundings.Faulty)
    (turns : List Turn)
    (noted : ∀ earlier, earlier <+: turns → (system.after surroundings earlier).producer.1.Noted) :
    (system.after surroundings turns).producer.1.due = system.producer.1.due := by
  -- On the turns: the request is noted before each of them, so none posts a frame.
  induction turns generalizing system with
  | nil => rfl
  | cons turn rest ih =>
    have first := (stands.turns faultless turn).due stands.steady (noted [] List.nil_prefix)
    have later := ih (stands.step faultless turn) fun earlier inside =>
      noted (turn :: earlier) (List.cons_prefix_cons.mpr ⟨rfl, inside⟩)
    exact later.trans first

end System

theorem accept_taken {system : System} {arrival : Arrival} {number : Channel.MessageNumber}
    {frame : QueuedFrame} (takes : system.producer.1.Takes arrival number frame) :
    (system.accept arrival).producer.1 = system.producer.1.requestRepost := by
  simp only [System.accept, takes.accept]

/-- In a run without faults, a request for the acknowledged frame is noted. While it is, every call of
`process` answers it in which the end does not wait for an acknowledge, and nothing else spends the note.
Each answer is marked as a repetition. It carries the requested frame under the number of its message
if and only if no other frame was in flight when the request was taken; else it carries that one. -/
theorem requested_frame_repeated_iff {system : System} {owner : Role} {channel : UInt8}
    {ackTimeout : Nat} {pool : TimerPool} {arrival : Arrival} {number : Channel.MessageNumber}
    {frame : QueuedFrame}
    (made : System.setUp owner d channel ackTimeout pool memory = .ok system)
    (faultless : ¬ surroundings.Faulty) (turns : List Turn)
    (takes : (system.after surroundings turns).producer.1.Takes arrival number frame) :
    let before := system.after surroundings turns
    let asked := before.accept arrival
    asked.producer.1.Noted ∧ ∀ later,
      (∀ earlier, earlier <+: later → (asked.after surroundings earlier).producer.1.Noted) →
      let now := asked.after surroundings later
      (now.producer.1.phase ≠ .waitForAcknowledge → now.Repeats surroundings) ∧
      (∀ turn, ¬ (now.step surroundings turn).producer.1.Noted →
        turn = .call .process ∧ now.Repeats surroundings) ∧
      (now.Repeats surroundings → ∃ message sent,
        (now.call surroundings .process).shown surroundings = some message ∧
        message.header.retry = true ∧
        before.producer.1.due = some (message.header.number, sent) ∧ message.payload = sent.payload ∧
        (message.header.number = number ∧ message.payload = frame.payload ↔
          ∀ assigned, before.producer.1.pending ≠ .head assigned)) := by
  intro before asked
  have stands : before.Stands d := (System.setUp_stands made).after faultless turns
  have next : asked.Stands d := stands.step faultless (.call (.accept arrival))
  have taken : asked.producer.1 = before.producer.1.requestRepost := accept_taken takes
  refine ⟨taken ▸ Producer.requestRepost_noted _, fun later noted => ?_⟩
  intro now
  have current : now.Stands d := next.after faultless later
  have due : now.producer.1.due = before.producer.1.due := by
    rw [next.after_due faultless later noted, taken, Producer.requestRepost_due]
  have still : now.producer.1.Noted := noted later (List.prefix_refl _)
  refine ⟨current.repeats_of_free faultless still, fun turn => current.repeats_of_spent faultless still,
    fun repeats => ?_⟩
  obtain ⟨_, _, _, sound⟩ := stands.sound
  obtain ⟨message, sent, shown, retry, same, payload⟩ := current.repeated faultless repeats
  rw [due] at same
  refine ⟨message, sent, shown, retry, same, payload, ?_⟩
  rw [payload]
  exact takes.due_iff sound.producer same

/-- One frame goes through, and a second one is written. -/
def secondInFlight : List Turn := [.call (.accept ⟨1, false, [10]⟩), .call .process, .call .consume,
  .call .process, .call (.accept ⟨2, false, [20]⟩), .call .process]

theorem secondInFlight_asked : (System.setUp .producer ⟨.ssdoReceive, 0, 16⟩ 0 1 .empty
    (.zeroed 0 25)).toOption.all (fun system =>
      let surroundings : Surroundings := ⟨fun _ => false, fun _ => Surroundings.plainAnswer⟩
      let before := system.after surroundings secondInFlight
      let asked := before.accept ⟨1, true, []⟩
      decide (before.producer.1.acknowledged = some (1, ⟨1, [10]⟩) ∧
        before.producer.1.pending = .head 2 ∧
        (∀ count, count < 3 →
          (asked.after surroundings ([.call .consume, .call .process].take count)).producer.1.Noted) ∧
        (asked.after surroundings [.call .consume, .call .process]).producer.1.phase =
          .waitForFrame)) = true := by
  decide +kernel

/-- The first frame is asked for while the second one is in flight; the answer is not the first. -/
theorem requested_frame_repeated_iff_forgotten :
    let surroundings : Surroundings := ⟨fun _ => false, fun _ => Surroundings.plainAnswer⟩
    ∃ system, System.setUp .producer ⟨.ssdoReceive, 0, 16⟩ 0 1 .empty (.zeroed 0 25) = .ok system ∧
      let before := system.after surroundings secondInFlight
      let asked := before.accept ⟨1, true, []⟩
      before.producer.1.Takes ⟨1, true, []⟩ 1 ⟨1, [10]⟩ ∧
      ∃ message, ((asked.after surroundings [.call .consume, .call .process]).call surroundings
          .process).shown surroundings = some message ∧ message.header.retry = true ∧
        ¬ (message.header.number = 1 ∧ message.payload = [10]) := by
  intro surroundings
  have faultless : ¬ surroundings.Faulty := fun ⟨_, fails⟩ => Bool.false_ne_true fails
  obtain ⟨system, made⟩ : ∃ system, System.setUp .producer ⟨.ssdoReceive, 0, 16⟩ 0 1 .empty
    (.zeroed 0 25) = .ok system := ⟨_, rfl⟩
  refine ⟨system, made, ?_⟩
  intro before asked
  have facts := secondInFlight_asked
  rw [made] at facts
  obtain ⟨kept, head, noted, free⟩ := of_decide_eq_true facts
  have takes : before.producer.1.Takes ⟨1, true, []⟩ 1 ⟨1, [10]⟩ := ⟨rfl, Nat.zero_le _, kept, rfl⟩
  have through : ∀ earlier, earlier <+: [.call .consume, .call .process] →
      (asked.after surroundings earlier).producer.1.Noted := by
    intro earlier inside
    rw [List.prefix_iff_eq_take.mp inside]
    exact noted _ (Nat.lt_succ_of_le inside.length_le)
  obtain ⟨_, answers⟩ := requested_frame_repeated_iff made faultless secondInFlight takes
  obtain ⟨repeats, _, answer⟩ := answers [.call .consume, .call .process] through
  obtain ⟨message, _, shown, retry, _, _, right⟩ := answer (repeats (free ▸ nofun))
  exact ⟨takes, message, shown, retry, fun same => right.mp same 2 head⟩

end NodeLink.Ssdo.Inbound

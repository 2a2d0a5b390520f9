import NodeLink.Proofs.Agreement
import NodeLink.Proofs.Channel.Custody
import NodeLink.Proofs.Ssdo.OutboundOrder

/-! Acknowledges of frames to the network, when accesses may fail. A frame is let go before its
acknowledge is stored. If that store fails, the communication processor goes back to wait for a frame,
and the application may never post one. It comes to that in no other way. -/
namespace NodeLink.Ssdo.Outbound

open Channel (Custody Keeps Due)
open TripleBuffer (anyAccess)

namespace Consumer

/-- No frame is held, though none is waited for. -/
def Forgetful (consumer : Consumer) : Prop :=
  consumer.frame = none ∧ consumer.phase ≠ .waitForFrame

/-- How a consumer that forgot no frame stands with the latest one. -/
inductive Tends (d : Descriptor) (consumer : Consumer) (memory : SharedMemory) :
    Nat → Custody → Prop where
  | free {count : Nat} {custody : Custody} (given : custody ≠ .owed)
      (waits : consumer.phase = .waitForFrame) (keeps : Keeps d count custody consumer.receiver memory) :
      Tends d consumer memory count custody
  | holding {count : Nat} {message : Channel.Message} (frame : consumer.frame = some message)
      (due : Due count message) (busy : consumer.phase ≠ .waitForFrame)
      (keeps : Keeps d count .owed consumer.receiver memory) : Tends d consumer memory count .owed

/-- The latest frame is held no more, and was never acknowledged. -/
structure Forgotten (d : Descriptor) (count : Nat) (left : State) (after : World) : Prop where
  live : left.2.Live left.1.timer
  frame : left.1.frame = none
  keeps : Keeps d count .owed left.1.receiver after.memory

/-- Where a call of `process` may move the latest frame. -/
inductive Passes (count : Nat) : Custody → Nat → Custody → Prop where
  | stay (custody : Custody) : Passes count custody count custody
  | take (header : Channel.Header) (payload : Bytes) :
      Passes count (.waiting header payload) count .owed
  | settle : Passes count .owed (count + 1) .settled
  | both (header : Channel.Header) (payload : Bytes) :
      Passes count (.waiting header payload) (count + 1) .settled

/-- What a call of `process` leads to. -/
inductive Turned (d : Descriptor) (count : Nat) (custody : Custody) (left : State) (after : World) :
    Prop where
  | tends {next : Nat} {moved : Custody} (live : left.2.Live left.1.timer)
      (passes : Passes count custody next moved) (tends : Tends d left.1 after.memory next moved) :
      Turned d count custody left after
  | forgets (live : left.2.Live left.1.timer) (passes : Passes count custody count .owed)
      (forgetful : Forgetful left.1) (keeps : Keeps d count .owed left.1.receiver after.memory) :
      Turned d count custody left after

variable {faults : Prop} {d : Descriptor} {count : Nat} {custody : Custody} {state : State}
  {world : World} {message : Channel.Message}

theorem Passes.counts {next : Nat} {moved : Custody} (passes : Passes count custody next moved) :
    (next = count ∨ next = count + 1) ∧
      (moved.polled next = custody.polled count ∨ moved.polled next = custody.polled count + 1) ∧
      moved.posted next = custody.posted count := by
  cases passes with
  | stay => exact ⟨.inl rfl, .inl rfl, rfl⟩
  | take header payload => exact ⟨.inl rfl, .inr rfl, rfl⟩
  | settle => exact ⟨.inr rfl, .inl rfl, rfl⟩
  | both header payload => exact ⟨.inr rfl, .inr rfl, rfl⟩

theorem Tends.not_forgotten {consumer : Consumer} {memory : SharedMemory}
    (tends : Tends d consumer memory count custody) (owed : custody = .owed) :
    consumer.frame ≠ none := by
  cases tends with
  | free given waits keeps => exact absurd owed given
  | holding frame due busy keeps =>
    rw [frame]
    nofun

theorem Turned.taken {header : Channel.Header} {payload : Bytes} {left : State} {after : World}
    (turned : Turned d count .owed left after) : Turned d count (.waiting header payload) left after := by
  cases turned with
  | tends live passes tends =>
    cases passes with
    | stay => exact .tends live (.take header payload) tends
    | settle => exact .tends live (.both header payload) tends
  | forgets live passes forgetful keeps =>
    exact .forgets live (.take header payload) forgetful keeps

/-- A release acknowledges the frame, or has let it go all the same. -/
theorem release_held (frame : state.1.frame = some message) (due : Due count message)
    (keeps : Keeps d count .owed state.1.receiver world.memory) (live : state.2.Live state.1.timer) :
    release.Meets faults state world
      (fun _ left after => left.2.Live left.1.timer ∧ left.1.phase = .waitForFrame ∧
        Keeps d (count + 1) .settled left.1.receiver after.memory)
      fun _ left after => left.2.Live left.1.timer ∧ left.1.frame = none ∧
        left.1.phase = state.1.phase ∧ Keeps d count .owed left.1.receiver after.memory := by
  obtain ⟨pool, stopped, live'⟩ := live.stop
  unfold release
  apply Action.Meets.get_then
  apply Action.Meets.modify_then
  simp only [frame]
  refine Keeps.acknowledge_then keeps due ?_ ?_
  · intro receiver after settled _
    apply Action.Meets.modify_then
    refine Action.Meets.onTimer_then stopped ?_
    exact ⟨live', rfl, settled⟩
  · intro receiver after _ owed
    exact ⟨live, rfl, rfl, owed⟩

theorem settle_turned (answer : Except Error Handoff) (frame : state.1.frame = some message)
    (due : Due count message) (offers : state.1.phase = .offerFrame)
    (keeps : Keeps d count .owed state.1.receiver world.memory) (live : state.2.Live state.1.timer) :
    (settle answer).Meets faults state world (fun _ => Turned d count .owed)
      fun _ => Turned d count .owed := by
  have dropped (error : Error) :
      (release >>= fun _ => Action.fail (.error error)).Meets faults state world
        (fun (_ : Unit) => Turned d count .owed) fun _ => Turned d count .owed := by
    have released : release.Meets faults state world _ _ := release_held frame due keeps live
    apply Action.Meets.bind _ (released.mono (fun _ _ _ ended => ended) _)
    · intro _ left after ended
      obtain ⟨live, waits, settled⟩ := ended
      exact .tends live .settle (.free nofun waits settled)
    · intro _ left after lost
      obtain ⟨live, none, same, owed⟩ := lost
      refine .forgets live (.stay _) ⟨none, ?_⟩ owed
      rw [same, offers]
      nofun
  unfold settle
  cases answer with
  | error error => exact dropped error
  | ok handoff =>
    cases handoff with
    | queued =>
      obtain ⟨pool, stopped, live⟩ := live.stop
      refine Action.Meets.onTimer_then stopped ?_
      exact .tends live (.stay _) (.holding frame due nofun keeps)
    | addressPending =>
      apply Action.Meets.get_then
      split
      · obtain ⟨pool, started, live⟩ := live.start
        apply Action.Meets.modify_then
        refine Action.Meets.onTimer_then started ?_
        apply Action.Meets.modify_then
        exact .tends live (.stay _) (.holding frame due nofun keeps)
      · exact dropped .transport

theorem offer_turned (frame : state.1.frame = some message) (due : Due count message)
    (offers : state.1.phase = .offerFrame)
    (keeps : Keeps d count .owed state.1.receiver world.memory) (live : state.2.Live state.1.timer) :
    offer.Meets faults state world (fun _ => Turned d count .owed) fun _ => Turned d count .owed := by
  unfold offer
  apply Action.Meets.get_then
  simp only [frame]
  apply Action.Meets.ask_then
  · intro access same
    cases same
  · intro answer after memory _
    rw [← memory] at keeps
    exact settle_turned answer frame due offers keeps live

theorem takeFrame_turned (given : custody ≠ .owed) (waits : state.1.phase = .waitForFrame)
    (keeps : Keeps d count custody state.1.receiver world.memory) (live : state.2.Live state.1.timer) :
    takeFrame.Meets faults state world (fun _ => Turned d count custody)
      fun _ => Turned d count custody := by
  unfold takeFrame
  cases custody with
  | settled =>
    refine Keeps.poll_none_then keeps .settled ?_ ?_
    · intro receiver after keeps _
      exact .tends live (.stay _) (.free given waits keeps)
    · intro receiver after _ keeps
      exact .tends live (.stay _) (.free given waits keeps)
  | owed => exact absurd rfl given
  | waiting header payload =>
    refine Keeps.poll_some_then keeps ?_ ?_
    · intro message receiver after _ _ single due owed _
      simp only [single]
      apply Action.Meets.modify_then
      apply Action.Meets.modify_then
      refine Action.Meets.mono (offer_turned rfl due rfl owed live) ?_ ?_
      · intro _ left last turned
        exact turned.taken
      · intro _ left last turned
        exact turned.taken
    · intro receiver after _ keeps
      exact .tends live (.stay _) (.free given waits keeps)

/-- A frame moves on with every call, unless its acknowledge fails. -/
theorem process_turned (tends : Tends d state.1 world.memory count custody)
    (live : state.2.Live state.1.timer) :
    process.Meets faults state world (fun _ => Turned d count custody)
      fun _ => Turned d count custody := by
  unfold process
  apply Action.Meets.get_then
  cases tends with
  | free given waits keeps =>
    simp only [waits]
    exact takeFrame_turned given waits keeps live
  | holding frame due busy keeps =>
    cases phase : state.1.phase with
    | waitForFrame => exact absurd phase busy
    | offerFrame =>
      simp only [phase]
      exact offer_turned frame due phase keeps live
    | waitUntilSent =>
      simp only [phase]
      exact .tends live (.stay _) (.holding frame due busy keeps)
    | waitForRetry =>
      simp only [phase]
      obtain ⟨expiry, found⟩ := live.phase
      apply Action.Meets.ofExcept_then found
      cases expiry with
      | expired =>
        apply Action.Meets.modify_then
        exact offer_turned frame due rfl keeps live
      | stopped | running => exact .tends live (.stay _) (.holding frame due busy keeps)
    | sent =>
      simp only [phase]
      apply (release_held frame due keeps live).mono
      · intro _ left after ended
        obtain ⟨live, waits, settled⟩ := ended
        exact .tends live .settle (.free nofun waits settled)
      · intro _ left after lost
        obtain ⟨live, none, same, owed⟩ := lost
        refine .forgets live (.stay _) ⟨none, ?_⟩ owed
        rw [same, phase]
        nofun

theorem offer_forgotten (forgotten : Forgotten d count state world) :
    offer.Meets faults state world (fun _ => Forgotten d count) fun _ => Forgotten d count := by
  unfold offer
  apply Action.Meets.get_then
  simp only [forgotten.frame]
  exact ⟨forgotten.live, forgotten.frame, forgotten.keeps⟩

theorem release_forgotten (forgotten : Forgotten d count state world) :
    release.Meets faults state world (fun _ => Forgotten d count) fun _ => Forgotten d count := by
  obtain ⟨pool, stopped, live⟩ := forgotten.live.stop
  unfold release
  apply Action.Meets.get_then
  apply Action.Meets.modify_then
  simp only [forgotten.frame]
  apply Action.Meets.modify_then
  refine Action.Meets.onTimer_then stopped ?_
  exact ⟨live, rfl, forgotten.keeps⟩

/-- What is forgotten stays forgotten. -/
theorem process_forgotten (forgotten : Forgotten d count state world) :
    process.Meets faults state world (fun _ => Forgotten d count) fun _ => Forgotten d count := by
  have ⟨live, frame, keeps⟩ := forgotten
  unfold process
  apply Action.Meets.get_then
  cases phase : state.1.phase with
  | waitForFrame =>
    simp only [phase]
    unfold takeFrame
    refine Keeps.poll_none_then keeps .owed ?_ ?_
    · intro receiver after keeps _
      exact ⟨live, frame, keeps⟩
    · intro receiver after _ keeps
      exact ⟨live, frame, keeps⟩
  | offerFrame =>
    simp only [phase]
    exact offer_forgotten forgotten
  | waitUntilSent =>
    simp only [phase]
    exact forgotten
  | waitForRetry =>
    simp only [phase]
    obtain ⟨expiry, found⟩ := live.phase
    apply Action.Meets.ofExcept_then found
    cases expiry with
    | expired =>
      apply Action.Meets.modify_then
      exact offer_forgotten ⟨live, frame, keeps⟩
    | stopped | running => exact forgotten
  | sent =>
    simp only [phase]
    exact release_forgotten forgotten

end Consumer

theorem Producer.post_keeps {faults : Prop} {d : Descriptor} {count : Nat} {custody : Custody}
    {receiver : Channel.Receiver} {memory : SharedMemory} {producer : Producer} (payload : Bytes)
    (keeps : Keeps d count custody receiver memory)
    (offers : Channel.Offers d (custody.posted count) producer.sender) :
    (Producer.post payload).Ensures faults anyAccess producer memory
      (fun _ left after => custody = .settled ∧
        left = { producer with sender.next := producer.sender.next.next } ∧
        Keeps d count (.waiting (producer.sender.header producer.sender.next false
          Channel.Format.serviceData.toByte payload) payload) receiver after)
      fun _ left after => left = producer ∧ Keeps d count custody receiver after := by
  unfold Producer.post
  split
  · exact ⟨rfl, keeps⟩
  · apply Action.Ensures.bind _ (Action.ensures_part ((keeps.post offers).mono
      (fun _ granted => granted) _ _))
    · intro _ left after posted
      exact posted
    · intro _ left after posted
      obtain ⟨settled, rfl, keeps⟩ := posted
      exact ⟨settled, rfl, keeps⟩
    · intro _ left after refused
      obtain ⟨rfl, keeps⟩ := refused
      exact ⟨rfl, keeps⟩

/-- The frames posted so far. -/
def posted : List Sight → List Bytes := List.filterMap fun
  | .posted payload => some payload
  | _ => none

@[simp] theorem posted_append (first second : List Sight) :
    posted (first ++ second) = posted first ++ posted second := List.filterMap_append

namespace System

/-- The number that the consumer took from the buffer last. -/
def seen (system : System) : Sequence := system.consumer.1.receiver.buffer.lastSeen

/-- The number that the consumer acknowledged last, as the producer finds it. -/
def register (d : Descriptor) (system : System) : Sequence :=
  match system.world.memory.load d.consumerAddress with
  | .ok word => (ControlWord.ofWord word).seq
  | .error _ => 0

/-- The values that a number takes on over calls, one after the other. -/
def changes (surroundings : Surroundings) (number : System → Sequence) (system : System) :
    List Call → List Sequence
  | [] => []
  | call :: rest =>
    let next := system.call surroundings call
    (if number next = number system then [] else [number next]) ++
      changes surroundings number next rest

/-- The numbers of the messages that the consumer took. -/
def taken (surroundings : Surroundings) (system : System) (calls : List Call) : List Sequence :=
  system.changes surroundings seen calls

/-- The numbers that it acknowledged. -/
def acknowledged (d : Descriptor) (surroundings : Surroundings) (system : System)
    (calls : List Call) : List Sequence := system.changes surroundings (register d) calls

/-- Whether a frame may be posted, where no access fails. -/
def ready (system : System) : Except Fault Bool :=
  (Producer.ready.runFailing (fun _ => false) system.producer system.world.memory).1.1

/-- The consumer took a message that it neither acknowledged nor holds. -/
def Forgot (d : Descriptor) (system : System) : Prop :=
  system.consumer.1.frame = none ∧ system.seen ≠ system.register d

/-- What holds between two calls, whatever accesses failed. -/
structure Keeping (d : Descriptor) (system : System) (count : Nat) (custody : Custody) : Prop where
  offers : Channel.Offers d (custody.posted count) system.producer.sender
  live : system.consumer.2.Live system.consumer.1.timer
  counted : (posted system.log).length = custody.posted count
  consumer : Consumer.Tends d system.consumer.1 system.world.memory count custody ∨
    custody = .owed ∧ system.consumer.1.frame = none ∧
      Keeps d count .owed system.consumer.1.receiver system.world.memory

end System

section Runs

variable {d : Descriptor} {system : System} {surroundings : Surroundings} {count : Nat}
  {custody : Custody}

theorem Consumer.Tends.keeps {consumer : Consumer} {memory : SharedMemory}
    (tends : Consumer.Tends d consumer memory count custody) :
    Keeps d count custody consumer.receiver memory := by
  cases tends with
  | free given waits keeps => exact keeps
  | holding frame due busy keeps => exact keeps

theorem Consumer.Tends.elsewhere {consumer : Consumer} {memory after : SharedMemory}
    (tends : Consumer.Tends d consumer memory count custody)
    (keeps : Keeps d count custody consumer.receiver after) :
    Consumer.Tends d consumer after count custody := by
  cases tends with
  | free given waits _ => exact .free given waits keeps
  | holding frame due busy _ => exact .holding frame due busy keeps

namespace System

theorem Keeping.keeps (keeping : system.Keeping d count custody) :
    Keeps d count custody system.consumer.1.receiver system.world.memory := by
  cases keeping.consumer with
  | inl tends => exact tends.keeps
  | inr forgot =>
    obtain ⟨rfl, _, keeps⟩ := forgot
    exact keeps

theorem Keeping.seen (keeping : system.Keeping d count custody) :
    system.seen = Sequence.ofCount (custody.polled count) := keeping.keeps.consuming.seen

theorem Keeping.register (keeping : system.Keeping d count custody) :
    system.register d = Sequence.ofCount count := by
  obtain ⟨published, _, latest, slot, shows⟩ := keeping.keeps.carries
  simp only [System.register, shows.consumer, ControlWord.ofWord_toWord]

theorem Keeping.forgot_iff (keeping : system.Keeping d count custody) :
    system.Forgot d ↔ system.consumer.1.frame = none ∧ custody = .owed := by
  have apart := Sequence.ofCount_succ_ne count
  unfold System.Forgot
  rw [keeping.seen, keeping.register]
  cases custody with
  | settled => simp only [Custody.polled, ne_eq, not_true_eq_false, reduceCtorEq]
  | waiting header payload => simp only [Custody.polled, ne_eq, not_true_eq_false, reduceCtorEq]
  | owed => simp only [Custody.polled, ne_eq, apart, not_false_eq_true]

theorem Keeping.forgot_of_forgetful (keeping : system.Keeping d count custody)
    (forgetful : system.consumer.1.Forgetful) : system.Forgot d := by
  obtain ⟨none, busy⟩ := forgetful
  refine keeping.forgot_iff.mpr ⟨none, ?_⟩
  cases keeping.consumer with
  | inl tends =>
    cases tends with
    | free given waits keeps => exact absurd waits busy
    | holding frame due busy keeps => rfl
  | inr forgot => exact forgot.1

/-- What a call leaves: no number moves by more than one, and a frame is forgotten for a reason. -/
def Proceeds (d : Descriptor) (before : System) (count : Nat) (custody : Custody) (after : System) :
    Prop :=
  ∃ next moved, after.Keeping d next moved ∧ (next = count ∨ next = count + 1) ∧
    (moved.polled next = custody.polled count ∨ moved.polled next = custody.polled count + 1) ∧
    (before.Forgot d → after.Forgot d) ∧
    (after.Forgot d → before.Forgot d ∨ after.consumer.1.Forgetful)

theorem Keeping.stays {after : System} (keeping : system.Keeping d count custody)
    (kept : after.Keeping d count custody) (frame : after.consumer.1.frame = system.consumer.1.frame) :
    Proceeds d system count custody after := by
  have alike : after.Forgot d ↔ system.Forgot d := by
    rw [kept.forgot_iff, keeping.forgot_iff, frame]
  exact ⟨count, custody, kept, .inl rfl, .inl rfl, alike.mpr, fun forgot => .inl (alike.mp forgot)⟩

theorem Proceeds.moves {after : System} {next : Nat} {moved : Custody} (apart : ¬ system.Forgot d)
    (kept : after.Keeping d next moved) (counts : next = count ∨ next = count + 1)
    (polls : moved.polled next = custody.polled count ∨ moved.polled next = custody.polled count + 1)
    (forgets : moved = .owed → after.consumer.1.frame = none → after.consumer.1.Forgetful) :
    Proceeds d system count custody after := by
  refine ⟨next, moved, kept, counts, polls, fun forgot => absurd forgot apart, ?_⟩
  intro forgot
  obtain ⟨none, owed⟩ := kept.forgot_iff.mp forgot
  exact .inr (forgets owed none)

theorem post_proceeds (payload : Bytes) (keeping : system.Keeping d count custody) :
    Proceeds d system count custody (system.post surroundings payload) := by
  have posts : (Producer.post payload).Ensures surroundings.Faulty anyAccess system.producer
      system.world.memory _ _ := Producer.post_keeps payload keeping.keeps keeping.offers
  have ended := posts.onHost.run surroundings
  unfold System.post
  generalize (Producer.post payload).onHost.run surroundings.onHost system.producer system.world =
    outcome at ended
  obtain ⟨⟨result, left⟩, world⟩ := outcome
  cases result with
  | error fault =>
    obtain ⟨⟨rfl, keeps⟩, _⟩ := ended
    refine keeping.stays ?_ rfl
    constructor
    case offers => exact keeping.offers
    case live => exact keeping.live
    case counted => simpa using keeping.counted
    case consumer =>
      cases keeping.consumer with
      | inl tends => exact .inl (tends.elsewhere keeps)
      | inr forgot =>
        obtain ⟨rfl, none, _⟩ := forgot
        exact .inr ⟨rfl, none, keeps⟩
  | ok done =>
    obtain ⟨⟨rfl, rfl, keeps⟩, _⟩ := ended
    have apart : ¬ system.Forgot d := by
      rw [keeping.forgot_iff]
      exact fun forgot => nomatch forgot.2
    have waits : system.consumer.1.phase = .waitForFrame := by
      cases keeping.consumer with
      | inl tends =>
        cases tends with
        | free given waits keeps => exact waits
      | inr forgot => exact nomatch forgot.1
    have next : (posted (system.log ++ [.posted payload])).length = count + 1 := by
      rw [posted_append, List.length_append, keeping.counted]
      rfl
    obtain ⟨header, keeps⟩ : ∃ header,
        Keeps d count (.waiting header payload) system.consumer.1.receiver world.memory := ⟨_, keeps⟩
    have tends : Consumer.Tends d system.consumer.1 world.memory count (.waiting header payload) :=
      .free nofun waits keeps
    refine Proceeds.moves apart (?_ : Keeping d _ count (.waiting header payload)) (.inl rfl) (.inl rfl)
      nofun
    exact ⟨keeping.offers.next, keeping.live, next, .inl tends⟩

theorem process_proceeds (keeping : system.Keeping d count custody) :
    Proceeds d system count custody (system.process surroundings) := by
  have quiet (offers : List Offer) (result : Except Fault Unit) :
      (posted (system.log ++ [.processed offers result])).length = custody.posted count := by
    rw [posted_append, List.length_append, keeping.counted]
    rfl
  cases keeping.consumer with
  | inr forgot =>
    obtain ⟨rfl, none, keeps⟩ := forgot
    have meets : Consumer.process.Meets surroundings.Faulty system.consumer system.world _ _ :=
      Consumer.process_forgotten ⟨keeping.live, none, keeps⟩
    have ended := meets.run surroundings
    unfold System.process
    generalize Consumer.process.run surroundings.onHost system.consumer system.world = outcome at ended
    obtain ⟨⟨result, left⟩, world⟩ := outcome
    have forgotten : Consumer.Forgotten d count left world := by
      cases result <;> exact ended
    obtain ⟨live, gone, keeps⟩ := forgotten
    refine keeping.stays ?_ (gone.trans none.symm)
    exact ⟨keeping.offers, live, quiet _ _, .inr ⟨rfl, gone, keeps⟩⟩
  | inl tends =>
    have apart : ¬ system.Forgot d := by
      rw [keeping.forgot_iff]
      rintro ⟨none, owed⟩
      exact tends.not_forgotten owed none
    have meets : Consumer.process.Meets surroundings.Faulty system.consumer system.world _ _ :=
      Consumer.process_turned tends keeping.live
    have ended := meets.run surroundings
    unfold System.process
    generalize Consumer.process.run surroundings.onHost system.consumer system.world = outcome at ended
    obtain ⟨⟨result, left⟩, world⟩ := outcome
    have turned : Consumer.Turned d count custody left world := by
      cases result <;> exact ended
    cases turned with
    | tends live passes tends =>
      obtain ⟨counts, polls, posts⟩ := passes.counts
      refine .moves apart ⟨?_, live, ?_, .inl tends⟩ counts polls ?_
      · rw [posts]
        exact keeping.offers
      · rw [posts]
        exact quiet _ _
      · intro owed none
        exact absurd none (tends.not_forgotten owed)
    | forgets live passes forgetful keeps =>
      obtain ⟨counts, polls, posts⟩ := passes.counts
      refine .moves apart ⟨?_, live, ?_, .inr ⟨rfl, forgetful.1, keeps⟩⟩ counts polls ?_
      · rw [posts]
        exact keeping.offers
      · rw [posts]
        exact quiet _ _
      · intro _ _
        exact forgetful

theorem finish_proceeds (keeping : system.Keeping d count custody) :
    Proceeds d system count custody system.finish := by
  unfold System.finish
  split
  · exact keeping.stays keeping rfl
  · rename_i consumer finished
    unfold Consumer.finish at finished
    split at finished
    · rename_i sent
      cases finished
      refine keeping.stays ?_ rfl
      constructor
      case offers => exact keeping.offers
      case live => exact keeping.live
      case counted =>
        rw [posted_append, List.length_append, keeping.counted]
        rfl
      case consumer =>
        cases keeping.consumer with
        | inl tends =>
          cases tends with
          | free given waits keeps =>
            rw [waits] at sent
            contradiction
          | holding frame due busy keeps => exact .inl (.holding frame due nofun keeps)
        | inr forgot => exact .inr forgot
    · contradiction

theorem tick_proceeds (keeping : system.Keeping d count custody) :
    Proceeds d system count custody (system.tick surroundings) := by
  obtain ⟨pool, ticked, live⟩ := keeping.live.tick
  have called : system.tick surroundings = { system with consumer := (system.consumer.1, pool) } := by
    simp only [System.tick, Consumer.tick, Action.run_onTimer _ _ ticked]
  rw [called]
  exact keeping.stays ⟨keeping.offers, live, keeping.counted, keeping.consumer⟩ rfl

theorem call_proceeds (surroundings : Surroundings) (keeping : system.Keeping d count custody)
    (call : Call) :
    Proceeds d system count custody (system.call surroundings call) := by
  cases call with
  | post payload => exact post_proceeds payload keeping
  | process => exact process_proceeds keeping
  | finish => exact finish_proceeds keeping
  | tick => exact tick_proceeds keeping

/-- What is forgotten after some calls was forgotten by one of them. -/
theorem after_forgot_iff (surroundings : Surroundings) (keeping : system.Keeping d count custody)
    (calls : List Call) :
    (system.after surroundings calls).Forgot d ↔ system.Forgot d ∨
      ∃ earlier later, calls = earlier ++ later ∧
        (system.after surroundings earlier).consumer.1.Forgetful := by
  induction calls generalizing system count custody with
  | nil =>
    constructor
    · exact .inl
    · rintro (forgot | ⟨earlier, later, split, forgetful⟩)
      · exact forgot
      · obtain ⟨rfl, -⟩ := List.append_eq_nil_iff.mp split.symm
        exact keeping.forgot_of_forgetful forgetful
  | cons call rest ih =>
    obtain ⟨_, _, kept, _, _, lasts, arises⟩ := call_proceeds surroundings keeping call
    change ((system.call surroundings call).after surroundings rest).Forgot d ↔ _
    rw [ih kept]
    constructor
    · rintro (forgot | ⟨earlier, later, split, forgetful⟩)
      · cases arises forgot with
        | inl before => exact .inl before
        | inr forgetful => exact .inr ⟨[call], rest, rfl, forgetful⟩
      · exact .inr ⟨call :: earlier, later, by rw [split, List.cons_append], forgetful⟩
    · rintro (forgot | ⟨earlier, later, split, forgetful⟩)
      · exact .inl (lasts forgot)
      · cases earlier with
        | nil => exact .inl (lasts (keeping.forgot_of_forgetful forgetful))
        | cons first earlier =>
          obtain ⟨rfl, rest⟩ := List.cons.inj split
          exact .inr ⟨earlier, later, rest, forgetful⟩

/-- The numbers of so many writes after the first ones. -/
def numbers (first more : Nat) : List Sequence :=
  (List.range' first more).map fun place => Sequence.ofCount (place + 1)

@[simp] theorem length_numbers (first more : Nat) : (numbers first more).length = more := by
  simp only [numbers, List.length_map, List.length_range']

/-- A number that counts takes on the numbers counted. -/
theorem changes_cons {number : System → Sequence} {call : Call} {rest : List Call}
    {first second more : Nat} (before : number system = Sequence.ofCount first)
    (after : number (system.call surroundings call) = Sequence.ofCount second)
    (step : second = first ∨ second = first + 1)
    (changed : (system.call surroundings call).changes surroundings number rest =
      numbers second more) :
    system.changes surroundings number (call :: rest) = numbers first (second - first + more) := by
  simp only [changes, before, after, changed]
  rcases step with rfl | rfl
  · simp only [if_true, List.nil_append, Nat.sub_self, Nat.zero_add]
  · have total : first + 1 - first + more = more + 1 := by omega
    rw [if_neg (Sequence.ofCount_succ_ne first), total, numbers, numbers, List.range'_succ,
      List.map_cons, List.singleton_append]

/-- Messages are taken one after the other, and acknowledged one after the other. -/
theorem after_numbers (surroundings : Surroundings) (keeping : system.Keeping d count custody)
    (calls : List Call) :
    ∃ next moved, (system.after surroundings calls).Keeping d next moved ∧
      count ≤ next ∧ custody.polled count ≤ moved.polled next ∧
      system.acknowledged d surroundings calls = numbers count (next - count) ∧
      system.taken surroundings calls =
        numbers (custody.polled count) (moved.polled next - custody.polled count) := by
  induction calls generalizing system count custody with
  | nil =>
    refine ⟨count, custody, keeping, Nat.le_refl _, Nat.le_refl _, ?_, ?_⟩
    · simp [acknowledged, changes, numbers]
    · simp [taken, changes, numbers]
  | cons call rest ih =>
    obtain ⟨between, through, kept, counts, polls, _⟩ :=
      call_proceeds surroundings keeping call
    obtain ⟨next, moved, last, above, ahead, acknowledged, taken⟩ := ih kept
    refine ⟨next, moved, last, by omega, by omega, ?_, ?_⟩
    · have total : next - count = between - count + (next - between) := by omega
      rw [total]
      exact changes_cons keeping.register kept.register counts acknowledged
    · have total : moved.polled next - custody.polled count =
          through.polled between - custody.polled count +
            (moved.polled next - through.polled between) := by omega
      rw [total]
      exact changes_cons keeping.seen kept.seen polls taken

theorem setUp_keeping {owner : Role} {channel : UInt8} {retryCycles : Nat} {pool : TimerPool}
    {memory : SharedMemory}
    (made : System.setUp owner d channel retryCycles pool memory = .ok system) :
    system.Keeping d 0 .settled := by
  have sound := setUp_sound made
  have quiet : posted system.log = [] := by
    obtain ⟨idle, record⟩ := sound.recorded
    rw [record, posted, List.filterMap_replicate_of_none rfl]
  have rests : Consumer.Rests d 0 system.consumer.1 system.world.memory := by
    cases sound.stands with
    | idle rests => exact rests
  constructor
  case offers => exact ⟨sound.producing, sound.numbered⟩
  case live => exact sound.live
  case counted => rw [quiet]; rfl
  case consumer =>
    exact .inl (.free nofun rests.phase ⟨rests.consuming, fun _ => rests.numbered, rests.carries⟩)

theorem Keeping.ready_iff (keeping : system.Keeping d count custody) :
    ∃ answer, system.ready = .ok answer ∧ (answer = true ↔ custody = .settled) := by
  have answers : Channel.Sender.ready.Ensures (Action.Fails fun _ => false) anyAccess
      system.producer.sender system.world.memory (fun answer _ _ => answer = true ↔ custody = .settled)
      fun _ _ _ => Action.Fails fun _ => false :=
    (keeping.keeps.ready keeping.offers.producing).mono (fun _ granted => granted)
      (fun _ _ _ answered => answered.1) fun _ _ _ lost => lost.2.2.1
  have asks : Producer.ready.Ensures (Action.Fails fun _ => false) anyAccess system.producer
      system.world.memory (fun answer _ _ => answer = true ↔ custody = .settled)
      fun _ _ _ => Action.Fails fun _ => false := by
    unfold Producer.ready Producer.onSender
    exact Action.ensures_part answers
  have ended := asks.runFailing
  unfold System.ready
  generalize Producer.ready.runFailing (fun _ => false) system.producer system.world.memory =
    outcome at ended
  obtain ⟨⟨result, left⟩, after⟩ := outcome
  cases result with
  | error fault => exact absurd ended Action.not_fails
  | ok answer => exact ⟨answer, rfl, ended⟩

end System

/-- While the communication processor waits for a frame, it has acknowledged all that it took, and the
application may post if all that it posted was taken: unless a frame was forgotten before. -/
theorem taken_acknowledged_iff {owner : Role} {channel : UInt8} {retryCycles : Nat} {pool : TimerPool}
    {memory : SharedMemory}
    (made : System.setUp owner d channel retryCycles pool memory = .ok system) (calls : List Call)
    (waits : (system.after surroundings calls).consumer.1.phase = .waitForFrame) :
    let now := system.after surroundings calls
    let kept := ∀ earlier later, calls = earlier ++ later →
      ¬ (system.after surroundings earlier).consumer.1.Forgetful
    (system.acknowledged d surroundings calls = system.taken surroundings calls ↔ kept) ∧
      ((system.taken surroundings calls).length = (posted now.log).length →
        (now.ready = .ok true ↔ kept)) := by
  intro now kept
  have start := System.setUp_keeping made
  obtain ⟨next, moved, keeping, _, _, acknowledged, taken⟩ :=
    System.after_numbers surroundings start calls
  have held : moved ≠ .owed ↔ kept := by
    have forgot := System.after_forgot_iff surroundings start calls
    rw [keeping.forgot_iff, start.forgot_iff] at forgot
    have gone : moved = .owed → now.consumer.1.frame = none := by
      rintro rfl
      cases keeping.consumer with
      | inl tends =>
        cases tends with
        | free given waits keeps => exact absurd rfl given
        | holding frame due busy keeps => exact absurd waits busy
      | inr forgot => exact forgot.2.1
    constructor
    · intro apart earlier later split forgetful
      exact apart (forgot.mpr (.inr ⟨earlier, later, split, forgetful⟩)).2
    · intro kept owed
      rcases forgot.mp ⟨gone owed, owed⟩ with ⟨_, early⟩ | ⟨earlier, later, split, forgetful⟩
      · contradiction
      · exact kept earlier later split forgetful
  constructor
  · rw [acknowledged, taken, ← held]
    constructor
    · intro same owed
      have lengths := congrArg List.length same
      simp only [System.length_numbers, owed, Custody.polled] at lengths
      omega
    · intro apart
      cases moved with
      | settled | waiting header payload => rfl
      | owed => exact absurd rfl apart
  · intro all
    rw [taken, System.length_numbers, keeping.counted] at all
    obtain ⟨answer, ready, answered⟩ := keeping.ready_iff
    rw [ready, Except.ok.injEq, answered, ← held]
    cases moved with
    | settled => simp
    | waiting header payload =>
      simp only [Custody.polled, Custody.posted] at all
      omega
    | owed => simp

end Runs

/-- The store of the only acknowledge fails. The frame is sent and nobody holds it, but the application
may not post another one. -/
theorem taken_acknowledged_iff_forgotten :
    let surroundings : Surroundings := ⟨(· == 20), fun _ => Surroundings.plainAnswer⟩
    let calls : List Call := [.post [10], .process, .finish, .process, .process]
    ∃ system, System.setUp .consumer ⟨.ssdoTransmit, 0, 16⟩ 2 1 .empty (.zeroed 0 25) = .ok system ∧
      (system.after surroundings (calls.take 4)).consumer.1.Forgetful ∧
      (system.after surroundings calls).consumer.1.phase = .waitForFrame ∧
      system.taken surroundings calls = [1] ∧
      system.acknowledged ⟨.ssdoTransmit, 0, 16⟩ surroundings calls ≠ system.taken surroundings calls ∧
      (system.after surroundings calls).ready = .ok false := by
  intro surroundings calls
  have started : ∃ system,
      System.setUp .consumer ⟨.ssdoTransmit, 0, 16⟩ 2 1 .empty (.zeroed 0 25) = .ok system ∧
      ((system.after surroundings (calls.take 4)).consumer.1.frame = none ∧
        (system.after surroundings (calls.take 4)).consumer.1.phase ≠ .waitForFrame) ∧
      (system.after surroundings calls).consumer.1.phase = .waitForFrame ∧
      system.taken surroundings calls = [1] ∧
      (system.after surroundings calls).ready = .ok false :=
    ⟨_, rfl, by decide +kernel, by decide +kernel, by decide +kernel, by decide +kernel⟩
  obtain ⟨system, made, forgetful, waits, taken, unready⟩ := started
  refine ⟨system, made, forgetful, waits, taken, ?_, unready⟩
  intro same
  have kept := (taken_acknowledged_iff made calls waits).1.mp same
  exact kept (calls.take 4) (calls.drop 4) rfl forgetful

end NodeLink.Ssdo.Outbound

import NodeLink.Proofs.TripleBuffer.Sharing

/-! The calls of each end while the other end is at work. What the other end does in between is known
from the rely alone, so each call is looked at by itself. -/
namespace NodeLink.TripleBuffer

open Shared

variable {d : Descriptor} {buffer : TripleBuffer} {world : Shared d} {payload : Bytes}
  {lastSeen : Sequence} {call : Call}

section Producing

/-- A slot looks the same to a filling run of its own, and is neither latest nor claimed. -/
structure SeesFree (d : Descriptor) (slot : UInt8) (count : Nat) (alone : SharedMemory)
    (world : Shared d) : Prop where
  same : ∀ address, d.InSlot slot address → alone.load address = world.memory.load address
  apart : slot ≠ world.latest
  free : world.claim ≠ some slot
  count : world.published.length = count

theorem SeesFree.later {slot : UInt8} {count : Nat} {alone : SharedMemory} {later : Shared d}
    (sees : SeesFree d slot count alone world) (changed : ByConsumer world later) :
    SeesFree d slot count alone later where
  same address inside := (sees.same address inside).trans
    (changed.same.2 address (Descriptor.control_ne_of_inSlot inside).2).symm
  apart := changed.latest ▸ sees.apart
  free taken := by
    rcases changed.claim with kept | gone | latest
    · exact sees.free (kept ▸ taken)
    · rw [gone] at taken
      contradiction
    · rw [latest] at taken
      exact sees.apart (Option.some.inj taken).symm
  count := changed.published ▸ sees.count

theorem SeesFree.holds {slot : UInt8} {count : Nat} {alone : SharedMemory} {seq : Sequence}
    (sees : SeesFree d slot count alone world) (holds : d.Holds alone slot seq payload) :
    d.Holds world.memory slot seq payload :=
  holds.congr fun address inside => (sees.same address inside).symm

theorem fillSlot_guarantees {slot : UInt8} {count : Nat} {seq : Sequence}
    (region : buffer.region = d) (valid : slot.toNat < 3) (fits : payload.length ≤ buffer.slotSize)
    (sees : SeesFree d slot count world.memory world) :
    (fillSlot slot seq payload).Guarantees ByConsumer (ProducerAccess d call) buffer world
      (fun _ left after => left = buffer ∧ ∃ alone, SeesFree d slot count alone after ∧
        d.Holds alone slot seq payload)
      fun _ _ _ => False := by
  subst region
  have filled : (fillSlot slot seq payload).Ensures False _ buffer world.memory _ _ :=
    fillSlot_ensures world.shows.laid valid fits
  refine (Prog.Guarantees.of_ensures (SeesFree buffer.region slot count)
    (fun _ _ _ => SeesFree.later) ?_ sees filled).mono ?_
  · intro request alone state permitted sees
    cases request with
    | load address => exact permitted.elim
    | store address word =>
      have same := sees.same address permitted
      have result := SharedMemory.store_result_of_load_eq word same
      refine ⟨_, (alone.store address word).2, _, .inl rfl,
        producer_storeInSlot permitted sees.apart sees.free result, ?_, sees.apart, sees.free,
        sees.count⟩
      intro other inside
      exact SharedMemory.load_store_of_load_eq word same (sees.same other inside)
  · rintro ⟨fault | done, left⟩ after ⟨alone, sees, ended⟩
    · exact ended.2.2
    · exact ⟨ended.1, alone, sees, ended.2⟩

/-- A payload that fits is published, whatever the consumer does meanwhile. -/
theorem write_publishes (producing : buffer.Produces d) (fits : payload.length ≤ buffer.slotSize) :
    (write payload).Guarantees ByConsumer (ProducerAccess d (.write payload)) buffer world
      (fun _ left after => left = buffer ∧ after.published.length = world.published.length + 1)
      fun _ _ _ => False := by
  obtain ⟨role, rfl⟩ := producing
  refine requireRole_among (fun _ => Action.Guarantees.get_then ?_) fun wrong => absurd role wrong
  rw [if_neg (Nat.not_lt.mpr fits)]
  refine load_among fun named before => ?_
  refine ⟨_, named, producer_load named.shows.producer, ?_⟩
  refine load_among fun found changed => ?_
  refine ⟨_, found, producer_load found.shows.consumer, ?_⟩
  simp only [ControlWord.ofWord_toWord, Sequence.next_ofCount]
  rw [← before.published, ← changed.latest, ← changed.published]
  obtain ⟨valid, apart, unread⟩ := freeSlot_spec found.latest found.control.slot
  have sees : SeesFree buffer.region (freeSlot found.latest found.control.slot)
      found.published.length found.memory found :=
    ⟨fun _ _ => rfl, apart, fun taken => unread (found.claimed _ taken).symm, rfl⟩
  apply Action.Guarantees.bind byConsumer_interference _
    ((fillSlot_guarantees rfl valid fits sees).mono (fun _ _ _ done => done) fun _ _ _ => False.elim)
  rintro _ _ filled ⟨rfl, alone, sees, holds⟩
  refine store_among fun later changed => ?_
  have sees := sees.later changed
  have holds := sees.holds holds
  rw [← sees.count] at holds ⊢
  refine ⟨_, producer_publish valid holds sees.free, fun final changed => ⟨rfl, ?_⟩⟩
  rw [changed.published]
  exact List.length_append

theorem write_guarantees (producing : buffer.Produces d) :
    (write payload).Guarantees ByConsumer (ProducerAccess d (.write payload)) buffer world
      (fun _ left _ => left = buffer) fun _ left _ => left = buffer := by
  by_cases fits : payload.length ≤ buffer.slotSize
  · apply (write_publishes producing fits).mono
    · rintro _ left _ ⟨rfl, _⟩
      rfl
    · intro _ _ _ lost
      exact lost.elim
  · refine requireRole_among (fun _ => Action.Guarantees.get_then ?_) fun _ _ _ => rfl
    rw [if_pos (Nat.lt_of_not_le fits)]
    intro _ _
    rfl

theorem acknowledged_guarantees (producing : buffer.Produces d) :
    acknowledged.Guarantees ByConsumer (ProducerAccess d call) buffer world
      (fun _ left _ => left = buffer) fun _ left _ => left = buffer := by
  obtain ⟨role, rfl⟩ := producing
  refine requireRole_among (fun _ => ?_) fun _ _ _ => rfl
  refine load_among fun named _ => ⟨_, named, producer_load named.shows.producer, ?_⟩
  refine load_among fun found _ => ⟨_, found, producer_load found.shows.consumer, ?_⟩
  intro _ _
  rfl

end Producing

section Consuming

/-- The consumer has claimed the slot that was the latest one when it looked last. -/
structure Claimed (seen : Shared d) (control : ControlWord) (world : Shared d) : Prop where
  control : control = ⟨.ofCount seen.published.length, seen.latest⟩
  claim : seen.claim = some seen.latest
  since : ByProducer seen world

theorem Claimed.holds {seen : Shared d} {control : ControlWord} (claimed : Claimed seen control world)
    (last : seen.published.getLast? = some payload) :
    d.Holds world.memory seen.latest (.ofCount seen.published.length) payload :=
  (seen.shows.holds payload last).congr (claimed.since.kept _ claimed.claim)

theorem load_producer {next : UInt32 → Operation α} {ok : α → TripleBuffer → Shared d → Prop}
    {failed : Fault → TripleBuffer → Shared d → Prop} (region : buffer.region = d)
    (rest : ∀ later, ByProducer world later →
      (next (ControlWord.toWord ⟨.ofCount later.published.length, later.latest⟩)).Guarantees
        ByProducer (ConsumerAccess d) buffer later ok failed) :
    (loadProducer >>= next).Guarantees ByProducer (ConsumerAccess d) buffer world ok failed := by
  subst region
  refine load_among fun later changed => ⟨_, later, consumer_load later.shows.producer ?_, ?_⟩
  · intro slot inside
    exact (Descriptor.control_ne_of_inSlot inside).1 rfl
  · exact rest later changed

/-- A claim fails only if the latest write changed at each attempt. -/
theorem claim_guarantees {acked : Sequence} {attempts since tries count : Nat} {slot : UInt8}
    (region : buffer.region = d) (moved : since + tries ≤ count)
    (upto : count ≤ world.published.length)
    (same : world.published.length = count → world.latest = slot) :
    (claim acked attempts (ControlWord.toWord ⟨.ofCount count, slot⟩)).Guarantees ByProducer
      (ConsumerAccess d) buffer world
      (fun control left after => left = { buffer with reading := control.slot } ∧
        ∃ seen, Claimed seen control after ∧ since ≤ seen.published.length)
      fun fault left after => (∃ reading, left = { buffer with reading }) ∧ fault = .busy ∧
        since + tries + attempts ≤ after.published.length := by
  induction attempts generalizing buffer world tries count slot with
  | zero =>
    intro later changed
    exact ⟨⟨_, rfl⟩, rfl, Nat.le_trans (Nat.le_trans moved upto) changed.published.length_le⟩
  | succ attempts ih =>
    unfold claim
    simp only [ControlWord.ofWord_toWord]
    apply Action.Guarantees.modify_then
    subst region
    refine store_among fun registered changed => ⟨_, consumer_register, ?_⟩
    have upto := Nat.le_trans upto changed.published.length_le
    have same (still : registered.published.length = count) : registered.latest = slot := by
      have before := changed.published.length_le
      exact (changed.latest (by omega)).trans (same (by omega))
    refine load_among fun later changed => ?_
    have named : later.control.slot = slot := congrArg ControlWord.slot changed.control
    have further : registered.published.length ≤ later.published.length :=
      changed.published.length_le
    by_cases again : ControlWord.toWord ⟨.ofCount later.published.length, later.latest⟩ =
        ControlWord.toWord ⟨.ofCount count, slot⟩
    · have control : ControlWord.mk (.ofCount later.published.length) later.latest =
          ⟨.ofCount count, slot⟩ := by
        rw [← ControlWord.ofWord_toWord ⟨.ofCount later.published.length, later.latest⟩, again,
          ControlWord.ofWord_toWord]
      have latest : slot = later.latest := (congrArg ControlWord.slot control).symm
      refine ⟨_, _, consumer_grant (named.trans latest), ?_⟩
      rw [if_pos again]
      intro final changed
      exact ⟨rfl, later.grant (named.trans latest), ⟨control.symm, rfl, changed⟩, by
        change since ≤ later.published.length
        omega⟩
    · have advanced : count + 1 ≤ later.published.length := by
        by_contra behind
        have still : later.published.length = registered.published.length := by omega
        have latest : later.latest = slot := (changed.latest still).trans (same (by omega))
        have equal : later.published.length = count := by omega
        rw [latest, equal] at again
        exact again rfl
      refine ⟨_, later, consumer_load later.shows.producer
        fun slot inside => (Descriptor.control_ne_of_inSlot inside).1 rfl, ?_⟩
      rw [if_neg again]
      have moved : since + (tries + 1) ≤ later.published.length := by omega
      have region : ({ buffer with reading := slot } : TripleBuffer).region = buffer.region := rfl
      apply (ih region moved (Nat.le_refl _) fun _ => rfl).mono (fun _ _ _ taken => taken)
      rintro fault left after ⟨⟨reading, rfl⟩, rfl, many⟩
      exact ⟨⟨reading, rfl⟩, rfl, by omega⟩

theorem claimLatest_guarantees {since : Nat} (region : buffer.region = d)
    (start : since ≤ world.published.length) :
    claimLatest.Guarantees ByProducer (ConsumerAccess d) buffer world
      (fun control left after => (∃ reading, left = { buffer with reading }) ∧
        ∃ seen, Claimed seen control after ∧ since ≤ seen.published.length)
      fun fault left after => (∃ reading, left = { buffer with reading }) ∧ fault = .busy ∧
        since + claimAttempts ≤ after.published.length := by
  unfold claimLatest
  subst region
  refine load_among fun found changed => ⟨_, found, consumer_load found.shows.consumer
    fun slot inside => (Descriptor.control_ne_of_inSlot inside).2 rfl, ?_⟩
  refine load_producer rfl fun named changed' => ?_
  have moved : since + 0 ≤ named.published.length := Nat.le_trans start
    (Nat.le_trans changed.published.length_le changed'.published.length_le)
  refine (claim_guarantees rfl moved (Nat.le_refl _) fun _ => rfl).mono ?_
    fun _ _ _ failed => failed
  rintro control left after ⟨rfl, taken⟩
  exact ⟨⟨_, rfl⟩, taken⟩

/-- A claimed slot looks the same to a copying run of its own. -/
structure SeesClaimed (seen : Shared d) (control : ControlWord) (alone : SharedMemory)
    (world : Shared d) : Prop where
  same : ∀ address, d.InSlot seen.latest address → alone.load address = world.memory.load address
  claimed : Claimed seen control world

theorem copySlot_guarantees {room : Nat} {seen : Shared d} {control : ControlWord}
    (consuming : buffer.Consumes d lastSeen) (claimed : Claimed seen control world)
    (last : seen.published.getLast? = some payload) :
    (copySlot control room).Guarantees ByProducer (ConsumerAccess d) buffer world
      (fun attempt left after => Claimed seen control after ∧
        Answered False d seen.published lastSeen attempt left)
      fun fault left _ => left = buffer ∧ fault = .error .bufferTooSmall := by
  have holds := claimed.holds last
  obtain ⟨rfl, claim, since⟩ := claimed
  have region := consuming.region
  subst region
  have copied : (copySlot _ room).Ensures False _ buffer world.memory _ _ :=
    copySlot_ensures world.shows.laid.small holds
  refine (Prog.Guarantees.of_ensures (SeesClaimed seen _) ?_ ?_
    ⟨fun _ _ => rfl, rfl, claim, since⟩ copied).mono ?_
  · rintro alone state later ⟨same, -, claim, since⟩ changed
    refine ⟨fun address inside => (same address inside).trans (changed.kept _ ?_ address inside).symm,
      rfl, claim, byProducer_interference.trans since changed⟩
    exact since.claim.trans claim
  · rintro request alone state permitted ⟨same, claimed⟩
    cases request with
    | load address =>
      refine ⟨_, alone, state, ⟨.inl rfl, rfl⟩, ⟨?_, ?_, byConsumer_interference.refl state⟩,
        same, claimed⟩
      · exact Prod.ext (same address permitted) rfl
      · intro slot copies
        have equal : slot = seen.latest := by
          by_contra distinct
          exact Descriptor.not_inSlot_of_ne distinct copies permitted
        exact equal ▸ claimed.since.claim.trans claimed.claim
    | store address word => exact permitted.elim
  · rintro ⟨fault | attempt, left⟩ after ⟨alone, sees, ended⟩
    · exact ⟨ended.1, ended.2.elim (fun faulty => faulty.1.elim) fun short => short.2⟩
    · exact ⟨sees.claimed, Copied.answered ended consuming last⟩

/-- A read returns a write that was the latest one at some time during the read, whatever is written
meanwhile; it is busy only if as many writes were published meanwhile as it attempts claims. -/
theorem tryRead_guarantees {room since : Nat} (consuming : buffer.Consumes d lastSeen)
    (start : since ≤ world.published.length) :
    (tryRead room).Guarantees ByProducer (ConsumerAccess d) buffer world
      (fun attempt left after => ∃ earlier, earlier <+: after.published ∧ since ≤ earlier.length ∧
        Answered False d earlier lastSeen attempt left)
      fun fault left after => left.Consumes d lastSeen ∧
        (fault = .busy ∧ since + claimAttempts ≤ after.published.length ∨
          fault = .error .bufferTooSmall) := by
  refine requireRole_among (fun role => ?_) fun wrong => absurd consuming.role wrong
  refine Action.Guarantees.bind byProducer_interference _
    ((claimLatest_guarantees consuming.region start).mono (fun _ _ _ claimed => claimed) ?_) ?_
  · rintro fault _ after ⟨⟨reading, rfl⟩, rfl, many⟩
    exact ⟨⟨role, consuming.region, consuming.seen⟩, .inl ⟨rfl, many⟩⟩
  rintro control _ after ⟨⟨reading, rfl⟩, seen, claimed, during⟩
  have consuming : ({ buffer with reading } : TripleBuffer).Consumes d lastSeen :=
    ⟨role, consuming.region, consuming.seen⟩
  cases last : seen.published.getLast? with
  | none =>
    have empty : seen.published = [] := List.getLast?_eq_none_iff.mp last
    have zero : control.seq = 0 := by rw [claimed.control, empty]; rfl
    rw [if_pos zero]
    intro final changed
    refine ⟨seen.published, claimed.since.published.trans changed.published, during, .inl ?_⟩
    rw [empty]
    exact ⟨_, rfl, .inl ⟨rfl, rfl, rfl⟩, consuming⟩
  | some payload =>
    have written : control.seq ≠ 0 := by
      rw [claimed.control, Ne, Sequence.ofCount_eq_zero_iff, List.length_eq_zero_iff]
      intro empty
      rw [empty] at last
      contradiction
    rw [if_neg written]
    apply (copySlot_guarantees consuming claimed last).mono
    · rintro attempt left after ⟨claimed, answered⟩
      exact ⟨seen.published, claimed.since.published, during, answered⟩
    · rintro fault _ after ⟨rfl, small⟩
      exact ⟨consuming, .inr small⟩

theorem hasFresh_guarantees (consuming : buffer.Consumes d lastSeen) :
    hasFresh.Guarantees ByProducer (ConsumerAccess d) buffer world
      (fun _ left _ => left = buffer) fun _ left _ => left = buffer := by
  refine requireRole_among (fun _ => ?_) fun _ _ _ => rfl
  exact load_producer consuming.region fun _ _ _ _ => rfl

theorem acknowledge_guarantees {seq : Sequence} (consuming : buffer.Consumes d lastSeen) :
    (acknowledge seq).Guarantees ByProducer (ConsumerAccess d) buffer world
      (fun _ left _ => left = buffer) fun _ left _ => left = buffer := by
  obtain ⟨role, rfl, rfl⟩ := consuming
  refine requireRole_among (fun _ => Action.Guarantees.get_then ?_) fun _ _ _ => rfl
  exact store_last fun later _ => ⟨_, consumer_register, fun _ _ => rfl⟩

end Consuming

section Replies

theorem replyWith_guarantees {α ω : Type} {rely : ω → ω → Prop} {access : Semantics Words ω}
    {world : ω} {operation : Operation α} {reply : Except Fault α → Reply}
    {ok : Reply → TripleBuffer → ω → Prop} {failed : Fault → TripleBuffer → ω → Prop}
    (among : Interference rely)
    (holds : operation.Guarantees rely access buffer world (fun value => ok (reply (.ok value)))
      fun fault => ok (reply (.error fault))) :
    (replyWith reply operation).Guarantees rely access buffer world ok failed := by
  change (((operation buffer).bind _).bind _).inWords.Guarantees _ _ _ _
  rw [Prog.bind_assoc, Prog.inWords_bind]
  refine Prog.guarantees_bind among (Prog.Guarantees.mono (holds.still among) ?_)
  rintro ⟨fault | value, left⟩ after ended <;> exact ended

theorem replyWith_unchanged {α ω : Type} {rely : ω → ω → Prop} {access : Semantics Words ω}
    {world : ω} {operation : Operation α} {reply : Except Fault α → Reply}
    {ok : Reply → TripleBuffer → ω → Prop} {failed : Fault → TripleBuffer → ω → Prop}
    (among : Interference rely)
    (holds : operation.Guarantees rely access buffer world (fun _ left _ => left = buffer)
      fun _ left _ => left = buffer)
    (ends : ∀ result after, ok (reply result) buffer after) :
    (replyWith reply operation).Guarantees rely access buffer world ok failed := by
  refine replyWith_guarantees among (holds.mono ?_ ?_)
  · rintro value _ after rfl
    exact ends (.ok value) after
  · rintro fault _ after rfl
    exact ends (.error fault) after

/-- A reply that tells of no read. -/
def Reply.Apart : Reply → Prop
  | .read _ attempt => attempt = .error (.error .invalidOperation)
  | _ => True

/-- What a consuming end replies after any number of writes. -/
def Reply.Reads (d : Descriptor) (published : List Bytes) (since : Nat) (lastSeen : Sequence)
    (left : TripleBuffer) : Reply → Prop
  | .read _ (.ok attempt) => ∃ earlier, earlier <+: published ∧ since ≤ earlier.length ∧
    Answered False d earlier lastSeen attempt left
  | .read _ (.error fault) => left.Consumes d lastSeen ∧
    (fault = .busy ∧ since + claimAttempts ≤ published.length ∨ fault = .error .bufferTooSmall)
  | _ => left.Consumes d lastSeen

theorem perform_producing (producing : buffer.Produces d) :
    call.perform.Guarantees ByConsumer (ProducerAccess d call) buffer world
      (fun reply left _ => left.Produces d ∧ reply.Apart) fun _ _ _ => False := by
  have refused {role : Role} (other : role = .consumer) : buffer.role ≠ role := by
    rw [producing.role, other]
    exact nofun
  cases call with
  | write payload =>
    exact replyWith_unchanged byConsumer_interference (write_guarantees producing)
      fun _ _ => ⟨producing, trivial⟩
  | acknowledged =>
    exact replyWith_unchanged byConsumer_interference (acknowledged_guarantees producing)
      fun _ _ => ⟨producing, trivial⟩
  | read room =>
    exact replyWith_guarantees byConsumer_interference (requireRole_among
      (fun right => absurd right (refused rfl)) fun _ _ _ => ⟨producing, rfl⟩)
  | hasFresh =>
    exact replyWith_guarantees byConsumer_interference (requireRole_among
      (fun right => absurd right (refused rfl)) fun _ _ _ => ⟨producing, trivial⟩)
  | acknowledge seq =>
    exact replyWith_guarantees byConsumer_interference (requireRole_among
      (fun right => absurd right (refused rfl)) fun _ _ _ => ⟨producing, trivial⟩)

theorem perform_consuming {since : Nat} (consuming : buffer.Consumes d lastSeen)
    (start : since ≤ world.published.length) :
    call.perform.Guarantees ByProducer (ConsumerAccess d) buffer world
      (fun reply left after => reply.Reads d after.published since lastSeen left)
      fun _ _ _ => False := by
  have refused {role : Role} (other : role = .producer) : buffer.role ≠ role := by
    rw [consuming.role, other]
    exact nofun
  cases call with
  | write payload =>
    exact replyWith_guarantees byProducer_interference (requireRole_among
      (fun right => absurd right (refused rfl)) fun _ _ _ => consuming)
  | acknowledged =>
    exact replyWith_guarantees byProducer_interference (requireRole_among
      (fun right => absurd right (refused rfl)) fun _ _ _ => consuming)
  | read room =>
    exact replyWith_guarantees byProducer_interference ((tryRead_guarantees consuming start).mono
      (fun _ _ _ found => found) fun _ _ _ failed => failed)
  | hasFresh =>
    exact replyWith_unchanged byProducer_interference (hasFresh_guarantees consuming)
      fun _ _ => consuming
  | acknowledge seq =>
    exact replyWith_unchanged byProducer_interference (acknowledge_guarantees consuming)
      fun _ _ => consuming

end Replies

end NodeLink.TripleBuffer

import NodeLink.Proofs.Outage
import NodeLink.Proofs.TripleBuffer.Footprint
import NodeLink.Proofs.TripleBuffer.Freshness

/-! Calls that a failed access cuts short. What the two ends answer is told by a record of what passed
through the buffer. A call of which no access fails moves the record on, and one that is cut short
leaves the buffer standing for the same record: a write has touched only the slot that it was filling,
which neither control word names, and a read only the claim in the consumer's register. -/
namespace NodeLink

namespace TripleBuffer

section Quits

variable {α : Type} {buffer : TripleBuffer} {address : TripleBuffer → Nat} {word : UInt32}
  {bytes : Nat → Prop} {lost : Except Fault α × TripleBuffer → Prop}

/-- An operation on the bus that ends with the first access that fails. -/
abbrev Quits (bytes : Nat → Prop) (lost : Except Fault α × TripleBuffer → Prop)
    (operation : Operation α) (buffer : TripleBuffer) : Prop :=
  (operation buffer).Quits Medium.failing bytes lost

/-- An operation that tells of its failed access. -/
abbrev Lost (outcome : Except Fault α × TripleBuffer) : Prop := outcome.1 = .error (.error .medium)

theorem quits_load_then {next : UInt32 → Operation α}
    (rest : ∀ word, Quits bytes lost (next word) buffer)
    (gave : lost (.error (.error .medium), buffer)) :
    Quits bytes lost (load address >>= next) buffer := by
  refine ⟨fun _ => False.elim, fun answer => ⟨?_, fun _ => ?_⟩⟩
  · rintro rfl
    exact ⟨_, rfl, gave⟩
  · cases answer with
    | error error => trivial
    | ok word => exact rest word

theorem quits_store_then {next : Unit → Operation α}
    (rest : Quits bytes lost (next ()) buffer)
    (gave : lost (.error (.error .medium), buffer)) :
    Quits bytes lost (store address word >>= next) buffer := by
  refine ⟨fun _ => False.elim, fun answer => ⟨?_, fun _ => ?_⟩⟩
  · rintro rfl
    exact ⟨_, rfl, gave⟩
  · cases answer with
    | error error => trivial
    | ok done => exact rest

theorem quits_storeBytes_then {payload : Bytes} {next : Unit → Operation α}
    (spills : ∀ other, Within (address buffer) payload.words.length other → bytes other)
    (rest : Quits bytes lost (next ()) buffer)
    (gave : lost (.error (.error .medium), buffer)) :
    Quits bytes lost (storeBytes address payload >>= next) buffer := by
  refine ⟨spills, fun answer => ⟨?_, fun _ => ?_⟩⟩
  · rintro rfl
    exact ⟨_, rfl, gave⟩
  · cases answer with
    | error error => trivial
    | ok done => exact rest

theorem quits_requireRole_then {role : Role} {next : Unit → Operation α}
    (rest : Quits bytes lost (next ()) buffer) :
    Quits bytes lost (requireRole role >>= next) buffer := by
  by_cases right : buffer.role = role
  · unfold Quits
    rw [requireRole_of_eq right]
    exact rest
  · unfold Quits
    rw [requireRole_of_ne right]
    trivial

theorem quits_bind {β : Type} {action : Operation β} {next : β → Operation α}
    (first : Quits bytes Lost action buffer) (rest : ∀ value left, Quits bytes lost (next value) left)
    (gave : ∀ left, lost (.error (.error .medium), left)) :
    Quits bytes lost (action >>= next) buffer := by
  apply Prog.Quits.bind first
  · rintro ⟨fault | value, left⟩
    · trivial
    · exact rest value left
  · rintro ⟨_, left⟩ rfl
    exact ⟨_, rfl, gave left⟩

theorem quits_outcome_then {β : Type} {action : Operation β} {next : Except Fault β → Operation α}
    (first : Quits bytes Lost action buffer)
    (rest : ∀ result left, Quits bytes lost (next result) left)
    (gave : ∀ left, ∃ value, next (.error (.error .medium)) left = .done value ∧ lost value) :
    Quits bytes lost (Action.outcome action >>= next) buffer := by
  change (((action buffer).bind _).bind _).Quits _ _ _
  rw [Prog.bind_assoc]
  apply Prog.Quits.bind first
  · rintro ⟨result, left⟩
    exact rest result left
  · rintro ⟨_, left⟩ rfl
    exact gave left

theorem hasFresh_quits : Quits bytes Lost hasFresh buffer := by
  apply quits_requireRole_then
  apply quits_load_then
  · intro word
    trivial
  · rfl

theorem acknowledged_quits : Quits bytes Lost acknowledged buffer := by
  apply quits_requireRole_then
  apply quits_load_then
  · intro word
    apply quits_load_then
    · intro word
      trivial
    · rfl
  · rfl

theorem acknowledge_quits (seq : Sequence) : Quits bytes Lost (acknowledge seq) buffer := by
  apply quits_requireRole_then
  refine ⟨fun _ => False.elim, fun answer => ⟨?_, fun _ => trivial⟩⟩
  rintro rfl
  exact ⟨_, rfl, rfl⟩

theorem claim_quits (acked : Sequence) (attempts : Nat) (word : UInt32) :
    Quits bytes Lost (claim acked attempts word) buffer := by
  induction attempts generalizing word buffer with
  | zero => trivial
  | succ attempts ih =>
    change Quits bytes Lost (storeConsumer _ >>= _) _
    apply quits_store_then
    · apply quits_load_then
      · intro again
        split
        · trivial
        · exact ih again
      · rfl
    · rfl

theorem claimLatest_quits : Quits bytes Lost claimLatest buffer := by
  apply quits_load_then
  · intro claimed
    apply quits_load_then
    · intro latest
      exact claim_quits _ _ latest
    · rfl
  · rfl

/-- A read tells of its failed access, after the bytes that it moved or at once. -/
def LostRead (outcome : Except Fault ReadAttempt × TripleBuffer) : Prop :=
  outcome.1 = .error (.error .medium) ∨ ∃ moved, outcome.1 = .ok ⟨moved, .error (.error .medium)⟩

theorem observe_quits (seq : Sequence) (size : Nat) : Quits bytes Lost (observe seq size) buffer := by
  change Quits bytes Lost (if seq.isFresh buffer.lastSeen then _ else _) buffer
  split
  · trivial
  · trivial

theorem copySlot_quits (claimed : ControlWord) (room : Nat) :
    Quits bytes LostRead (copySlot claimed room) buffer := by
  apply quits_load_then
  · intro last
    apply quits_load_then
    · intro size
      change Quits bytes LostRead (if buffer.slotSize < size.toNat then _ else _) buffer
      split
      · trivial
      · split
        · trivial
        · refine ⟨fun _ => False.elim, fun transfer => ?_⟩
          obtain ⟨moved, failure⟩ := transfer
          constructor
          · rintro rfl
            exact ⟨_, rfl, .inr ⟨moved, rfl⟩⟩
          · intro _
            apply quits_outcome_then
            · cases failure with
              | some error => trivial
              | none =>
                apply quits_load_then
                · intro first
                  change Quits bytes Lost (if _ then _ else _) buffer
                  split
                  · trivial
                  · exact observe_quits _ _
                · rfl
            · intro result left
              trivial
            · intro left
              exact ⟨_, rfl, .inr ⟨moved, rfl⟩⟩
    · exact .inl rfl
  · exact .inl rfl

theorem tryRead_quits (room : Nat) : Quits bytes LostRead (tryRead room) buffer := by
  apply quits_requireRole_then
  apply quits_bind claimLatest_quits
  · intro claimed left
    split
    · trivial
    · exact copySlot_quits claimed room
  · intro left
    exact .inl rfl

theorem fillSlot_quits {slot : UInt8} {seq : Sequence} {payload : Bytes}
    (fits : payload.length ≤ buffer.slotSize) :
    Quits (buffer.region.InSlot slot) Lost (fillSlot slot seq payload) buffer := by
  apply quits_store_then
  · apply quits_store_then
    · apply quits_storeBytes_then
      · intro other inside
        exact Descriptor.inSlot_data fits inside
      · refine ⟨fun _ => False.elim, fun answer => ⟨?_, fun _ => trivial⟩⟩
        rintro rfl
        exact ⟨_, rfl, rfl⟩
      · rfl
    · rfl
  · rfl

end Quits

section Runs

variable {α : Type} {outage : Bus.Outage} {faults : Prop} {d : Descriptor} {buffer : TripleBuffer}
  {memory : SharedMemory} {published : List Bytes} {latest : UInt8} {control : ControlWord}
  {acked lastSeen : Sequence} {payload : Bytes} {bytes : Nat → Prop}
  {lost : Except Fault α × TripleBuffer → Prop}

/-- How an operation ends that is run over the bus. -/
abbrev EndsOn (outage : Bus.Outage) (operation : Operation α) (buffer : TripleBuffer)
    (memory : SharedMemory) (first : Nat)
    (calm broken : Except Fault α × TripleBuffer → SharedMemory → Prop) : Prop :=
  outage.Ends ((operation buffer).interpret Bus.answer) memory first calm broken

theorem endsOn_of_quits {operation : Operation α} {first : Nat}
    {post : Prop → Except Fault α × TripleBuffer → SharedMemory → Prop}
    (quits : Quits bytes lost operation buffer)
    (holds : ∀ faults, (operation buffer).inWords.Ensures (SharedMemory.Answers faults) anyAccess
      memory (post faults)) :
    EndsOn outage operation buffer memory first (post False) fun outcome after =>
      lost outcome ∧ ∃ last, post True outcome last ∧ SharedMemory.SameOutside bytes last after :=
  Bus.Outage.ends_of_quits (quits.interpret Bus.answer_quits) holds

/-- A load goes on with the word, or the operation ends. -/
theorem endsOn_load_then {address : TripleBuffer → Nat} {word : UInt32} {first : Nat}
    {next : UInt32 → Operation α} {calm broken : Except Fault α × TripleBuffer → SharedMemory → Prop}
    (loaded : memory.load (address buffer) = .ok word)
    (rest : ∀ first, EndsOn outage (next word) buffer memory first calm broken)
    (gave : broken (.error (.error .medium), buffer) memory) :
    EndsOn outage (load address >>= next) buffer memory first calm broken := by
  have found : SharedMemory.onBus (.load (address buffer)) memory = (.ok word, memory) := by
    change (memory.load (address buffer), memory) = _
    rw [loaded]
  apply Bus.Outage.ends_ask
  · rw [found]
    exact rest _
  · exact ⟨_, rfl, fun _ => gave⟩

/-- A write that an access cuts short has touched the slot that it was filling, and no other word. -/
theorem write_endsOn (producing : buffer.Produces d)
    (shows : d.Shows memory published latest control) :
    EndsOn outage (write payload) buffer memory 0
      (fun outcome after => outcome.2 = buffer ∧
        (d.size < payload.length ∧ outcome.1 = .error (.error .payloadTooLarge) ∧ after = memory ∨
          payload.length ≤ d.size ∧ outcome.1 = .ok (.ofCount (published.length + 1)) ∧
            d.Shows after (published ++ [payload]) (freeSlot latest control.slot) control))
      fun outcome after => payload.length ≤ d.size ∧ outcome = (.error (.error .medium), buffer) ∧
        SharedMemory.SameOutside (d.InSlot (freeSlot latest control.slot)) memory after := by
  obtain ⟨role, rfl⟩ := producing
  unfold EndsOn write
  rw [requireRole_of_eq role]
  change outage.Ends (((if buffer.slotSize < payload.length then _ else _ : Operation Sequence)
    buffer).interpret Bus.answer) _ _ _ _
  by_cases large : buffer.slotSize < payload.length
  · rw [if_pos large]
    exact Bus.Outage.ends_done ⟨rfl, .inl ⟨large, rfl, rfl⟩⟩
  rw [if_neg large]
  have fits : payload.length ≤ buffer.slotSize := Nat.not_lt.mp large
  obtain ⟨valid, apart, -⟩ := freeSlot_spec latest control.slot
  apply endsOn_load_then shows.producer
  · intro second
    apply endsOn_load_then shows.consumer
    · intro third
      simp only [ControlWord.ofWord_toWord]
      have quits : Quits (buffer.region.InSlot (freeSlot latest control.slot)) Lost
          (do
            fillSlot (freeSlot latest control.slot) (.ofCount (published.length + 1)) payload
            storeProducer ⟨.ofCount (published.length + 1), freeSlot latest control.slot⟩
            return Sequence.ofCount (published.length + 1)) buffer := by
        apply quits_bind (fillSlot_quits fits)
        · intro _ left
          apply quits_store_then
          · trivial
          · rfl
        · intro left
          rfl
      apply (endsOn_of_quits quits fun faults =>
        (publish_shows shows valid apart fits).mono (fun _ _ => trivial) (fun _ _ _ done => done)
          fun _ _ _ lost => lost).mono
      · rintro ⟨fault | seq, left⟩ after ended
        · exact ended.2.1.elim
        · obtain ⟨rfl, rfl, shows⟩ := ended
          exact ⟨rfl, .inr ⟨fits, rfl, shows⟩⟩
      · rintro ⟨fault | seq, left⟩ after ⟨lost, last, ended, spilled⟩
        · obtain ⟨rfl, -, rfl, same⟩ := ended
          exact ⟨fits, rfl, same.trans spilled⟩
        · cases lost
    · exact ⟨fits, rfl, .refl _ _⟩
  · exact ⟨fits, rfl, .refl _ _⟩

/-- A copy without room fails. -/
theorem copySlot_short {room : Nat} {slot : UInt8} {seq : Sequence}
    (small : buffer.slotSize ≤ 65535) (holds : buffer.region.Holds memory slot seq payload)
    (short : room < payload.length) :
    (copySlot ⟨seq, slot⟩ room).Ensures faults anyAccess buffer memory (fun _ _ _ => False)
      fun _ _ _ => True := by
  have fits : payload.length ≤ buffer.slotSize := holds.fits
  have size : (UInt32.ofNat payload.length).toNat = payload.length :=
    UInt32.toNat_ofNat_of_lt' (Nat.lt_of_le_of_lt (Nat.le_trans fits small) (by decide))
  apply load_then trivial holds.last
  · apply load_then trivial holds.length
    · rw [size]
      change Action.Ensures _ _ (if buffer.slotSize < payload.length then _ else _) _ _ _ _
      rw [if_neg (Nat.not_lt.mpr fits), if_pos short]
      trivial
    · exact fun _ => trivial
  · exact fun _ => trivial

theorem tryRead_short {room : Nat} (consuming : buffer.Consumes d lastSeen)
    (shows : d.Shows memory published latest control) (last : published.getLast? = some payload)
    (short : room < payload.length) :
    (tryRead room).Ensures faults anyAccess buffer memory (fun _ _ _ => False)
      fun _ _ _ => True := by
  obtain ⟨role, rfl, -⟩ := consuming
  apply requireRole_then role
  apply Action.Ensures.bind _ ((claimLatest_ensures shows).mono (fun _ granted => granted)
    (fun _ _ _ claimed => claimed) fun _ _ _ _ => trivial)
  rintro _ _ claimed ⟨rfl, rfl, shows⟩
  have written : Sequence.ofCount published.length ≠ 0 := by
    rw [Ne, Sequence.ofCount_eq_zero_iff, List.length_eq_zero_iff]
    rintro rfl
    contradiction
  change Action.Ensures _ _ (if Sequence.ofCount published.length = 0 then _ else _) _ _ _ _
  rw [if_neg written]
  exact copySlot_short shows.laid.small (shows.holds payload last) short

/-- A read changes the consumer's register alone. -/
theorem tryRead_same (room : Nat) (region : buffer.region = d) :
    ((tryRead room) buffer).inWords.Ensures (SharedMemory.Answers faults) anyAccess memory
      fun _ after => SharedMemory.SameOutside (· = d.consumerAddress) memory after := by
  have asks := (tryRead_asks room buffer region).inWords fun request asked =>
    asked.elim (fun wordwise => wordwise.inWords) fun loads => loads.inWords fun _ => trivial
  exact asks.sameOutside.mono (fun _ _ => trivial) fun _ _ ended => ended.2

end Runs

/-- What passed through a buffer: the payloads published, the number acknowledged last and the number
that the consumer has seen last. -/
structure Record where
  published : List Bytes
  acked : Sequence
  seen : Sequence

namespace Record

def number (record : Record) : Sequence := .ofCount record.published.length

/-- The payload published last. -/
def latest (record : Record) : Bytes := record.published.getLast?.getD []

def snapshot (record : Record) : Snapshot :=
  ⟨record.number, record.latest.length, record.number.isFresh record.seen⟩

/-- What a call answers of which no access fails. -/
def reply (size : Nat) (record : Record) : Call → Reply
  | .write payload => .written <|
    if size < payload.length then .error (.error .payloadTooLarge)
    else .ok (.ofCount (record.published.length + 1))
  | .read room => .read room <|
    if room < record.latest.length then .error (.error .bufferTooSmall)
    else .ok ⟨record.latest, .ok record.snapshot⟩
  | .hasFresh => .fresh (.ok (record.number.isFresh record.seen))
  | .acknowledge _ => .acknowledge (.ok ())
  | .acknowledged => .acknowledged (.ok (record.number == record.acked))

def next (size : Nat) (record : Record) : Call → Record
  | .write payload =>
    if size < payload.length then record
    else { record with published := record.published ++ [payload] }
  | .read room =>
    if room < record.latest.length then record
    else { record with seen := seenAfter record.number record.seen }
  | .acknowledge seq => { record with acked := seq }
  | _ => record

theorem latest_of_last {record : Record} {payload : Bytes}
    (last : record.published.getLast? = some payload) : record.latest = payload := by
  rw [latest, last, Option.getD_some]

/-- A read returns what the record tells. -/
theorem eq_of_latest {record : Record} {snapshot : Snapshot} {bytes : Bytes}
    (found : Latest record.published record.seen snapshot bytes) :
    snapshot = record.snapshot ∧ bytes = record.latest := by
  rcases found with ⟨empty, rfl, rfl⟩ | ⟨payload, last, rfl, rfl⟩
  · simp [Record.snapshot, latest, number, empty, Sequence.isFresh]
  · rw [Record.snapshot, latest_of_last last]
    exact ⟨rfl, rfl⟩

end Record

/-- A call, and which of its accesses over the bus fail. -/
structure Attempt where
  outage : Bus.Outage
  call : Call

/-- How an attempt ends: the reply, the number of accesses with the failed ones, and what it leaves. -/
structure Outcome where
  reply : Reply
  accesses : Nat
  pair : Pair

namespace Pair

variable {α : Type}

/-- Work with the end of a role over the bus. -/
def performOnBus (pair : Pair) (outage : Bus.Outage) (role : Role) (reply : Except Fault α → Reply)
    (operation : Operation α) : Outcome :=
  let ((result, buffer), memory, accesses) :=
    ((operation (pair.buffer role)).interpret Bus.answer).run outage.onBus (pair.memory, 0)
  ⟨reply result, accesses, pair.leave buffer memory role⟩

def attempt (pair : Pair) (attempt : Attempt) : Outcome :=
  match attempt.call with
  | .write payload => pair.performOnBus attempt.outage .producer .written (write payload)
  | .read room => pair.performOnBus attempt.outage .consumer (.read room) (tryRead room)
  | .hasFresh => pair.performOnBus attempt.outage .consumer .fresh hasFresh
  | .acknowledge seq => pair.performOnBus attempt.outage .consumer .acknowledge (acknowledge seq)
  | .acknowledged => pair.performOnBus attempt.outage .producer .acknowledged acknowledged

def afterAll (pair : Pair) (attempts : List Attempt) : Pair :=
  attempts.foldl (fun pair attempt => (pair.attempt attempt).pair) pair

def attemptReplies (pair : Pair) : List Attempt → List Reply
  | [] => []
  | attempt :: rest =>
    let outcome := pair.attempt attempt
    outcome.reply :: outcome.pair.attemptReplies rest

/-- What calls answer one after the other where no access fails. -/
def answers (pair : Pair) : List Call → List Reply
  | [] => []
  | call :: rest =>
    let outcome := pair.attempt ⟨.none, call⟩
    outcome.reply :: outcome.pair.answers rest

/-- The next write to succeed returns this number, whatever else is attempted before it. -/
def NextNumber (pair : Pair) (seq : Sequence) : Prop :=
  ∀ attempts, (∀ other, .written (.ok other) ∉ pair.attemptReplies attempts) →
    ∀ outage payload next,
      ((pair.afterAll attempts).attempt ⟨outage, .write payload⟩).reply = .written (.ok next) →
        next = seq

/-- What a write that is cut short leaves as it was: both ends, the control words, and the slots that
these name. -/
structure KeptByWrite (d : Descriptor) (before after : Pair) : Prop where
  producing : after.producing = before.producing
  consuming : after.consuming = before.consuming
  control : ∀ address, d.IsControl address →
    after.memory.load address = before.memory.load address
  named : ∀ control word, d.IsControl control → before.memory.load control = .ok word →
    ∀ address, d.InSlot (ControlWord.ofWord word).slot address →
      after.memory.load address = before.memory.load address

/-- What a read that is cut short leaves as it was: all but the slot that the register claims. -/
structure KeptByRead (d : Descriptor) (before after : Pair) : Prop where
  producing : after.producing = before.producing
  seen : after.consuming.lastSeen = before.consuming.lastSeen
  producer : after.memory.load d.producerAddress = before.memory.load d.producerAddress
  acknowledged : ∃ word claimed, before.memory.load d.consumerAddress = .ok word ∧
    after.memory.load d.consumerAddress = .ok claimed ∧
    (ControlWord.ofWord claimed).seq = (ControlWord.ofWord word).seq
  slots : ∀ slot address, d.InSlot slot address →
    after.memory.load address = before.memory.load address

end Pair

/-- A reply that tells of a failed access. -/
inductive Reply.Lost : Reply → Prop where
  | written : Reply.Lost (.written (.error (.error .medium)))
  | read (room : Nat) : Reply.Lost (.read room (.error (.error .medium)))
  | moved (room : Nat) (moved : Bytes) :
      Reply.Lost (.read room (.ok ⟨moved, .error (.error .medium)⟩))
  | fresh : Reply.Lost (.fresh (.error (.error .medium)))
  | acknowledge : Reply.Lost (.acknowledge (.error (.error .medium)))
  | acknowledged : Reply.Lost (.acknowledged (.error (.error .medium)))

/-- Both ends of a buffer that shows what passed through it. -/
structure Stands (d : Descriptor) (pair : Pair) (record : Record) : Prop where
  producing : pair.producing.Produces d
  consuming : pair.consuming.Consumes d record.seen
  carries : d.Carries pair.memory record.published record.acked

theorem Stands.region {d : Descriptor} {pair : Pair} {record : Record} (stands : Stands d pair record)
    (role : Role) : (pair.buffer role).region = d := by
  cases role with
  | producer => exact stands.producing.region
  | consumer => exact stands.consuming.region

/-- An attempt answers and does what the record tells, or an access fails and nothing has happened. -/
inductive Follows (d : Descriptor) (record : Record) (attempt : Attempt) (outcome : Outcome) :
    Prop where
  | made (whole : ¬ attempt.outage.Hits 0 outcome.accesses)
      (replied : outcome.reply = record.reply d.size attempt.call)
      (stands : Stands d outcome.pair (record.next d.size attempt.call))
  | lapsed (hit : attempt.outage.Hits 0 outcome.accesses) (lost : outcome.reply.Lost)
      (stands : Stands d outcome.pair record)

section Attempts

variable {α : Type} {d : Descriptor} {pair : Pair} {record : Record} {outage : Bus.Outage}
  {call : Call} {memory after : SharedMemory}

theorem performOnBus_follows {role : Role} {reply : Except Fault α → Reply} {operation : Operation α}
    (ends : EndsOn outage operation (pair.buffer role) pair.memory 0
      (fun outcome after => reply outcome.1 = record.reply d.size call ∧
        Stands d (pair.leave outcome.2 after role) (record.next d.size call))
      fun outcome after => (reply outcome.1).Lost ∧
        Stands d (pair.leave outcome.2 after role) record) :
    Follows d record ⟨outage, call⟩ (pair.performOnBus outage role reply operation) := by
  obtain ⟨-, ⟨whole, replied, stands⟩ | ⟨hit, lost, stands⟩⟩ := ends
  · exact .made whole replied stands
  · exact .lapsed hit lost stands

theorem Stands.nowhere (stands : Stands d pair record) (role : Role)
    (same : SharedMemory.SameOutside Nowhere pair.memory after) :
    Stands d (pair.leave (pair.buffer role) after role) record := by
  have carries := stands.carries.elsewhere same fun _ => False.elim
  cases role with
  | producer => exact ⟨stands.producing, stands.consuming, carries⟩
  | consumer => exact ⟨stands.producing, stands.consuming, carries⟩

/-- A call that a failed access ends before it has done anything. -/
theorem Stands.follows {role : Role} {reply : Except Fault α → Reply} {operation : Operation α}
    (stands : Stands d pair record) (quits : Quits Nowhere Lost operation (pair.buffer role))
    (ensured : ∀ faults, operation.Ensures faults anyAccess (pair.buffer role) pair.memory
      (fun value left after => reply (.ok value) = record.reply d.size call ∧
        Stands d (pair.leave left after role) (record.next d.size call))
      fun fault left after => left = pair.buffer role ∧ after = pair.memory ∧ faults ∧
        fault = .error .medium)
    (told : (reply (.error (.error .medium))).Lost) :
    Follows d record ⟨outage, call⟩ (pair.performOnBus outage role reply operation) := by
  apply performOnBus_follows
  apply (endsOn_of_quits quits ensured).mono
  · rintro ⟨fault | value, left⟩ after ended
    · exact ended.2.2.1.elim
    · exact ended
  · rintro ⟨fault | value, left⟩ after ⟨lost, last, ended, same⟩
    · obtain ⟨rfl, rfl, -, rfl⟩ := ended
      exact ⟨told, stands.nowhere role same⟩
    · cases lost

theorem Stands.write (stands : Stands d pair record) (outage : Bus.Outage) (payload : Bytes) :
    Follows d record ⟨outage, .write payload⟩ (pair.attempt ⟨outage, .write payload⟩) := by
  obtain ⟨latest, slot, shows⟩ := stands.carries
  apply performOnBus_follows
  apply (write_endsOn stands.producing shows).mono
  · rintro ⟨_, _⟩ after ⟨rfl, ⟨large, rfl, rfl⟩ | ⟨fits, rfl, shows⟩⟩
    · simp only [Record.reply, Record.next, if_pos large]
      exact ⟨trivial, stands⟩
    · simp only [Record.reply, Record.next, if_neg (Nat.not_lt.mpr fits)]
      exact ⟨trivial, stands.producing, stands.consuming, _, _, shows⟩
  · rintro _ after ⟨-, rfl, same⟩
    have apart : freeSlot latest slot ≠ latest := (freeSlot_spec latest slot).2.1
    exact ⟨.written, stands.producing, stands.consuming, _, _, shows.fill apart same⟩

theorem Stands.hasFresh (stands : Stands d pair record) (outage : Bus.Outage) :
    Follows d record ⟨outage, .hasFresh⟩ (pair.attempt ⟨outage, .hasFresh⟩) := by
  refine stands.follows hasFresh_quits (fun faults => (hasFresh_ensures stands.consuming
    stands.carries).mono (fun _ granted => granted) ?_ fun _ _ _ lost => lost) .fresh
  rintro _ _ _ ⟨rfl, rfl, rfl⟩
  exact ⟨rfl, stands⟩

theorem Stands.acknowledge (stands : Stands d pair record) (outage : Bus.Outage) (seq : Sequence) :
    Follows d record ⟨outage, .acknowledge seq⟩ (pair.attempt ⟨outage, .acknowledge seq⟩) := by
  refine stands.follows (acknowledge_quits seq) (fun faults => (acknowledge_ensures stands.consuming
    stands.carries).mono (fun _ granted => granted) ?_ fun _ _ _ lost => lost) .acknowledge
  rintro _ _ after ⟨rfl, carries⟩
  exact ⟨rfl, stands.producing, stands.consuming, carries⟩

theorem Stands.acknowledged (stands : Stands d pair record) (outage : Bus.Outage) :
    Follows d record ⟨outage, .acknowledged⟩ (pair.attempt ⟨outage, .acknowledged⟩) := by
  refine stands.follows acknowledged_quits (fun faults => (acknowledged_ensures stands.producing
    stands.carries).mono (fun _ granted => granted) ?_ fun _ _ _ lost => lost) .acknowledged
  rintro _ _ _ ⟨rfl, rfl, rfl⟩
  exact ⟨rfl, stands⟩

/-- How a read over the bus ends: as the record tells, or with the register alone changed. -/
theorem Stands.tryRead_endsOn (stands : Stands d pair record) (room : Nat) :
    EndsOn outage (tryRead room) pair.consuming pair.memory 0
      (fun outcome after => d.Carries after record.published record.acked ∧
        (room < record.latest.length ∧ outcome.1 = .error (.error .bufferTooSmall) ∧
            outcome.2.Consumes d record.seen ∨
          record.latest.length ≤ room ∧ outcome.1 = .ok ⟨record.latest, .ok record.snapshot⟩ ∧
            outcome.2.Consumes d (seenAfter record.number record.seen)))
      fun outcome after => LostRead outcome ∧ outcome.2.Consumes d record.seen ∧
        d.Carries after record.published record.acked ∧
        SharedMemory.SameOutside (· = d.consumerAddress) pair.memory after := by
  obtain ⟨latest, slot, shows⟩ := stands.carries
  have consuming := stands.consuming
  have short (faults : Prop) : ((tryRead room) pair.consuming).inWords.Ensures
      (SharedMemory.Answers faults) anyAccess pair.memory fun outcome _ =>
        room < record.latest.length → ∃ fault, outcome.1 = .error fault := by
    by_cases short : room < record.latest.length
    · obtain ⟨payload, last⟩ : ∃ payload, record.published.getLast? = some payload := by
        cases last : record.published.getLast? with
        | none => simp [Record.latest, last] at short
        | some payload => exact ⟨payload, rfl⟩
      rw [Record.latest_of_last last] at short
      apply Prog.Ensures.mono (tryRead_short consuming shows last short) fun _ granted => granted
      rintro ⟨fault | attempt, left⟩ after ended _
      · exact ⟨fault, rfl⟩
      · exact ended.elim
    · exact (tryRead_same room consuming.region).mono (fun _ granted => granted)
        fun _ _ _ contrary => absurd contrary short
  have quits : Quits Nowhere LostRead (tryRead room) pair.consuming := tryRead_quits room
  apply (endsOn_of_quits quits fun faults => Prog.Ensures.mono
    ((tryRead_shows consuming shows).and ((tryRead_same room consuming.region).and (short faults)))
    (fun _ granted => granted.1) fun _ _ ended => ended).mono
  · rintro ⟨fault | ⟨moved, result⟩, left⟩ after ⟨ended, -, refused⟩
    · obtain ⟨⟨reading, rfl⟩, carries, ⟨none, -⟩ | ⟨⟨payload, last, long⟩, rfl⟩⟩ := ended
      · exact none.elim
      · rw [← Record.latest_of_last last] at long
        exact ⟨carries, .inl ⟨long, rfl, consuming.claimed⟩⟩
    · obtain ⟨shows, ⟨snapshot, rfl, found, rfl⟩ | ⟨none, -⟩⟩ := ended
      · obtain ⟨rfl, rfl⟩ := Record.eq_of_latest found
        have roomy : record.latest.length ≤ room := by
          by_contra large
          obtain ⟨fault, same⟩ := refused (Nat.not_le.mp large)
          cases same
        exact ⟨⟨_, _, shows⟩, .inr ⟨roomy, rfl, consuming.taken _ _⟩⟩
      · exact none.elim
  · rintro ⟨fault | ⟨moved, result⟩, left⟩ after ⟨lost, last, ⟨ended, same, -⟩, spilled⟩
    · obtain ⟨⟨reading, rfl⟩, carries, -⟩ := ended
      exact ⟨lost, consuming.claimed, carries.elsewhere spilled fun _ => False.elim,
        same.trans (spilled.mono fun _ => False.elim)⟩
    · obtain ⟨shows, ⟨snapshot, rfl, -⟩ | ⟨-, -, rfl⟩⟩ := ended
      · rcases lost with none | ⟨_, none⟩
        · cases none
        · cases none
      · exact ⟨lost, consuming.claimed,
          Descriptor.Carries.elsewhere ⟨_, _, shows⟩ spilled fun _ => False.elim,
          same.trans (spilled.mono fun _ => False.elim)⟩

theorem Stands.read (stands : Stands d pair record) (outage : Bus.Outage) (room : Nat) :
    Follows d record ⟨outage, .read room⟩ (pair.attempt ⟨outage, .read room⟩) := by
  apply performOnBus_follows
  apply (stands.tryRead_endsOn room).mono
  · rintro ⟨_, left⟩ after ⟨carries, ⟨short, rfl, consuming⟩ | ⟨roomy, rfl, consuming⟩⟩
    · simp only [Record.reply, Record.next, if_pos short]
      exact ⟨trivial, stands.producing, consuming, carries⟩
    · simp only [Record.reply, Record.next, if_neg (Nat.not_lt.mpr roomy)]
      exact ⟨trivial, stands.producing, consuming, carries⟩
  · rintro ⟨_, left⟩ after ⟨rfl | ⟨moved, rfl⟩, consuming, carries, -⟩
    · exact ⟨.read room, stands.producing, consuming, carries⟩
    · exact ⟨.moved room moved, stands.producing, consuming, carries⟩

theorem Stands.attempt (stands : Stands d pair record) (attempt : Attempt) :
    Follows d record attempt (pair.attempt attempt) := by
  obtain ⟨outage, call⟩ := attempt
  cases call with
  | write payload => exact stands.write outage payload
  | read room => exact stands.read outage room
  | hasFresh => exact stands.hasFresh outage
  | acknowledge seq => exact stands.acknowledge outage seq
  | acknowledged => exact stands.acknowledged outage

theorem Stands.afterAll (stands : Stands d pair record) (attempts : List Attempt) :
    ∃ last, Stands d (pair.afterAll attempts) last := by
  induction attempts generalizing pair record with
  | nil => exact ⟨record, stands⟩
  | cons first rest ih =>
    cases stands.attempt first with
    | made _ _ stands => exact ih stands
    | lapsed _ _ stands => exact ih stands

/-- The record alone decides what calls answer of which no access fails. -/
theorem Stands.answers_eq {other : Pair} (stands : Stands d pair record)
    (also : Stands d other record) (calls : List Call) :
    other.answers calls = pair.answers calls := by
  induction calls generalizing pair other record with
  | nil => rfl
  | cons call rest ih =>
    cases stands.attempt ⟨.none, call⟩ with
    | lapsed hit => exact absurd hit Bus.Outage.none_not_hits
    | made _ replied next =>
      cases also.attempt ⟨.none, call⟩ with
      | lapsed hit => exact absurd hit Bus.Outage.none_not_hits
      | made _ too following =>
        simp only [Pair.answers, replied, too, ih next following]

theorem setUp_stands {owner : Role} (made : Pair.setUp owner d memory = .ok pair) :
    Stands d pair ⟨[], 0, 0⟩ := by
  obtain ⟨produces, consumes, shows⟩ := setUp_shows made
  exact ⟨produces, consumes, _, _, shows⟩

/-- Until a write succeeds the next number stays as it is. -/
theorem Stands.nextNumber (stands : Stands d pair record) :
    pair.NextNumber (.ofCount (record.published.length + 1)) := by
  intro attempts
  induction attempts generalizing pair record with
  | nil =>
    intro _ outage payload next replied
    change (pair.attempt _).reply = _ at replied
    cases stands.write outage payload with
    | made _ told =>
      simp only [Record.reply, replied, Reply.written.injEq] at told
      split at told
      · cases told
      · exact Except.ok.inj told
    | lapsed _ lost =>
      rw [replied] at lost
      cases lost
  | cons first rest ih =>
    intro none
    simp only [Pair.attemptReplies, List.mem_cons, not_or] at none
    cases stands.attempt first with
    | lapsed _ _ stands => exact ih stands fun other => (none other).2
    | made _ told following =>
      have kept : (record.next d.size first.call).published = record.published := by
        cases call : first.call with
        | write payload =>
          simp only [told, call, Record.reply] at none
          by_cases large : d.size < payload.length
          · rw [Record.next, if_pos large]
          · rw [if_neg large] at none
            exact absurd rfl (none _).1
        | read room =>
          simp only [Record.next]
          split
          · rfl
          · rfl
        | hasFresh => rfl
        | acknowledge seq => rfl
        | acknowledged => rfl
      rw [← kept]
      exact ih following fun other => (none other).2

theorem Stands.keptByWrite (stands : Stands d pair record) (payload : Bytes)
    (hit : outage.Hits 0 (pair.attempt ⟨outage, .write payload⟩).accesses) :
    payload.length ≤ d.size ∧
      (pair.attempt ⟨outage, .write payload⟩).reply = .written (.error (.error .medium)) ∧
      pair.KeptByWrite d (pair.attempt ⟨outage, .write payload⟩).pair := by
  obtain ⟨latest, slot, shows⟩ := stands.carries
  obtain ⟨-, ⟨whole, -⟩ | ⟨-, fits, ended, same⟩⟩ := write_endsOn stands.producing shows
  · exact absurd hit whole
  obtain ⟨-, unpublished, unclaimed⟩ := freeSlot_spec latest slot
  have replied : (pair.attempt ⟨outage, .write payload⟩).reply =
      .written (.error (.error .medium)) :=
    congrArg (fun outcome : Except Fault Sequence × TripleBuffer => Reply.written outcome.1) ended
  refine ⟨fits, replied, congrArg Prod.snd ended, rfl, ?_, ?_⟩
  · intro address control
    apply same.2
    intro inside
    obtain ⟨producer, consumer⟩ := Descriptor.control_ne_of_inSlot inside
    exact control.elim producer consumer
  · intro control word named loaded address inside
    apply same.2
    apply Descriptor.not_inSlot_of_ne _ inside
    rcases named with rfl | rfl
    · cases shows.producer.symm.trans loaded
      rw [ControlWord.ofWord_toWord]
      exact unpublished.symm
    · cases shows.consumer.symm.trans loaded
      rw [ControlWord.ofWord_toWord]
      exact unclaimed.symm

theorem Stands.keptByRead (stands : Stands d pair record) (room : Nat)
    (hit : outage.Hits 0 (pair.attempt ⟨outage, .read room⟩).accesses) :
    pair.KeptByRead d (pair.attempt ⟨outage, .read room⟩).pair := by
  obtain ⟨-, ⟨whole, -⟩ | ⟨-, -, consuming, carries, same⟩⟩ := stands.tryRead_endsOn room
  · exact absurd hit whole
  obtain ⟨_, _, shows⟩ := stands.carries
  obtain ⟨_, _, later⟩ := carries
  refine ⟨rfl, consuming.seen.trans stands.consuming.seen.symm,
    same.2 _ Descriptor.producerAddress_ne, ⟨_, _, shows.consumer, later.consumer, ?_⟩, ?_⟩
  · simp only [ControlWord.ofWord_toWord]
  · intro slot address inside
    exact same.2 _ (Descriptor.control_ne_of_inSlot inside).2

/-- A write or a read that a failed access cuts short goes unnoticed by all later calls. -/
theorem cut_short_unnoticed {owner : Role} (made : Pair.setUp owner d memory = .ok pair)
    (attempts : List Attempt) (outage : Bus.Outage) :
    let before := pair.afterAll attempts
    (∀ payload,
      let tried := before.attempt ⟨outage, .write payload⟩
      outage.Hits 0 tried.accesses →
        tried.reply = .written (.error (.error .medium)) ∧ before.KeptByWrite d tried.pair ∧
        (∀ calls, tried.pair.answers calls = before.answers calls) ∧
        ∃ seq, (before.attempt ⟨.none, .write payload⟩).reply = .written (.ok seq) ∧
          tried.pair.NextNumber seq) ∧
      ∀ room,
        let tried := before.attempt ⟨outage, .read room⟩
        outage.Hits 0 tried.accesses →
          tried.reply.Lost ∧ before.KeptByRead d tried.pair ∧
          ∀ calls, tried.pair.answers calls = before.answers calls := by
  intro before
  obtain ⟨record, stands⟩ := (setUp_stands made).afterAll attempts
  constructor
  · intro payload tried hit
    obtain ⟨fits, replied, kept⟩ := stands.keptByWrite payload hit
    cases stands.write outage payload with
    | made whole => exact absurd hit whole
    | lapsed _ _ still =>
      refine ⟨replied, kept, stands.answers_eq still, .ofCount (record.published.length + 1), ?_,
        still.nextNumber⟩
      cases stands.write .none payload with
      | lapsed hit => exact absurd hit Bus.Outage.none_not_hits
      | made _ told =>
        rw [told, Record.reply, if_neg (Nat.not_lt.mpr fits)]
  · intro room tried hit
    cases stands.read outage room with
    | made whole => exact absurd hit whole
    | lapsed _ lost still => exact ⟨lost, stands.keptByRead room hit, stands.answers_eq still⟩

/-- A write fails in its chunk of eight words, of which every other was stored. -/
theorem cut_short_unnoticed_halfway :
    let outage : Bus.Outage := ⟨(· == 4), fun _ index => index % 2 == 0⟩
    ∃ pair, Pair.setUp .producer ⟨.status, 0, 40⟩ (.zeroed 0 48) = .ok pair ∧
      let before := pair.afterAll [⟨.none, .write [1]⟩, ⟨.none, .read 40⟩]
      let tried := before.attempt ⟨outage, .write (List.replicate 40 7)⟩
      outage.Hits 0 tried.accesses ∧ (tried.pair.memory.load 24).toOption = some 0x07070707 ∧
        (tried.pair.memory.load 28).toOption = some 0 ∧
        (∀ calls, tried.pair.answers calls = before.answers calls) ∧
        ∃ seq, (before.attempt ⟨.none, .write (List.replicate 40 7)⟩).reply = .written (.ok seq) ∧
          tried.pair.NextNumber seq := by
  intro outage
  have ran : ∃ pair, Pair.setUp .producer ⟨.status, 0, 40⟩ (.zeroed 0 48) = .ok pair ∧
      let before := pair.afterAll [⟨.none, .write [1]⟩, ⟨.none, .read 40⟩]
      let tried := before.attempt ⟨outage, .write (List.replicate 40 7)⟩
      tried.accesses = 5 ∧ (tried.pair.memory.load 24).toOption = some 0x07070707 ∧
        (tried.pair.memory.load 28).toOption = some 0 :=
    ⟨_, rfl, by decide +kernel⟩
  obtain ⟨pair, made, accesses, stored, missed⟩ := ran
  refine ⟨pair, made, ?_⟩
  have hit : outage.Hits 0 5 := ⟨4, by decide, by decide, rfl⟩
  obtain ⟨-, -, answers, next⟩ :=
    (cut_short_unnoticed made [⟨.none, .write [1]⟩, ⟨.none, .read 40⟩] outage).1
      (List.replicate 40 7) (accesses ▸ hit)
  exact ⟨accesses ▸ hit, stored, missed, answers, next⟩

end Attempts

end TripleBuffer

end NodeLink

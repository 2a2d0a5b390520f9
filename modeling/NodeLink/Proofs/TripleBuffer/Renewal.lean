import NodeLink.Proofs.TripleBuffer.Creation
import NodeLink.Proofs.TripleBuffer.Interruption
import NodeLink.Proofs.TripleBuffer.Remote

/-! Consuming ends that are made anew between calls. A new end claims no slot until it reads, so the
producer may fill other slots than it would have, and the memories of two runs differ from there on. The
record of what passed through the buffer stays the same, and it alone decides what is answered. -/
namespace NodeLink

namespace TripleBuffer

/-- The end that a call is made on. -/
def Remote.Call.role : Remote.Call → Role
  | .write _ | .acknowledged => .producer
  | .read _ | .acknowledge _ => .consumer

/-- A step of a run: a call, or a new consuming end in place of the one before. -/
inductive Step where
  | call (call : Remote.Call)
  | renew
  deriving DecidableEq

/-- The calls, with a new consuming end for each that is made on one. -/
def renewedEach (calls : List Remote.Call) : List Step :=
  calls.flatMap fun call =>
    if call.role = .consumer then [.renew, .call call] else [.call call]

namespace Pair

variable (ways : Role → Way)

/-- Make a call on its end, which is left with what it now knows. -/
def call (pair : Pair) (call : Remote.Call) : Except Fault Reply × Pair :=
  let way := ways call.role
  let ((reply, buffer), memory) :=
    (way.perform call).run (way.over SharedMemory.onWords) (pair.buffer call.role) pair.memory
  (reply, pair.leave buffer memory call.role)

/-- Attach a new consuming end in place of the one before, with what that one saw last. -/
def renew (d : Descriptor) (lastSeen : Sequence) (pair : Pair) : Except Fault Pair :=
  let way := ways .consumer
  match (way.attach .consumer d lastSeen).run (way.over SharedMemory.onWords) pair.memory with
  | (.error fault, _) => .error fault
  | (.ok consuming, memory) => .ok { pair with consuming, memory }

/-- What is answered on the way, and what is left. A new end that cannot be made is an answer too. -/
def takeSteps (d : Descriptor) (pair : Pair) : List Step → List (Except Fault Reply) × Pair
  | [] => ([], pair)
  | .call call :: rest =>
    let (reply, left) := pair.call ways call
    let (replies, last) := left.takeSteps d rest
    (reply :: replies, last)
  | .renew :: rest =>
    match pair.renew ways d pair.consuming.lastSeen with
    | .ok renewed => renewed.takeSteps d rest
    | .error fault =>
      let (replies, last) := pair.takeSteps d rest
      (.error fault :: replies, last)

end Pair

section Calls

variable {α : Type} {d : Descriptor} {record : Record} {pair : Pair} {memory : SharedMemory}
  {operation : Operation α}

theorem run_none (program : Prog Bus α) (memory : SharedMemory) (first : Nat) :
    ∃ last, program.run Bus.Outage.none.onBus (memory, first) =
      ((program.run SharedMemory.onBus memory).1, (program.run SharedMemory.onBus memory).2, last) := by
  induction program generalizing memory first with
  | done value => exact ⟨first, rfl⟩
  | ask request next ih => exact ih _ _ (first + 1)

/-- Work over the bus, where no access fails. -/
theorem performOnBus_none (pair : Pair) (role : Role) (reply : Except Fault α → Reply)
    (operation : Operation α) :
    let ran := operation.run (Bus.over SharedMemory.onWords) (pair.buffer role) pair.memory
    (pair.performOnBus .none role reply operation).reply = reply ran.1.1 ∧
      (pair.performOnBus .none role reply operation).pair = pair.leave ran.1.2 ran.2 role := by
  obtain ⟨last, same⟩ := run_none ((operation (pair.buffer role)).interpret Bus.answer) pair.memory 0
  have interpreted : ((operation (pair.buffer role)).interpret Bus.answer).run SharedMemory.onBus
      pair.memory = operation.run (Bus.over SharedMemory.onWords) (pair.buffer role) pair.memory :=
    Prog.run_interpret _ _ _ _
  rw [interpreted] at same
  simp only [Pair.performOnBus, same]
  exact ⟨trivial, trivial⟩

/-- A call over the bus is an attempt of which no access fails. -/
theorem call_bus (pair : Pair) (call : Remote.Call) : pair.call (fun _ => .bus) call =
    (.ok (pair.attempt ⟨.none, call.onBus⟩).reply, (pair.attempt ⟨.none, call.onBus⟩).pair) := by
  have replied {α : Type} (role : Role) (reply : Except Fault α → Reply) (operation : Operation α) :
      let ran := (replyWith reply operation).run (Bus.over SharedMemory.onWords) (pair.buffer role)
        pair.memory
      (ran.1.1, pair.leave ran.1.2 ran.2 role) =
        (.ok (pair.performOnBus .none role reply operation).reply,
          (pair.performOnBus .none role reply operation).pair) := by
    obtain ⟨same, left⟩ := performOnBus_none pair role reply operation
    simp only [run_replyWith, same, left]
  cases call with
  | write payload => exact replied .producer .written (write payload)
  | read room => exact replied .consumer (.read room) (tryRead room)
  | acknowledge seq => exact replied .consumer .acknowledge (acknowledge seq)
  | acknowledged => exact replied .producer .acknowledged acknowledged

/-- Over a link too, but for what a failed read moved. -/
theorem perform_told (way : Way) (call : Remote.Call) (buffer : TripleBuffer) (memory : SharedMemory) :
    seenAs (Except.map Reply.told)
        ((way.perform call).run (way.over SharedMemory.onWords) buffer memory) =
      seenAs (Except.map Reply.told)
        ((Way.bus.perform call).run (Way.bus.over SharedMemory.onWords) buffer memory) := by
  cases way with
  | bus => rfl
  | link => exact perform_agrees call memory

/-- However the ends reach the memory, a call leaves the same and is answered alike. -/
theorem call_told (ways : Role → Way) (pair : Pair) (call : Remote.Call) :
    (pair.call ways call).1.map Reply.told = (pair.call (fun _ => .bus) call).1.map Reply.told ∧
      (pair.call ways call).2 = (pair.call (fun _ => .bus) call).2 := by
  have same := perform_told (ways call.role) call (pair.buffer call.role) pair.memory
  obtain ⟨told, memory⟩ := Prod.mk.inj same
  obtain ⟨told, left⟩ := Prod.mk.inj told
  exact ⟨told, by simp only [Pair.call, left, memory]⟩

theorem ReadAttempt.eq_of_told {attempt other : ReadAttempt} {snapshot : Snapshot}
    (same : attempt.told = other.told) (whole : other.result = .ok snapshot) : attempt = other := by
  obtain ⟨moved, fault | result⟩ := attempt
  · rw [ReadAttempt.told, ReadAttempt.told, whole] at same
    cases congrArg ReadAttempt.result same |>.trans whole
  · rw [ReadAttempt.told, ReadAttempt.told, whole] at same
    exact same

/-- What is told of a reply to a call of which no access fails is the whole reply. -/
theorem Record.reply_of_told {size : Nat} {call : Call} {reply : Reply}
    (same : reply.told = (record.reply size call).told) : reply = record.reply size call := by
  cases call with
  | read room =>
    cases reply with
    | read other attempt =>
      obtain ⟨rfl, told⟩ := Reply.read.inj same
      by_cases short : other < record.latest.length
      · simp only [Record.reply, if_pos short] at told ⊢
        cases attempt with
        | error fault => exact congrArg _ told
        | ok attempt => cases told
      · simp only [Record.reply, if_neg short] at told ⊢
        cases attempt with
        | error fault => cases told
        | ok attempt => rw [ReadAttempt.eq_of_told (Except.ok.inj told) rfl]
    | _ => cases same
  | _ =>
    cases reply with
    | read other attempt => cases same
    | _ => exact same

end Calls

section Label

variable {α : Type} {d : Descriptor} {memory later : SharedMemory} {bytes : Nat → Prop}
  {buffer : TripleBuffer} {role : Role} {lastSeen : Sequence}

/-- Words that no access of a run stores to are as before. -/
theorem sameOutside_of_accesses {program : Prog Words α}
    (stores : ∀ access ∈ program.accesses SharedMemory.onWords memory,
      access.request.StoresWithin bytes) :
    SharedMemory.SameOutside bytes memory (program.run SharedMemory.onWords memory).2 := by
  induction program generalizing memory with
  | done value => exact .refl _ _
  | ask request next ih =>
    obtain ⟨first, rest⟩ := List.forall_mem_cons.mp stores
    refine SharedMemory.SameOutside.trans ?_ (ih _ rest)
    cases request with
    | load address => exact .refl _ _
    | store address word =>
      have made : SharedMemory.Answers False (.store address word) memory _ _ :=
        SharedMemory.answers_onWords False _ memory
      exact made.store_same.mono fun _ same => same ▸ first

theorem storesWithin_mono {wider : Nat → Prop} {access : Words.Request}
    (stores : access.StoresWithin bytes) (implies : ∀ address, bytes address → wider address) :
    access.StoresWithin wider := by
  cases access with
  | load address => trivial
  | store address word => exact implies address stores

/-- The word that names the slot size is none that a call stores to. -/
theorem Call.Footprint.spares {call : Call} {log : List Words.Access}
    (footprint : call.Footprint d log) :
    ∀ access ∈ log, access.request.StoresWithin (· ≠ d.base + Layout.slotSizeOffset) := by
  have nowhere (address : Nat) (none : Nowhere address) : address ≠ d.base + Layout.slotSizeOffset :=
    none.elim
  have register (address : Nat) (same : address = d.consumerAddress) :
      address ≠ d.base + Layout.slotSizeOffset := by
    simp only [same, Descriptor.consumerAddress, Layout.consumerOffset, Layout.slotSizeOffset]
    omega
  cases call with
  | write payload =>
    cases footprint with
    | nothing stores => exact fun access member => storesWithin_mono (stores access member) nowhere
    | slot latest claimed slot valid old unclaimed stores =>
      refine List.forall_mem_cons.mpr ⟨trivial, List.forall_mem_cons.mpr ⟨trivial, ?_⟩⟩
      rintro ⟨address | ⟨address, word⟩, answer⟩ member
      · trivial
      change address ≠ d.base + Layout.slotSizeOffset
      rcases stores _ member with rfl | whole
      · simp only [Descriptor.producerAddress, Layout.producerOffset, Layout.slotSizeOffset]
        omega
      · have above := (whole 0 (by decide)).above
        simp only [Layout.slotsOffset, Layout.slotSizeOffset] at above ⊢
        omega
  | read room =>
    exact fun access member => storesWithin_mono (footprint access member) register
  | acknowledge seq =>
    exact fun access member => storesWithin_mono (footprint access member) register
  | hasFresh => exact fun access member => storesWithin_mono (footprint access member) nowhere
  | acknowledged => exact fun access member => storesWithin_mono (footprint access member) nowhere

theorem run_over_bus (program : Prog Medium α) (memory : SharedMemory) :
    program.run (Bus.over SharedMemory.onWords) memory = program.inWords.run SharedMemory.onWords memory := by
  simp only [Prog.inWords, Prog.run_interpret]
  rfl

theorem perform_labelled (call : Call) (region : buffer.region = d) (labelled : d.Labelled memory) :
    d.Labelled (call.perform.run (Bus.over SharedMemory.onWords) buffer memory).2 := by
  have spares := (perform_footprint SharedMemory.onWords memory region call).spares
  have same := (sameOutside_of_accesses spares).2 (d.base + Layout.slotSizeOffset) (not_not.mpr rfl)
  change ((call.perform buffer).run (Bus.over SharedMemory.onWords) memory).2.load _ = _
  rw [run_over_bus, same]
  exact labelled

/-- An end attaches wherever the region names its slot size, whatever it is told was seen last. -/
theorem attach_fits (way : Way) (sound : d.Sound) (labelled : d.Labelled memory) :
    (way.attach role d lastSeen).run (way.over SharedMemory.onWords) memory =
      (.ok (new role d lastSeen), memory) := by
  have overBus : (way.attach role d lastSeen).run (way.over SharedMemory.onWords) memory =
      (attach role d lastSeen).run (Bus.over SharedMemory.onWords) memory := by
    cases way with
    | bus => rfl
    | link => exact attach_agrees SharedMemory.onWords role d lastSeen memory
  have named : (UInt32.ofNat d.size).toNat = d.size :=
    UInt32.toNat_ofNat_of_lt' (Nat.lt_of_le_of_lt sound.small (by decide))
  have checked : checkLayout.Ensures False anyAccess (new role d lastSeen) memory _ _ :=
    checkLayout_made labelled named sound.positive
  have attached : (attach role d lastSeen).inWords.Ensures (SharedMemory.Answers False) anyAccess
      memory fun result after =>
        (∃ own, result = .ok own ∧ own = new role d lastSeen ∧ after = memory) ∨
          (∃ fault, result = .error fault) ∧ False := by
    apply prepare_ends
    rw [checkDescriptor_eq_ok.mpr sound]
    exact checked
  rw [overBus, run_over_bus]
  have ended := attached.run SharedMemory.onWords (fun memory => memory)
    (SharedMemory.answers_onWords False) memory
  generalize (attach role d lastSeen).inWords.run SharedMemory.onWords memory = outcome at ended
  obtain ⟨result, after⟩ := outcome
  obtain ⟨_, rfl, rfl, rfl⟩ | ⟨_, none⟩ := ended
  · rfl
  · exact none.elim

/-- An end that attached found a sound descriptor, and the slot size that it names. -/
theorem attach_found :
    (attach role d lastSeen).inWords.Ensures (SharedMemory.Answers False) anyAccess memory
      fun result _ => ∀ own, result = .ok own → d.Sound ∧ d.Labelled memory := by
  refine prepare_ensures (Action.ofExcept_then (fun _ passed => ?_) fun _ _ => trivial)
  have sound := checkDescriptor_eq_ok.mp passed
  refine ⟨trivial, ?_⟩
  rintro answer after ⟨rfl | ⟨none, -⟩, rfl⟩
  · cases found : after.load ((new role d lastSeen).base + Layout.slotSizeOffset) with
    | error error => trivial
    | ok word =>
      apply Action.get_then
      split
      · trivial
      · split
        · trivial
        · rename_i named
          have same : word.toNat = d.size := not_not.mp named
          rw [Descriptor.Labelled, ← same, UInt32.ofNat_toNat]
          exact ⟨sound, found⟩
  · exact none.elim

theorem connected_labelled {owner : Role} :
    (connect owner d).inWords.Ensures (SharedMemory.Answers False) anyAccess memory
      fun result after => ∀ ends, result = .ok ends → d.Sound ∧ d.Labelled after := by
  change ((create owner d).bind _).inWords.Ensures _ _ _ _
  rw [Prog.inWords_bind]
  refine (Prog.ensures_bind _ _ _).mpr (create_ensures.mono (fun _ granted => granted) ?_)
  rintro (fault | own) created -
  · rintro _ ⟨⟩
  change ((attach owner.other d 0).bind _).inWords.Ensures _ _ _ _
  rw [Prog.inWords_bind]
  refine (Prog.ensures_bind _ _ _).mpr
    ((attach_found.and attach_ensures).mono (fun _ granted => granted.1) ?_)
  rintro (fault | other) after ⟨found, attached⟩
  · rintro _ ⟨⟩
  · obtain ⟨-, rfl⟩ := attached other rfl
    exact fun _ _ => found other rfl

end Label

section Runs

variable {d : Descriptor} {pair other : Pair} {record : Record} {memory : SharedMemory}
  {ways : Role → Way}

/-- A buffer that stands for a record, and that an end can attach to at any time. -/
structure Open (d : Descriptor) (pair : Pair) (record : Record) : Prop where
  stands : Stands d pair record
  sound : d.Sound
  labelled : d.Labelled pair.memory

theorem setUp_open {owner : Role} (made : Pair.setUp owner d memory = .ok pair) :
    Open d pair ⟨[], 0, 0⟩ := by
  have stands := setUp_stands made
  unfold Pair.setUp at made
  have ensured : (connect owner d).inWords.Ensures (SharedMemory.Answers False) anyAccess memory
      fun result after => ∀ ends, result = .ok ends → d.Sound ∧ d.Labelled after :=
    connected_labelled
  have ended := ensured.run SharedMemory.onWords (fun memory => memory)
    (SharedMemory.answers_onWords False) memory
  split at made
  · contradiction
  · rename_i connected
    cases made
    rw [connected] at ended
    obtain ⟨sound, labelled⟩ := ended _ rfl
    exact ⟨stands, sound, labelled⟩

theorem call_labelled (call : Remote.Call) (stands : Stands d pair record)
    (labelled : d.Labelled pair.memory) : d.Labelled (pair.call ways call).2.memory := by
  rw [(call_told ways pair call).2]
  simp only [Pair.call, Pair.leave_memory]
  exact perform_labelled call.onBus (stands.region call.role) labelled

/-- A call answers and does what the record tells, however the ends reach the memory. -/
theorem Open.call (opened : Open d pair record) (ways : Role → Way) (call : Remote.Call) :
    ∃ left, pair.call ways call = (.ok (record.reply d.size call.onBus), left) ∧
      Open d left (record.next d.size call.onBus) := by
  obtain ⟨stands, sound, labelled⟩ := opened
  have still : d.Labelled (pair.call ways call).2.memory := call_labelled call stands labelled
  obtain ⟨told, same⟩ := call_told ways pair call
  cases stands.attempt ⟨.none, call.onBus⟩ with
  | lapsed hit => exact absurd hit Bus.Outage.none_not_hits
  | made _ replied following =>
    rw [call_bus] at told same
    rw [replied] at told
    generalize pair.call ways call = outcome at told same still
    obtain ⟨fault | reply, left⟩ := outcome
    · cases told
    · rw [Record.reply_of_told (Except.ok.inj told)]
      have same : left = (pair.attempt ⟨.none, call.onBus⟩).pair := same
      exact ⟨left, rfl, same ▸ following, sound, still⟩

/-- A new end takes the place of the one before; nothing that passed through the buffer is lost. -/
theorem Open.renew (opened : Open d pair record) (ways : Role → Way) (lastSeen : Sequence) :
    ∃ renewed, pair.renew ways d lastSeen = .ok renewed ∧
      Open d renewed { record with seen := lastSeen } := by
  obtain ⟨stands, sound, labelled⟩ := opened
  refine ⟨{ pair with consuming := new .consumer d lastSeen }, ?_, ?_⟩
  · rw [Pair.renew, attach_fits _ sound labelled]
  · exact ⟨⟨stands.producing, ⟨rfl, rfl, rfl⟩, stands.carries⟩, sound, labelled⟩

/-- The record alone decides what is answered, whichever ends are made anew on the way. -/
theorem Open.replies_eq (opened : Open d pair record) (also : Open d other record)
    (steps : List Step) :
    (pair.takeSteps ways d steps).1 = (other.takeSteps ways d (steps.filter (· ≠ .renew))).1 := by
  induction steps generalizing pair other record with
  | nil => rfl
  | cons step rest ih =>
    cases step with
    | call call =>
      obtain ⟨left, called, opened⟩ := opened.call ways call
      obtain ⟨too, answered, also⟩ := also.call ways call
      simp only [Pair.takeSteps, called, ih opened also]
      simp [Pair.takeSteps, answered]
    | renew =>
      -- The new end is told what the record holds as seen, so both sides go on from the same record.
      have seen : pair.consuming.lastSeen = record.seen := opened.stands.consuming.seen
      obtain ⟨renewed, made, opened⟩ := opened.renew ways record.seen
      simp only [Pair.takeSteps, seen, made]
      simpa using ih opened also

theorem filter_renewedEach (calls : List Remote.Call) :
    (renewedEach calls).filter (· ≠ .renew) = calls.map .call := by
  induction calls with
  | nil => rfl
  | cons first rest ih =>
    rw [renewedEach, List.flatMap_cons, List.filter_append, ← renewedEach, ih]
    split <;> rfl

theorem Open.takeSteps (opened : Open d pair record) (ways : Role → Way) (steps : List Step) :
    ∃ last, Open d (pair.takeSteps ways d steps).2 last := by
  induction steps generalizing pair record with
  | nil => exact ⟨record, opened⟩
  | cons step rest ih =>
    cases step with
    | call call =>
      obtain ⟨left, called, opened⟩ := opened.call ways call
      simp only [Pair.takeSteps, called]
      exact ih opened
    | renew =>
      obtain ⟨renewed, made, opened⟩ := opened.renew ways pair.consuming.lastSeen
      simp only [Pair.takeSteps, made]
      exact ih opened

/-- However the ends reach the memory, whatever was called and made anew before, and whatever the first
consuming end is told was seen last: calls are answered alike by it and by new ends, one for each call,
of which each is told what the one before it saw last. -/
theorem renewal_unnoticed {owner : Role} (made : Pair.setUp owner d memory = .ok pair)
    (ways : Role → Way) (earlier : List Step) (lastSeen : Sequence) :
    ∃ begun, (pair.takeSteps ways d earlier).2.renew ways d lastSeen = .ok begun ∧
      ∀ calls, (begun.takeSteps ways d (renewedEach calls)).1 =
        (begun.takeSteps ways d (calls.map .call)).1 := by
  obtain ⟨record, opened⟩ := (setUp_open made).takeSteps ways earlier
  obtain ⟨begun, attached, opened⟩ := opened.renew ways lastSeen
  refine ⟨begun, attached, fun calls => ?_⟩
  rw [← filter_renewedEach calls]
  exact opened.replies_eq opened (renewedEach calls)

/-- The memories differ in the end. A new end acknowledges without a claim, so the producer then fills the
slot that a kept end still claims. -/
theorem renewal_unnoticed_diverging :
    let ways : Role → Way := fun role => if role = .producer then .bus else .link
    let calls : List Remote.Call := [.read 4, .acknowledge 1, .write [2], .write [3], .acknowledged, .read 4]
    ∃ pair begun, Pair.setUp .producer ⟨.status, 0, 4⟩ (.zeroed 0 16) = .ok pair ∧
      (pair.takeSteps ways ⟨.status, 0, 4⟩ [.call (.write [1])]).2.renew ways ⟨.status, 0, 4⟩ 0 =
        .ok begun ∧
      let renewing := begun.takeSteps ways ⟨.status, 0, 4⟩ (renewedEach calls)
      let keeping := begun.takeSteps ways ⟨.status, 0, 4⟩ (calls.map .call)
      renewing.1 = keeping.1 ∧ renewing.2.memory ≠ keeping.2.memory := by
  intro ways calls
  have ran : ∃ pair, Pair.setUp .producer ⟨.status, 0, 4⟩ (.zeroed 0 16) = .ok pair ∧
      ((pair.takeSteps ways ⟨.status, 0, 4⟩ [.call (.write [1])]).2.renew ways ⟨.status, 0, 4⟩
        0).toOption.all fun begun =>
          (begun.takeSteps ways ⟨.status, 0, 4⟩ (renewedEach calls)).2.memory ≠
            (begun.takeSteps ways ⟨.status, 0, 4⟩ (calls.map .call)).2.memory :=
    ⟨_, rfl, by decide +kernel⟩
  obtain ⟨pair, made, differ⟩ := ran
  obtain ⟨begun, renewed, alike⟩ := renewal_unnoticed made ways [.call (.write [1])] 0
  simp only [renewed, Except.toOption, Option.all_some, decide_eq_true_eq] at differ
  exact ⟨pair, begun, made, renewed, alike calls, differ⟩

end Runs

end TripleBuffer

end NodeLink

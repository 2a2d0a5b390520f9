import NodeLink.Proofs.LinkAccess
import NodeLink.Proofs.TripleBuffer.Footprint
import NodeLink.TripleBuffer.Remote

/-! An end that reaches its buffer over a link, and one that reaches it over the bus. Each follows the
protocol in its own steps, yet step by step they make the same word accesses: they do the same to the
memory and reply alike. Only a failed read may have moved other bytes by then. -/
namespace NodeLink

section Over

variable {ω : Type}

/-- The medium over the bus, in word accesses. -/
def Bus.over (words : Handler Words ω) : Handler Medium ω := fun request =>
  (Bus.answer request).run fun access => (Bus.inWords access).run words

/-- The medium over a link, in word accesses. -/
def Link.over (words : Handler Words ω) : Handler Medium ω := fun request =>
  (Link.answer request).run fun access => (Link.inWords access).run words

variable (words : Handler Words ω) (address : Nat) {state : ω}

theorem Bus.over_eq (request : Medium.Request) :
    Bus.over words request state = ((Bus.answer request).interpret Bus.inWords).run words state :=
  (Prog.run_interpret _ _ _ _).symm

theorem Link.over_eq (request : Medium.Request) :
    Link.over words request state = ((Link.answer request).interpret Link.inWords).run words state :=
  (Prog.run_interpret _ _ _ _).symm

theorem Link.over_load :
    Link.over words (.load address) state = Bus.over words (.load address) state := by
  rw [Link.over_eq]
  exact congrArg (Prog.run words · state) (Link.fetchWord_inWords address)

theorem Link.over_store (word : UInt32) :
    Link.over words (.store address word) state = Bus.over words (.store address word) state := by
  rw [Link.over_eq]
  exact congrArg (Prog.run words · state) (Link.storeWord_inWords address word)

theorem Link.over_loadBytes (size : Nat) (state : ω) :
    (Link.over words (.loadBytes address size) state).1.told =
        (Bus.over words (.loadBytes address size) state).1.told ∧
      (Link.over words (.loadBytes address size) state).2 =
        (Bus.over words (.loadBytes address size) state).2 := by
  rw [Link.over_eq, Bus.over_eq]
  have same := congrArg (Prog.run words · state) (Link.loadBytes_told address size)
  simp only [Prog.run_bind, Prog.run_done] at same
  exact Prod.mk.inj same

theorem Bus.over_store (word : UInt32) :
    Bus.over words (.store address word) state =
      (Words.storeEach Words.store address [word]).run words state :=
  congrArg (Prog.run words · state) (Link.storeEach_one address word).symm

theorem Bus.over_storeBytes (bytes : Bytes) :
    Bus.over words (.storeBytes address bytes) state =
      (Words.storeEach Words.store address bytes.words).run words state := by
  rw [Bus.over_eq]
  exact congrArg (Prog.run words · state) (Bus.storeChunks_inWords _ _ _ (Nat.mul_div_le _ _))

theorem Link.over_storeBytes (bytes : Bytes) :
    Link.over words (.storeBytes address bytes) state =
      (Words.storeEach Words.store address bytes.words).run words state := by
  rw [Link.over_eq]
  exact congrArg (Prog.run words · state) (Link.store_inWords address bytes)

end Over

/-- An attempt without what it moved before it failed. -/
def ReadAttempt.told (attempt : ReadAttempt) : ReadAttempt :=
  match attempt.result with
  | .ok _ => attempt
  | .error fault => ⟨[], .error fault⟩

namespace TripleBuffer

/-- A reply without what a failed read moved. -/
def Reply.told : Reply → Reply
  | .read room attempt => .read room (attempt.map ReadAttempt.told)
  | reply => reply

/-- How an end reaches its buffer. It decides also the steps in which the end follows the protocol. -/
inductive Way where
  | bus
  | link

variable {ω : Type}

def Way.over (words : Handler Words ω) : Way → Handler Medium ω
  | .bus => Bus.over words
  | .link => Link.over words

def Way.attach : Way → Role → Descriptor → Sequence → Prog Medium (Except Fault TripleBuffer)
  | .bus => TripleBuffer.attach
  | .link => Remote.attach

def Way.perform : Way → Remote.Call → Operation Reply
  | .bus, call => call.onBus.perform
  | .link, call => call.perform

/-- What is seen of a call: its reply, and the end and the memory that it leaves. -/
structure Sight (ω : Type) where
  reply : Except Fault Reply
  buffer : TripleBuffer
  memory : ω

def sights (way : Way) (words : Handler Words ω) : List Remote.Call → TripleBuffer → ω → List (Sight ω)
  | [], _, _ => []
  | call :: rest, buffer, memory =>
    let ((reply, buffer), memory) := (way.perform call).run (way.over words) buffer memory
    ⟨reply.map Reply.told, buffer, memory⟩ :: sights way words rest buffer memory

/-- What is seen of an end that attaches and is then called. -/
structure Visit (ω : Type) where
  attached : Except Fault TripleBuffer
  memory : ω
  sights : List (Sight ω)

def visit (way : Way) (words : Handler Words ω) (role : Role) (d : Descriptor)
    (calls : List Remote.Call) (memory : ω) : Visit ω :=
  match (way.attach role d 0).run (way.over words) memory with
  | (.error fault, memory) => ⟨.error fault, memory, []⟩
  | (.ok buffer, memory) => ⟨.ok buffer, memory, sights way words calls buffer memory⟩

theorem run_replyWith {α : Type} (handler : Handler Medium ω) {reply : Except Fault α → Reply}
    {operation : Operation α} (buffer : TripleBuffer) (state : ω) :
    (replyWith reply operation).run handler buffer state =
      ((.ok (reply (operation.run handler buffer state).1.1),
        (operation.run handler buffer state).1.2), (operation.run handler buffer state).2) := by
  change (Action.outcome operation >>= fun outcome => pure (reply outcome)).run _ _ _ = _
  simp only [Action.run_bind, Action.run_outcome, Action.run_pure]

section Storing

variable {words : Handler Words ω} {handler : Handler Medium ω} {buffer : TripleBuffer}
  {address : Nat}

/-- An operation leaves the end as it is, and stores words one after the other. -/
def Stores (words : Handler Words ω) (handler : Handler Medium ω) (buffer : TripleBuffer)
    (operation : Operation Unit) (address : Nat) (stored : List UInt32) : Prop :=
  ∀ state, operation.run handler buffer state =
    ((((Words.storeEach Words.store address stored).run words state).1.mapError Fault.error, buffer),
      ((Words.storeEach Words.store address stored).run words state).2)

theorem Stores.append {first second : Operation Unit} {before after : List UInt32}
    (stores : Stores words handler buffer first address before)
    (more : Stores words handler buffer second (address + 4 * before.length) after) :
    Stores words handler buffer (first >>= fun _ => second) address (before ++ after) := by
  intro state
  rw [Action.run_bind, stores state, Words.storeEach_append, Prog.run_bind]
  rcases (Words.storeEach Words.store address before).run words state with ⟨error | done, later⟩
  · rfl
  · exact more later

theorem storeWord_stores (address : Nat) (word : UInt32) :
    Stores words (Link.over words) buffer (Remote.storeWord address word) address [word] := by
  intro state
  rw [← Bus.over_store, ← Link.over_store]
  exact Action.run_attempt _ _ _ _

theorem storeTail_stores {tail : Bytes} (short : tail.length < 4) :
    Stores words (Link.over words) buffer (Remote.storeTail address tail) address tail.words := by
  match tail with
  | [] => exact fun _ => rfl
  | [_] | [_, _] | [_, _, _] => exact storeWord_stores address _
  | _ :: _ :: _ :: _ :: _ => simp only [List.length_cons] at short; omega

/-- Whole words at once and a padded tail are the words of the bytes. -/
theorem storePadded_stores (bytes : Bytes) :
    Stores words (Link.over words) buffer (Remote.storePadded address bytes) address bytes.words := by
  unfold Remote.storePadded
  have upto : bytes.length - bytes.length % 4 ≤ bytes.length := Nat.sub_le _ _
  have multiple : 4 ∣ bytes.length - bytes.length % 4 := Nat.dvd_sub_mod _
  have short : (bytes.drop (bytes.length - bytes.length % 4)).length < 4 := by
    rw [List.length_drop]
    omega
  generalize bytes.length - bytes.length % 4 = aligned at upto multiple short
  by_cases some : 0 < aligned
  · have whole : (bytes.take aligned).length = aligned := List.length_take_of_le upto
    have count : 4 * (Bytes.words (bytes.take aligned)).length = aligned := by
      rw [Bytes.length_words, whole, Bytes.wordCount]
      omega
    have split : bytes.words = Bytes.words (bytes.take aligned) ++ Bytes.words (bytes.drop aligned) := by
      rw [← Bytes.words_append _ _ (by rw [whole]; omega), List.take_append_drop]
    rw [split, if_pos some]
    refine Stores.append (fun state => ?_) ?_
    · rw [← Link.over_storeBytes]
      exact Action.run_attempt _ _ _ _
    · rw [count]
      exact storeTail_stores short
  · obtain rfl : aligned = 0 := by omega
    rw [if_neg some]
    exact storeTail_stores short

end Storing

section Agreement

variable {α β γ δ δ' : Type} {words : Handler Words ω} {buffer : TripleBuffer}

/-- Both leave the end as it is, and the one ends over the link as the other does over the bus. -/
def Same (words : Handler Words ω) (buffer : TripleBuffer) (remote own : Operation α) : Prop :=
  ∀ state, ∃ result after, remote.run (Link.over words) buffer state = ((result, buffer), after) ∧
    own.run (Bus.over words) buffer state = ((result, buffer), after)

namespace Same

variable {address : TripleBuffer → Nat} {place : Nat}

theorem attempt {program : Prog Medium (Except Error α)}
    (alike : ∀ state, program.run (Link.over words) state = program.run (Bus.over words) state) :
    Same words buffer (Action.attempt program) (Action.attempt program) := by
  intro state
  rw [Action.run_attempt, Action.run_attempt, alike]
  exact ⟨_, _, rfl, rfl⟩

theorem load (there : address buffer = place) :
    Same words buffer (Remote.loadWord place) (TripleBuffer.load address) := by
  have same : Same words buffer (Action.attempt (Medium.load place)) _ :=
    .attempt (fun _ => Link.over_load words place)
  subst there
  exact same

theorem store {word : UInt32} (there : address buffer = place) :
    Same words buffer (Remote.storeWord place word) (TripleBuffer.store address word) := by
  have same : Same words buffer (Action.attempt (Medium.store place word)) _ :=
    .attempt (fun _ => Link.over_store words place word)
  subst there
  exact same

theorem loadControl (offset : Nat) :
    Same words buffer (Remote.loadControl offset) (TripleBuffer.load (·.base + offset)) := by
  have same : Same words buffer (Remote.loadWord (buffer.base + offset))
      (TripleBuffer.load (·.base + offset)) := load rfl
  exact same

theorem storeControl (offset : Nat) (control : ControlWord) :
    Same words buffer (Remote.storeControl offset control)
      (TripleBuffer.store (·.base + offset) control.toWord) := by
  have same : Same words buffer (Remote.storeWord (buffer.base + offset) control.toWord)
      (TripleBuffer.store (·.base + offset) control.toWord) := store rfl
  exact same

theorem storeBytes {bytes : Bytes} (there : address buffer = place) :
    Same words buffer (Remote.storePadded place bytes) (TripleBuffer.storeBytes address bytes) := by
  subst there
  refine fun state => ⟨_, _, storePadded_stores bytes state, ?_⟩
  rw [← Bus.over_storeBytes]
  exact Action.run_attempt _ _ _ _

theorem requireRole (role : Role) :
    Same words buffer (TripleBuffer.requireRole role) (TripleBuffer.requireRole role) :=
  fun _ => ⟨_, _, rfl, rfl⟩

end Same

/-- The end of a run with its result seen through a function. -/
def seenAs (seen : Except Fault α → β) (ended : (Except Fault α × TripleBuffer) × ω) :
    (β × TripleBuffer) × ω := ((seen ended.1.1, ended.1.2), ended.2)

/-- From an end, the one does over the link what the other does over the bus, as far as it is seen. -/
def Agrees (words : Handler Words ω) (seen : Except Fault α → β) (buffer : TripleBuffer)
    (remote own : Operation α) : Prop :=
  ∀ state, seenAs seen (remote.run (Link.over words) buffer state) =
    seenAs seen (own.run (Bus.over words) buffer state)

/-- The one does over the link just what the other does over the bus. -/
abbrev Alike (words : Handler Words ω) (buffer : TripleBuffer) (remote own : Operation α) : Prop :=
  Agrees words (fun result => result) buffer remote own

namespace Agrees

variable {seen : Except Fault α → β} {remote own : Operation α} {first second : Operation γ}
  {next next' : γ → Operation α}

theorem last (same : Same words buffer remote own) : Agrees words seen buffer remote own := by
  intro state
  obtain ⟨result, after, far, near⟩ := same state
  rw [far, near]

theorem bind (same : Same words buffer first second)
    (rest : ∀ value, Agrees words seen buffer (next value) (next' value)) :
    Agrees words seen buffer (first >>= next) (second >>= next') := by
  intro state
  obtain ⟨fault | value, after, far, near⟩ := same state
  · rw [Action.run_bind, Action.run_bind, far, near]
  · rw [Action.run_bind, Action.run_bind, far, near]
    exact rest value after

/-- The steps of a part are steps of the whole. -/
theorem within {part part' : Operation γ} {next : γ → Operation δ} {next' : γ → Operation δ'}
    {last : δ → Operation α} {last' : δ' → Operation α}
    (rest : Agrees words seen buffer (part >>= fun value => next value >>= last)
      (part' >>= fun value => next' value >>= last')) :
    Agrees words seen buffer ((part >>= next) >>= last) ((part' >>= next') >>= last') := by
  rwa [Action.bind_assoc, Action.bind_assoc]

theorem get_then {next : TripleBuffer → Operation α}
    (rest : Agrees words seen buffer (next buffer) own) :
    Agrees words seen buffer (Action.get >>= next) own := rest

theorem own_get_then {next' : TripleBuffer → Operation α}
    (rest : Agrees words seen buffer remote (next' buffer)) :
    Agrees words seen buffer remote (Action.get >>= next') := rest

theorem modify_then {change : TripleBuffer → TripleBuffer} {next next' : Unit → Operation α}
    (rest : Agrees words seen (change buffer) (next ()) (next' ())) :
    Agrees words seen buffer (Action.modify change >>= next) (Action.modify change >>= next') := rest

theorem ite {condition : Prop} [Decidable condition] {other other' : Operation α}
    (holds : Agrees words seen buffer remote own) (fails : Agrees words seen buffer other other') :
    Agrees words seen buffer (if condition then remote else other)
      (if condition then own else other') := by
  split
  · exact holds
  · exact fails

/-- What a transfer moved matters if it did not fail. -/
theorem loadBytes_then {next next' : Transfer → Operation α} {address : TripleBuffer → Nat}
    {place size : Nat} (there : address buffer = place)
    (whole : ∀ moved, Agrees words seen buffer (next ⟨moved, none⟩) (next' ⟨moved, none⟩))
    (lost : ∀ moved other error, Agrees words seen buffer (next ⟨moved, some error⟩)
      (next' ⟨other, some error⟩)) :
    Agrees words seen buffer (Action.ask (Medium.loadBytes place size) >>= next)
      ((fun buffer => Action.ask (Medium.loadBytes (address buffer) size) buffer) >>= next') := by
  subst there
  intro state
  obtain ⟨told, after⟩ := Link.over_loadBytes words (address buffer) size state
  change seenAs _ ((next (Link.over words (.loadBytes (address buffer) size) state).1).run _ buffer
    (Link.over words (.loadBytes (address buffer) size) state).2) = seenAs _ ((next'
      (Bus.over words (.loadBytes (address buffer) size) state).1).run _ buffer
    (Bus.over words (.loadBytes (address buffer) size) state).2)
  generalize Link.over words (.loadBytes (address buffer) size) state = far at *
  generalize Bus.over words (.loadBytes (address buffer) size) state = near at *
  obtain ⟨⟨moved, failure⟩, memory⟩ := far
  obtain ⟨⟨other, failure'⟩, memory'⟩ := near
  cases after
  have failed := congrArg Transfer.failure told
  simp only [Transfer.told_failure] at failed
  subst failed
  cases failure with
  | some error => exact lost moved other error memory
  | none =>
    cases Transfer.eq_of_told_eq told rfl
    exact whole moved memory

theorem outcome_then {next next' : Except Fault γ → Operation α}
    (alike : Alike words buffer first second)
    (rest : ∀ result left, Agrees words seen left (next result) (next' result)) :
    Agrees words seen buffer (Action.outcome first >>= next) (Action.outcome second >>= next') := by
  intro state
  have same : first.run (Link.over words) buffer state = second.run (Bus.over words) buffer state :=
    alike state
  simp only [Action.run_bind, Action.run_outcome, same]
  exact rest _ _ _

theorem replyWith {reply : Except Fault α → Reply} (agrees : Agrees words seen buffer remote own)
    (tells : ∀ result other, seen result = seen other → (reply result).told = (reply other).told) :
    Agrees words (Except.map Reply.told) buffer (TripleBuffer.replyWith reply remote)
      (TripleBuffer.replyWith reply own) := by
  intro state
  obtain ⟨same, after⟩ := Prod.mk.inj (agrees state)
  obtain ⟨same, left⟩ := Prod.mk.inj same
  simp only [run_replyWith, seenAs, Except.map, tells _ _ same, left, after]

end Agrees

section Calls

variable {seen : Except Fault α → β}

theorem write_alike (payload : Bytes) : Alike words buffer (Remote.write payload) (write payload) := by
  refine .bind (.requireRole _) fun _ => .get_then (.own_get_then (.ite (fun _ => rfl) ?_))
  refine .bind (.loadControl _) fun latest => .bind (.loadControl _) fun claimed => ?_
  unfold fillSlot
  simp only [Action.bind_assoc]
  exact .bind (.store rfl) fun _ => .bind (.store rfl) fun _ => .bind (.storeBytes rfl) fun _ =>
    .bind (.store rfl) fun _ => .bind (.storeControl _ _) fun _ _ => rfl

/-- What follows a claim: the word that stayed as it was, or none. -/
theorem claim_then {acked : Sequence} {next : Option ControlWord → Operation α}
    {next' : ControlWord → Operation α} (attempts : Nat) (word : UInt32)
    (busy : ∀ left, Agrees words seen left (next none) (Action.fail .busy))
    (rest : ∀ claimed left, Agrees words seen left (next (some claimed)) (next' claimed)) :
    Agrees words seen buffer (Remote.claim acked attempts word >>= next)
      (claim acked attempts word >>= next') := by
  induction attempts generalizing word buffer with
  | zero => exact busy buffer
  | succ attempts ih =>
    rw [Remote.claim, claim]
    refine .within (.modify_then ?_)
    refine .within (.bind (.storeControl _ _) fun _ => ?_)
    refine .within (.bind (.loadControl _) fun again => ?_)
    by_cases same : again = word
    · simp only [if_pos same]
      exact rest _ _
    · simp only [if_neg same]
      exact ih again

/-- The stamps around a copy are looked at alike. -/
theorem confirm_alike {place size : Nat} {claimed : ControlWord} {last : UInt32}
    (there : buffer.slotAddress claimed.slot = place) :
    Alike words buffer (Remote.confirm place claimed.seq last size) (do
      let first ← load (·.slotAddress claimed.slot + Layout.beginOffset)
      if first ≠ claimed.seq.toUInt32 ∨ last ≠ claimed.seq.toUInt32 then Action.fail .busy
      observe claimed.seq size) := by
  refine .bind (.load (congrArg (· + Layout.beginOffset) there)) fun first => ?_
  by_cases torn : first ≠ claimed.seq.toUInt32 ∨ last ≠ claimed.seq.toUInt32
  · simp only [if_pos torn]
    exact fun _ => rfl
  · simp only [if_neg torn]
    refine .get_then (.own_get_then ?_)
    by_cases fresh : claimed.seq.isFresh buffer.lastSeen
    · simp only [if_pos fresh]
      exact fun _ => rfl
    · simp only [if_neg fresh]
      exact fun _ => rfl

/-- Bytes that differ are those of a transfer that failed. -/
theorem tryRead_agrees (room : Nat) :
    Agrees words (Except.map ReadAttempt.told) buffer (Remote.tryRead room) (tryRead room) := by
  refine .bind (.requireRole _) fun _ => ?_
  unfold claimLatest
  simp only [Action.bind_assoc]
  refine .bind (.loadControl _) fun register => .bind (.loadControl _) fun word => ?_
  refine claim_then _ _ (fun _ _ => rfl) fun claimed left => .ite (fun _ => rfl) (.get_then ?_)
  refine .bind (.load rfl) fun last => .bind (.load rfl) fun size => .own_get_then ?_
  refine .ite (fun _ => rfl) (.ite (fun _ => rfl) (.loadBytes_then rfl (fun moved => ?_) ?_))
  · exact .outcome_then (confirm_alike rfl) fun _ _ _ => rfl
  · exact fun _ _ _ _ => rfl

theorem acknowledge_alike (seq : Sequence) :
    Alike words buffer (Remote.acknowledge seq) (acknowledge seq) :=
  .bind (.requireRole _) fun _ => .get_then (.own_get_then (.last (.storeControl _ _)))

theorem acknowledged_alike : Alike words buffer Remote.acknowledged acknowledged :=
  .bind (.requireRole _) fun _ => .bind (.loadControl _) fun _ => .bind (.loadControl _) fun _ =>
    fun _ => rfl

end Calls

theorem perform_agrees (call : Remote.Call) :
    Agrees words (Except.map Reply.told) buffer call.perform call.onBus.perform := by
  cases call with
  | write payload => exact .replyWith (write_alike payload) fun _ _ same => congrArg Reply.written same
  | read room => exact .replyWith (tryRead_agrees room) fun _ _ same => congrArg (Reply.read room) same
  | acknowledge seq =>
    exact .replyWith (acknowledge_alike seq) fun _ _ same => congrArg Reply.acknowledge same
  | acknowledged =>
    exact .replyWith acknowledged_alike fun _ _ same => congrArg Reply.acknowledged same

theorem sights_agree (calls : List Remote.Call) (buffer : TripleBuffer) (memory : ω) :
    sights .link words calls buffer memory = sights .bus words calls buffer memory := by
  induction calls generalizing buffer memory with
  | nil => rfl
  | cons call rest ih =>
    have same : seenAs (Except.map Reply.told)
          ((Way.link.perform call).run (Way.link.over words) buffer memory) =
        seenAs (Except.map Reply.told)
          ((Way.bus.perform call).run (Way.bus.over words) buffer memory) := perform_agrees call memory
    unfold sights
    generalize (Way.link.perform call).run (Way.link.over words) buffer memory = far at *
    generalize (Way.bus.perform call).run (Way.bus.over words) buffer memory = near at *
    obtain ⟨⟨reply, left⟩, after⟩ := far
    obtain ⟨⟨other, left'⟩, after'⟩ := near
    simp only [seenAs, Prod.mk.injEq] at same
    obtain ⟨⟨told, rfl⟩, rfl⟩ := same
    simp only [told, ih]

theorem attach_agrees (words : Handler Words ω) (role : Role) (d : Descriptor) (lastSeen : Sequence)
    (memory : ω) :
    (Remote.attach role d lastSeen).run (Link.over words) memory =
      (attach role d lastSeen).run (Bus.over words) memory := by
  unfold Remote.attach attach prepare checkDescriptor
  split
  · rfl
  split
  · rfl
  -- Both have taken the descriptor. What is left is to load one word and to judge it.
  change Prog.run _ (Prog.ask (S := Medium) (.load (d.base + Layout.slotSizeOffset)) _) memory =
    Prog.run _ (Prog.ask (S := Medium) (.load (d.base + Layout.slotSizeOffset)) _) memory
  rw [Prog.run_ask, Prog.run_ask, Link.over_load]
  rcases Bus.over words (.load (d.base + Layout.slotSizeOffset)) memory with ⟨error | found, after⟩
  · rfl
  change Prog.run _ (if found.toNat = 0 then _ else if found.toNat ≠ d.size then _ else _) after =
    Prog.run _ (((if found.toNat = 0 then Action.fail _ else if found.toNat ≠ d.size then
      Action.fail _ else pure () : Operation Unit) (new role d lastSeen)).bind _) after
  by_cases empty : found.toNat = 0
  · simp only [if_pos empty]
    rfl
  by_cases other : found.toNat ≠ d.size
  · simp only [if_neg empty, if_pos other]
    rfl
  · simp only [if_neg empty, if_neg other]
    rfl

end Agreement

/-- An end over a link and one over the bus, each in its own steps and from the same memory, reply alike
to any calls, and leave the same memory and number seen last after each; so do their accesses fail,
whichever do. -/
theorem remote_visit_agrees (words : Handler Words ω) (role : Role) (d : Descriptor)
    (calls : List Remote.Call) (memory : ω) :
    visit .link words role d calls memory = visit .bus words role d calls memory := by
  unfold visit
  simp only [Way.attach, Way.over, attach_agrees]
  rcases (attach role d 0).run (Bus.over words) memory with ⟨fault | buffer, after⟩
  · rfl
  · simp only [sights_agree]

end TripleBuffer

end NodeLink

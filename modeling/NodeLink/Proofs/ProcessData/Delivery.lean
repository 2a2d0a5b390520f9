import NodeLink.Proofs.Linking
import NodeLink.Proofs.ProcessData.Copying
import NodeLink.Proofs.TripleBuffer.Freshness

/-! The way of an object's value from one dictionary to another. Both ends have linked the same table;
the image is filled from one dictionary, published, taken and copied to the other. Either end may have
done anything before, and may try in vain on the way: what is taken is the image published last, and
until it is filled again the producing end publishes no other. -/
namespace NodeLink.ProcessData

/-- Both ends of a process image, and the memory between them. -/
structure Ends where
  producer : Producer
  consumer : Consumer
  memory : SharedMemory

/-- What an end may do. Accesses fail as listed, and the dictionaries may be others each time. -/
inductive Step where
  | linkProducer (sizeOf : ObjectRef → Option Nat) (table : List Link)
  | linkConsumer (sizeOf : ObjectRef → Option Nat) (table : List Link)
  | setObject (object : ObjectRef) (data : Bytes)
  | copyFrom (objects : Objects) (state : objects.State)
  | finish
  | publish (fails : Nat → Bool)
  | refresh (fails : Nat → Bool)
  | copyTo (objects : Objects) (state : objects.State)

namespace Step

def Links : Step → Prop
  | linkProducer _ _ => True
  | linkConsumer _ _ => True
  | _ => False

/-- The tables and the producing end's image are left alone. -/
def Waits : Step → Prop
  | finish => True
  | publish _ => True
  | refresh _ => True
  | copyTo _ _ => True
  | _ => False

end Step

namespace Ends

/-- Both ends right after the buffer was made, on the processor that owns its memory. -/
def setUp (owner : Role) (d : Descriptor) (memory : SharedMemory) : Except Fault Ends :=
  match TripleBuffer.Pair.setUp owner d memory with
  | .error fault => .error fault
  | .ok pair =>
    match Producer.new pair.producing, Consumer.new pair.consuming with
    | .ok producer, .ok consumer => .ok ⟨producer, consumer, pair.memory⟩
    | .error error, _ => .error (.error error)
    | _, .error error => .error (.error error)

def copyFrom (ends : Ends) (objects : Objects) (state : objects.State) : Except Fault Unit × Ends :=
  let ((result, producer), _) := Producer.copyFrom.run objects.onHost ends.producer state
  (result, { ends with producer })

def finish (ends : Ends) : Ends := { ends with producer := ends.producer.finish }

def publish (ends : Ends) (fails : Nat → Bool) : Except Fault Bool × Ends :=
  let ((result, producer), memory) := Producer.publish.runFailing fails ends.producer ends.memory
  (result, { ends with producer, memory })

def refresh (ends : Ends) (fails : Nat → Bool) : Except Fault Bool × Ends :=
  let ((result, consumer), memory) := Consumer.refresh.runFailing fails ends.consumer ends.memory
  (result, { ends with consumer, memory })

def copyTo (ends : Ends) (objects : Objects) (state : objects.State) :
    (Except Fault Unit × Ends) × objects.State :=
  let ((result, consumer), state) := Consumer.copyTo.run objects.onHost ends.consumer state
  ((result, { ends with consumer }), state)

def take (ends : Ends) : Step → Ends
  | .linkProducer sizeOf table =>
    { ends with producer := (ends.producer.link sizeOf table).toOption.getD ends.producer }
  | .linkConsumer sizeOf table =>
    { ends with consumer := (ends.consumer.link sizeOf table).toOption.getD ends.consumer }
  | .setObject object data =>
    { ends with producer := (ends.producer.setObject object data).toOption.getD ends.producer }
  | .copyFrom objects state => (ends.copyFrom objects state).2
  | .finish => ends.finish
  | .publish fails => (ends.publish fails).2
  | .refresh fails => (ends.refresh fails).2
  | .copyTo objects state => (ends.copyTo objects state).1.2

def after (ends : Ends) (steps : List Step) : Ends := steps.foldl take ends

/-- Both ends stand on a buffer that these images were published through. -/
abbrev Stands (d : Descriptor) (ends : Ends) (published : List Bytes) : Prop :=
  Path d ends.producer ends.consumer ends.memory published

variable {d : Descriptor} {ends next : Ends} {published later : List Bytes} {step : Step}
  {table : List Link}

theorem setUp_stands {owner : Role} {memory : SharedMemory}
    (made : setUp owner d memory = .ok ends) : ends.Stands d [] := by
  unfold setUp at made
  split at made
  · cases made
  · rename_i pair connected
    split at made
    · rename_i producer consumer producing consuming
      cases made
      obtain ⟨produces, consumes, shows⟩ := TripleBuffer.setUp_shows connected
      exact Path.start produces consumes shows producing consuming
    · cases made
    · cases made

/-- What a step does: it publishes the producing end's image or nothing, a table changes by linking
alone, and an image that waits to be published stays. -/
structure Moves (d : Descriptor) (step : Step) (before after : Ends) (published later : List Bytes) :
    Prop where
  stands : after.Stands d later
  more : later = published ∨ later = published ++ [before.producer.image.bytes]
  sending : ¬ step.Links → after.producer.image.links = before.producer.image.links
  receiving : ¬ step.Links → after.consumer.image.links = before.consumer.image.links
  image : step.Waits → after.producer.image = before.producer.image

/-- The producing end changes, but not its buffer. -/
theorem Moves.of_edit {edited : Producer} (stands : ends.Stands d published)
    (buffer : edited.buffer = ends.producer.buffer)
    (size : edited.image.size = ends.producer.image.size)
    (table : ¬ step.Links → edited.image.links = ends.producer.image.links)
    (image : step.Waits → edited.image = ends.producer.image) :
    Moves d step ends { ends with producer := edited } published published where
  stands := stands.edit buffer size
  more := .inl rfl
  sending := table
  receiving _ := rfl
  image := image

/-- What an attempt to publish leaves. -/
theorem publish_moves {fails : Nat → Bool} {result : Except Fault Bool}
    (stands : ends.Stands d published) (attempted : ends.publish fails = (result, next)) :
    ∃ later, Moves d (.publish fails) ends next published later ∧
      (result = .ok true → later = published ++ [ends.producer.image.bytes]) := by
  have publishes : Producer.publish.Ensures (Action.Fails fails) TripleBuffer.anyAccess
      ends.producer ends.memory _ _ := Producer.publish_ensures stands
  have ended := publishes.runFailing
  unfold publish at attempted
  generalize Producer.publish.runFailing fails ends.producer ends.memory = outcome at *
  obtain ⟨⟨fault | done, producer⟩, memory⟩ := outcome
  · cases attempted
    obtain ⟨stands, image, -⟩ := ended
    have table : producer.image.links = ends.producer.image.links := congrArg Image.links image
    exact ⟨published, ⟨stands, .inl rfl, fun _ => table, fun _ => rfl, fun _ => image⟩, nofun⟩
  · cases attempted
    obtain ⟨stands, image, -⟩ := ended
    have table : producer.image.links = ends.producer.image.links := congrArg Image.links image
    cases done with
    | false =>
      refine ⟨published, ?_, nofun⟩
      exact ⟨stands, .inl rfl, fun _ => table, fun _ => rfl, fun _ => image⟩
    | true =>
      refine ⟨_, ?_, fun _ => rfl⟩
      exact ⟨stands, .inr rfl, fun _ => table, fun _ => rfl, fun _ => image⟩

/-- What an attempt to take an image leaves. One that succeeds takes the image published last. -/
theorem refresh_moves {fails : Nat → Bool} {result : Except Fault Bool}
    (stands : ends.Stands d published) (attempted : ends.refresh fails = (result, next)) :
    Moves d (.refresh fails) ends next published published ∧
      (result = .ok true → published.getLast? = some next.consumer.image.bytes) := by
  have takes : Consumer.refresh.Ensures (Action.Fails fails) TripleBuffer.anyAccess
      ends.consumer ends.memory _ _ := Consumer.refresh_takes stands
  have ended := takes.runFailing
  unfold refresh at attempted
  generalize Consumer.refresh.runFailing fails ends.consumer ends.memory = outcome at *
  obtain ⟨⟨fault | fresh, consumer⟩, memory⟩ := outcome
  · cases attempted
    obtain ⟨leaves, table⟩ := ended
    exact ⟨⟨leaves.path, .inl rfl, fun _ => rfl, fun _ => table, fun _ => rfl⟩, nofun⟩
  · cases attempted
    obtain ⟨leaves, table, last⟩ := ended
    refine ⟨⟨leaves.path, .inl rfl, fun _ => rfl, fun _ => table, fun _ => rfl⟩, ?_⟩
    intro taken
    cases taken
    exact last rfl

theorem copyTo_same (ends : Ends) (objects : Objects) (state : objects.State) :
    (ends.copyTo objects state).1.2 = ends :=
  congrArg (fun consumer => { ends with consumer })
    (Consumer.copyLinks_keeps objects.onHost ends.consumer.image.links ends.consumer state)

theorem take_moves (stands : ends.Stands d published) (step : Step) :
    ∃ later, Moves d step ends (ends.take step) published later := by
  cases step with
  | linkProducer sizeOf table =>
    refine ⟨published, ?_⟩
    change Moves d _ ends { ends with producer := _ } published published
    cases found : ends.producer.link sizeOf table with
    | error error => exact .of_edit stands rfl rfl (fun _ => rfl) fun _ => rfl
    | ok linked =>
      obtain ⟨buffer, bytes⟩ := Producer.link_eq_ok found
      exact .of_edit stands buffer (congrArg List.length bytes) (fun other => absurd trivial other)
        False.elim
  | linkConsumer sizeOf table =>
    refine ⟨published, ?_⟩
    change Moves d _ ends { ends with consumer := _ } published published
    cases found : ends.consumer.link sizeOf table with
    | error error => exact .of_edit stands rfl rfl (fun _ => rfl) fun _ => rfl
    | ok linked =>
      obtain ⟨buffer, bytes⟩ := Consumer.link_eq_ok found
      exact ⟨stands.link rfl rfl buffer bytes, .inl rfl, fun _ => rfl,
        fun other => absurd trivial other, fun _ => rfl⟩
  | setObject object data =>
    refine ⟨published, ?_⟩
    change Moves d _ ends { ends with producer := _ } published published
    cases found : ends.producer.setObject object data with
    | error error => exact .of_edit stands rfl rfl (fun _ => rfl) fun _ => rfl
    | ok edited =>
      obtain ⟨buffer, size⟩ := Producer.setObject_eq_ok found
      exact .of_edit stands buffer size (fun _ => Producer.setObject_table found) False.elim
  | copyFrom objects state =>
    refine ⟨published, ?_⟩
    obtain ⟨buffer, table, size, -⟩ := Producer.copyLinks_fills objects.onHost
      ends.producer.image.links ends.producer state
    exact .of_edit stands buffer size (fun _ => table) False.elim
  | finish => exact ⟨published, .of_edit stands rfl rfl (fun _ => rfl) fun _ => rfl⟩
  | publish fails =>
    obtain ⟨later, moves, -⟩ := publish_moves stands rfl
    exact ⟨later, moves⟩
  | refresh fails =>
    exact ⟨published, (refresh_moves stands rfl).1⟩
  | copyTo objects state =>
    change ∃ later, Moves d _ ends (ends.copyTo objects state).1.2 published later
    rw [copyTo_same]
    exact ⟨published, stands, .inl rfl, fun _ => rfl, fun _ => rfl, fun _ => rfl⟩

theorem after_stands (stands : ends.Stands d published) (steps : List Step) :
    ∃ later, (ends.after steps).Stands d later := by
  induction steps generalizing ends published with
  | nil => exact ⟨published, stands⟩
  | cons step rest ih =>
    obtain ⟨later, moves⟩ := take_moves stands step
    exact ih moves.stands

/-- The tables stay until a step links. -/
theorem after_tables (stands : ends.Stands d published) {steps : List Step}
    (kept : ∀ step ∈ steps, ¬ step.Links) :
    (ends.after steps).producer.image.links = ends.producer.image.links ∧
      (ends.after steps).consumer.image.links = ends.consumer.image.links := by
  induction steps generalizing ends published with
  | nil => exact ⟨rfl, rfl⟩
  | cons step rest ih =>
    obtain ⟨first, others⟩ := List.forall_mem_cons.mp kept
    obtain ⟨later, moves⟩ := take_moves stands step
    obtain ⟨sending, receiving⟩ := ih moves.stands others
    exact ⟨sending.trans (moves.sending first), receiving.trans (moves.receiving first)⟩

/-- What the ends leave that only wait: the producing end's image, and what was published last if it
was that image. -/
structure Waited (d : Descriptor) (before after : Ends) (published later : List Bytes) : Prop where
  stands : after.Stands d later
  sending : after.producer.image = before.producer.image
  receiving : after.consumer.image.links = before.consumer.image.links
  last : published.getLast? = some before.producer.image.bytes →
    later.getLast? = some before.producer.image.bytes

theorem after_waited (stands : ends.Stands d published) {steps : List Step}
    (patient : ∀ step ∈ steps, step.Waits) :
    ∃ later, Waited d ends (ends.after steps) published later := by
  induction steps generalizing ends published with
  | nil => exact ⟨published, stands, rfl, rfl, id⟩
  | cons step rest ih =>
    obtain ⟨first, others⟩ := List.forall_mem_cons.mp patient
    obtain ⟨between, moves⟩ := take_moves stands step
    obtain ⟨later, waited⟩ := ih moves.stands others
    have unlinked : ¬ step.Links := by
      cases step with
      | linkProducer => exact first.elim
      | linkConsumer => exact first.elim
      | _ => exact False.elim
    have image := moves.image first
    refine ⟨later, waited.stands, waited.sending.trans image,
      waited.receiving.trans (moves.receiving unlinked), fun last => ?_⟩
    rw [← image]
    apply waited.last
    rw [image]
    rcases moves.more with same | more
    · exact same ▸ last
    · rw [more, List.getLast?_concat]

end Ends

/-- An entry that alone names its object, and whose bytes no other entry covers. -/
def Link.Alone (table : List Link) (link : Link) : Prop :=
  ∃ before later, table = before ++ link :: later ∧ ∀ other ∈ before ++ later,
    other.object ≠ link.object ∧ ∀ index, link.Covers index → ¬ other.Covers index

theorem Image.link_fits {image linked : Image} {sizeOf : ObjectRef → Option Nat} {table : List Link}
    (found : image.link sizeOf table = .ok linked) :
    linked.links = table ∧ ∀ link ∈ table, sizeOf link.object = some link.size := by
  unfold Image.link at found
  split at found
  · cases found
  · rename_i checked
    cases found
    refine ⟨rfl, fun link member => ?_⟩
    have fits := fits_of_checkLinks checked link member
    simp only [Link.fits, Bool.and_eq_true, decide_eq_true_eq] at fits
    exact fits.1

/-- An image on its way: it is filled from one dictionary, marked complete, published, taken and
copied to the other dictionary. The ends may wait before it is published and before it is taken. -/
structure Delivery (source target : Objects) (ends : Ends) where
  values : source.State
  filled : Ends
  copied : ends.copyFrom source values = (.ok (), filled)
  waiting : List Step
  waits : ∀ step ∈ waiting, step.Waits
  publishing : Nat → Bool
  sent : Ends
  published : (filled.finish.after waiting).publish publishing = (.ok true, sent)
  resting : List Step
  rests : ∀ step ∈ resting, step.Waits
  refreshing : Nat → Bool
  taken : Ends
  refreshed : (sent.after resting).refresh refreshing = (.ok true, taken)
  settled : target.State
  final : target.State
  last : Ends
  stored : taken.copyTo target settled = ((.ok (), last), final)

namespace Ends

variable {d : Descriptor} {start : Ends} {memory : SharedMemory} {table : List Link}
  {source target : Objects} {known : source.State} {opened : target.State} {sender : Producer}
  {receiver : Consumer}

/-- What is taken is the image that was filled, and the tables have stayed. -/
theorem Stands.delivered {published : List Bytes} {ends : Ends} (stands : ends.Stands d published)
    (delivery : Delivery source target ends) :
    delivery.taken.producer.image = delivery.filled.producer.image ∧
      delivery.taken.consumer.image.bytes = delivery.filled.producer.image.bytes ∧
      delivery.taken.consumer.image.links = ends.consumer.image.links := by
  have fills := take_moves stands (.copyFrom source delivery.values)
  simp only [take, delivery.copied] at fills
  obtain ⟨_, filled⟩ := fills
  have finishes : ∃ later, Moves d .finish delivery.filled delivery.filled.finish _ later :=
    take_moves filled.stands .finish
  obtain ⟨_, finished⟩ := finishes
  obtain ⟨_, waited⟩ := after_waited finished.stands delivery.waits
  obtain ⟨_, publishes, more⟩ := publish_moves waited.stands delivery.published
  obtain ⟨_, rested⟩ := after_waited publishes.stands delivery.rests
  obtain ⟨refreshes, last⟩ := refresh_moves rested.stands delivery.refreshed
  have sent : delivery.sent.producer.image = delivery.filled.producer.image :=
    (publishes.image trivial).trans waited.sending
  have taken : delivery.taken.producer.image = delivery.filled.producer.image :=
    (refreshes.image trivial).trans (rested.sending.trans sent)
  have tables : delivery.taken.consumer.image.links = ends.consumer.image.links := by
    rw [refreshes.receiving id, rested.receiving, publishes.receiving id, waited.receiving]
    exact filled.receiving id
  have published := more rfl
  rw [waited.sending] at published
  subst published
  have arrived := rested.last (by rw [sent]; exact List.getLast?_concat)
  rw [sent] at arrived
  exact ⟨taken, Option.some.inj ((last rfl).symm.trans arrived), tables⟩

theorem copyFrom_eq_ok {ends filled : Ends} {values : source.State}
    (copied : ends.copyFrom source values = (.ok (), filled)) :
    ∃ after, (Producer.copyLinks ends.producer.image.links).run source.onHost ends.producer values =
      ((.ok (), filled.producer), after) := by
  have ran : Producer.copyFrom.run source.onHost ends.producer values =
    (Producer.copyLinks ends.producer.image.links).run source.onHost ends.producer values := rfl
  unfold copyFrom at copied
  rw [ran] at copied
  generalize (Producer.copyLinks ends.producer.image.links).run source.onHost ends.producer values =
    outcome at copied ⊢
  obtain ⟨⟨result, producer⟩, after⟩ := outcome
  cases copied
  exact ⟨after, rfl⟩

theorem copyTo_eq_ok {ends last : Ends} {settled final : target.State}
    (stored : ends.copyTo target settled = ((.ok (), last), final)) : last = ends ∧
      ∃ left, (Consumer.copyLinks ends.consumer.image.links).run target.onHost ends.consumer settled =
        ((.ok (), left), final) := by
  have same := copyTo_same ends target settled
  rw [stored] at same
  have ran : Consumer.copyTo.run target.onHost ends.consumer settled =
    (Consumer.copyLinks ends.consumer.image.links).run target.onHost ends.consumer settled := rfl
  unfold copyTo at stored
  rw [ran] at stored
  generalize (Consumer.copyLinks ends.consumer.image.links).run target.onHost ends.consumer settled =
    outcome at stored ⊢
  obtain ⟨⟨result, consumer⟩, after⟩ := outcome
  cases stored
  exact ⟨same, consumer, rfl⟩

/-- Once both ends have linked a table, an image on its way is the same on both ends, and it gives the
other dictionary the values of all objects whose entry stands alone. Filling it changed bytes of
linked ranges only. -/
theorem linked_values_delivered (faithful : source.Faithful) (storing : target.Faithful)
    {owner : Role} (made : setUp owner d memory = .ok start) (history : List Step)
    (sends : (start.after history).producer.link (source.sizeOf known) table = .ok sender)
    (receives : (start.after history).consumer.link (target.sizeOf opened) table = .ok receiver)
    (turns : List Step) (kept : ∀ step ∈ turns, ¬ step.Links) :
    let linked : Ends := ⟨sender, receiver, (start.after history).memory⟩
    let ends := linked.after turns
    ∀ delivery : Delivery source target ends,
      (∀ object value, source.value delivery.values object = some value →
        source.sizeOf known object = some value.length) →
      (∀ link, Link.Alone table link → ∃ value,
        source.value delivery.values link.object = some value ∧
          target.value delivery.final link.object = some value) ∧
      delivery.last.consumer.image.bytes = delivery.last.producer.image.bytes ∧
      ∀ index, (∀ link ∈ table, ¬ link.Covers index) →
        delivery.filled.producer.image.bytes[index]? = ends.producer.image.bytes[index]? := by
  intro linked ends delivery sized
  obtain ⟨_, whole⟩ := after_stands (setUp_stands made) history
  obtain ⟨buffer, bytes⟩ := Producer.link_eq_ok sends
  obtain ⟨buffer', bytes'⟩ := Consumer.link_eq_ok receives
  have stands : linked.Stands d _ := whole.link buffer bytes buffer' bytes'
  obtain ⟨_, turned⟩ := after_stands stands turns
  obtain ⟨_, sending, rfl⟩ := map_eq_ok sends
  obtain ⟨_, receiving, rfl⟩ := map_eq_ok receives
  obtain ⟨named, sizes⟩ := Image.link_fits sending
  obtain ⟨expected, -⟩ := Image.link_fits receiving
  obtain ⟨tables, tables'⟩ := after_tables stands kept
  replace tables : ends.producer.image.links = table := tables.trans named
  replace tables' : ends.consumer.image.links = table := tables'.trans expected
  obtain ⟨image, arrived, carried⟩ := Stands.delivered turned delivery
  obtain ⟨_, copied⟩ := copyFrom_eq_ok delivery.copied
  obtain ⟨unchanged, _, stored⟩ := copyTo_eq_ok delivery.stored
  rw [tables] at copied
  rw [carried, tables'] at stored
  refine ⟨?_, ?_, ?_⟩
  · rintro link ⟨before, later, split, alone⟩
    have apart : ∀ other ∈ later, other.object ≠ link.object ∧
        ∀ index, link.Covers index → ¬ other.Covers index :=
      fun other member => alone other (List.mem_append_right before member)
    have sized : ∀ link ∈ table, ∀ value, source.value delivery.values link.object = some value →
        value.length = link.size := by
      intro link member value found
      exact Option.some.inj ((sized _ _ found).symm.trans (sizes link member))
    have held := Producer.copyLinks_holds faithful sized
      (fun link member => ends.producer.image.inside link (tables.symm ▸ member)) copied split
      fun other member => (apart other member).2
    have written := Consumer.copyLinks_stores storing stored split
      fun other member => (apart other member).1
    rw [Image.get, arrived] at written
    exact ⟨_, held, written⟩
  · rw [unchanged, image, arrived]
  · intro index uncovered
    have fills := Producer.copyLinks_fills source.onHost table ends.producer delivery.values
    rw [copied] at fills
    exact fills.outside index uncovered

theorem ended_ok {ε α τ : Type} {outcome : Except ε α × τ} {value : α}
    (told : outcome.1.toOption = some value) : ∃ left, outcome = (.ok value, left) := by
  obtain ⟨result, left⟩ := outcome
  cases result with
  | error error => cases told
  | ok found =>
    cases told
    exact ⟨left, rfl⟩

/-- Two entries overlap and a third stands alone. The first attempts to publish and to take fail. -/
theorem linked_values_delivered_retried :
    let source : Dictionary := ⟨[⟨⟨0x6000, 1⟩, [1, 2], none, none, none⟩,
      ⟨⟨0x6000, 2⟩, [3, 4], none, none, none⟩, ⟨⟨0x6000, 3⟩, [5], none, none, none⟩]⟩
    let target : Dictionary := ⟨[⟨⟨0x6000, 3⟩, [0], none, none, none⟩,
      ⟨⟨0x6000, 2⟩, [0, 0], none, none, none⟩, ⟨⟨0x6000, 1⟩, [0, 0], none, none, none⟩]⟩
    let table : List Link := [⟨⟨0x6000, 1⟩, 0, 2⟩, ⟨⟨0x6000, 3⟩, 4, 1⟩, ⟨⟨0x6000, 2⟩, 1, 2⟩]
    ∃ start sender receiver, setUp .producer ⟨.receivePdo, 0, 6⟩ (.zeroed 0 24) = .ok start ∧
      start.producer.link source.sizeOf table = .ok sender ∧
      start.consumer.link target.sizeOf table = .ok receiver ∧
      ∃ delivery : Delivery Dictionary.objects Dictionary.objects ⟨sender, receiver, start.memory⟩,
        delivery.values = source ∧ delivery.waiting = [.publish (· == 3)] ∧
        delivery.resting = [.refresh (· == 2)] ∧
        Dictionary.objects.value delivery.final ⟨0x6000, 3⟩ = some [5] ∧
        delivery.last.consumer.image.bytes = delivery.last.producer.image.bytes ∧
        delivery.filled.producer.image.bytes[3]? = sender.image.bytes[3]? := by
  intro source target table
  let never : Nat → Bool := fun _ => false
  have ran : ∃ start sender receiver, setUp .producer ⟨.receivePdo, 0, 6⟩ (.zeroed 0 24) = .ok start ∧
      start.producer.link source.sizeOf table = .ok sender ∧
      start.consumer.link target.sizeOf table = .ok receiver ∧
      let ends : Ends := ⟨sender, receiver, start.memory⟩
      let fills := ends.copyFrom Dictionary.objects source
      let sends := (fills.2.finish.after [.publish (· == 3)]).publish never
      let takes := (sends.2.after [.refresh (· == 2)]).refresh never
      let stores := (takes.2.copyTo Dictionary.objects target).1
      fills.1.toOption = some () ∧ sends.1.toOption = some true ∧
        takes.1.toOption = some true ∧ stores.1.toOption = some () :=
    ⟨_, _, _, rfl, rfl, rfl, by decide +kernel⟩
  obtain ⟨start, sender, receiver, made, sends, receives, copied, published, refreshed, stored⟩ := ran
  obtain ⟨filled, copied⟩ := ended_ok copied
  rw [copied] at published refreshed stored
  obtain ⟨sent, published⟩ := ended_ok published
  rw [published] at refreshed stored
  obtain ⟨taken, refreshed⟩ := ended_ok refreshed
  rw [refreshed] at stored
  obtain ⟨last, stored⟩ := ended_ok stored
  let delivery : Delivery Dictionary.objects Dictionary.objects
      ⟨sender, receiver, start.memory⟩ := {
    values := source
    filled := filled
    copied := copied
    waiting := [.publish (· == 3)]
    waits := List.forall_mem_singleton.mpr trivial
    publishing := never
    sent := sent
    published := published
    resting := [.refresh (· == 2)]
    rests := List.forall_mem_singleton.mpr trivial
    refreshing := never
    taken := taken
    refreshed := refreshed
    settled := target
    final := (taken.copyTo Dictionary.objects target).2
    last := last
    stored := Prod.ext stored rfl
  }
  have plain : ∀ entry ∈ source.entries, entry.claimed = none := by decide
  obtain ⟨values, images, outside⟩ := linked_values_delivered Dictionary.objects_faithful
    Dictionary.objects_faithful made [] sends receives [] (List.forall_mem_nil _) delivery
    fun _ _ found => Dictionary.sizeOf_of_value plain found
  have alone : Link.Alone table ⟨⟨0x6000, 3⟩, 4, 1⟩ := by
    refine ⟨[⟨⟨0x6000, 1⟩, 0, 2⟩], [⟨⟨0x6000, 2⟩, 1, 2⟩], rfl, ?_⟩
    simp only [List.cons_append, List.nil_append, List.forall_mem_cons, Link.Covers, Link.stop]
    refine ⟨⟨by decide, by omega⟩, ⟨by decide, by omega⟩, List.forall_mem_nil _⟩
  obtain ⟨value, found, stored⟩ := values _ alone
  have five : source.value ⟨0x6000, 3⟩ = some [5] := by decide
  have uncovered : ∀ link ∈ table, ¬ link.Covers 3 := by
    simp only [table, List.forall_mem_cons, Link.Covers, Link.stop]
    refine ⟨by omega, by omega, by omega, List.forall_mem_nil _⟩
  exact ⟨start, sender, receiver, made, sends, receives, delivery, rfl, rfl, rfl,
    stored.trans (found.symm.trans five), images, outside 3 uncovered⟩

end Ends

end NodeLink.ProcessData

import NodeLink.Proofs.Node
import NodeLink.Proofs.TripleBuffer.Creation

/-! Whether a node starts. Each processor accepts a layout table by the sizes that its own ends take. The
ends that only receive writes and records do not ask for the space that the sending ends need, so a table
may suit the communication processor and not the application. -/
namespace NodeLink.Side

open TripleBuffer (Elsewhere create_made attach_made)

/-- The smallest slots that an end of a buffer takes. -/
def smallest : Processor → BufferId → Nat
  | _, .status => Status.recordSize
  | .application, .configuration => Channel.headerSize + ConfigurationChannel.objectSize
  | .application, .logbook => Channel.headerSize + Logbook.entrySize
  | _, _ => 1

/-- The largest slots that the ends of a buffer take. -/
def largest : BufferId → Nat
  | .receivePdo | .transmitPdo => ProcessData.maxImage
  | _ => 65535

/-- A table lists a buffer, once, with a layout that a processor's end of it takes. -/
def Accepts (configuration : Configuration) (processor : Processor) (id : BufferId) : Prop :=
  ∃ d, configuration.required id = .ok d ∧ d.base % 4 = 0 ∧
    smallest processor id ≤ d.size ∧ d.size ≤ largest id

/-- An end is made on the sound buffers of these sizes. -/
def Suits {α : Type} (processor : Processor) (id : BufferId)
    (new : TripleBuffer → Except Error α) : Prop :=
  ∀ d : Descriptor, d.Sound → ((∃ value, new (.new (id.roleOf processor) d 0) = .ok value) ↔
    smallest processor id ≤ d.size ∧ d.size ≤ largest id)

section Ends

variable {α : Type} {processor : Processor} {id : BufferId} {new : TripleBuffer → Except Error α}
  {rest : Descriptor → Except Error α} {bound : Nat}

/-- An end that looks at its role alone. -/
theorem Suits.of_made (made : ∀ d, ∃ value, new (.new (id.roleOf processor) d 0) = .ok value)
    (least : smallest processor id = 1) (most : largest id = 65535) : Suits processor id new := by
  intro d sound
  rw [least, most]
  exact iff_of_true (made d) ⟨sound.positive, sound.small⟩

theorem exists_ok_iff_not {refused : Prop} [Decidable refused] {error : Error}
    {rest : Except Error α} (made : ∃ value, rest = .ok value) :
    (∃ value, (if refused then .error error else rest) = .ok value) ↔ ¬ refused := by
  by_cases refuses : refused
  · simp [refuses]
  · simpa [refuses] using made

/-- An end that refuses small slots. -/
theorem Suits.of_least (checked : ∀ d, new (.new (id.roleOf processor) d 0) =
      if d.size < bound then .error (.invalidSize d.id) else rest d)
    (made : ∀ d, ∃ value, rest d = .ok value) (least : smallest processor id = bound)
    (most : largest id = 65535) : Suits processor id new := by
  intro d sound
  rw [checked, exists_ok_iff_not (made d), least, most]
  simp [sound.small]

/-- An end that refuses large slots. -/
theorem Suits.of_most (checked : ∀ d, new (.new (id.roleOf processor) d 0) =
      if bound < d.size then .error (.invalidSize d.id) else rest d)
    (made : ∀ d, ∃ value, rest d = .ok value) (least : smallest processor id = 1)
    (most : largest id = bound) : Suits processor id new := by
  intro d sound
  rw [checked, exists_ok_iff_not (made d), least, most, Nat.not_lt]
  exact (and_iff_right sound.positive).symm

theorem suits_status (processor : Processor) :
    Suits processor .status (Status.new (BufferId.roleOf .status processor)) := by
  cases processor with
  | communication => exact .of_least (fun _ => rfl) (fun _ => ⟨_, rfl⟩) rfl rfl
  | application => exact .of_least (fun _ => rfl) (fun _ => ⟨_, rfl⟩) rfl rfl

/-- An end of a process image. -/
theorem Suits.of_image {own : Descriptor → ProcessData.Image → α}
    (imaged : ∀ d, new (.new (id.roleOf processor) d 0) =
      own d <$> ProcessData.imageOf (.new (id.roleOf processor) d 0))
    (least : smallest processor id = 1) (most : largest id = ProcessData.maxImage) :
    Suits processor id new := by
  apply Suits.of_most (fun d => ?_) (fun d => ⟨own d (.zeros d.size), rfl⟩) least most
  rw [imaged, ProcessData.imageOf]
  change own d <$> (if ProcessData.maxImage < d.size then _ else _) = _
  split
  · rfl
  · rfl

/-- An end whose layout does not fit is not opened. -/
theorem Suits.accepts_iff {configuration : Configuration} (suits : Suits processor id new) :
    Accepts configuration processor id ↔ ∃ d, configuration.required id = .ok d ∧ d.Sound ∧
      ∃ value, new (.new (id.roleOf processor) d 0) = .ok value := by
  have positive : 1 ≤ smallest processor id := by cases processor <;> cases id <;> decide
  have bounded : largest id ≤ 65535 := by cases id <;> decide
  constructor
  · rintro ⟨d, found, aligned, least, most⟩
    have sound : d.Sound := ⟨aligned, by omega, by omega⟩
    exact ⟨d, found, sound, (suits d sound).mpr ⟨least, most⟩⟩
  · rintro ⟨d, found, sound, made⟩
    exact ⟨d, found, sound.aligned, (suits d sound).mp made⟩

end Ends

section Start

variable {α : Type} {configuration : Configuration} {id : BufferId} {ids : List BufferId}
  {world : World} {new : TripleBuffer → Except Error α} {memory after : SharedMemory} {d : Descriptor}

/-- The memory has every region, and those of some ids name their slot sizes. -/
structure Furnished (configuration : Configuration) (ids : List BufferId) (memory : SharedMemory) :
    Prop where
  spanned : ∀ d ∈ configuration.buffers, d.Spanned memory
  labelled : ∀ id ∈ ids, ∀ d, configuration.required id = .ok d → d.Labelled memory

theorem Furnished.create (furnished : Furnished configuration ids memory)
    (disjoint : configuration.buffers.Pairwise Descriptor.Apart)
    (found : configuration.required id = .ok d) (labelled : d.Labelled after)
    (elsewhere : Elsewhere d memory after) : Furnished configuration (id :: ids) after where
  spanned other listed := (furnished.spanned other listed).congr elsewhere.1
  labelled other member e too := by
    by_cases same : other = id
    · subst same
      cases found.symm.trans too
      exact labelled
    · have earlier : other ∈ ids := (List.mem_cons.mp member).resolve_left same
      have apart : d.Apart e := required_apart disjoint found too (Ne.symm same)
      exact (furnished.labelled other earlier e too).elsewhere elsewhere apart

theorem create_judged {role : Role} (spanned : d.Spanned memory) :
    (TripleBuffer.create role d).inWords.Ensures (SharedMemory.Answers False)
      TripleBuffer.anyAccess memory fun result after =>
        ((∃ own, result = .ok own ∧ d.Sound ∧ own = .new role d 0 ∧ d.Labelled after) ∨
          (∃ fault, result = .error fault) ∧ ¬ d.Sound) ∧ Elsewhere d memory after := by
  have asks := (TripleBuffer.create_asks role d).inWords fun _ inside => inside.inWords
  apply (Prog.Ensures.and (create_made spanned) asks.sameOutside).mono fun _ granted => granted.1
  rintro result after ⟨judged, -, elsewhere⟩
  exact ⟨judged, elsewhere⟩

/-- The communication processor makes a buffer and its end exactly where it accepts the layout. -/
theorem Communication.build_judged (suits : Suits .communication id new)
    (disjoint : configuration.buffers.Pairwise Descriptor.Apart)
    (furnished : Furnished configuration ids world.memory) :
    (build configuration id new).Meets False () world
      (fun value _ after => (Accepts configuration .communication id ∧
        Opened configuration .communication id new value) ∧
          Furnished configuration (id :: ids) after.memory)
      fun _ _ _ => ¬ Accepts configuration .communication id := by
  rw [suits.accepts_iff]
  refine Action.Meets.bind (fun buffer _ after => ∃ d, configuration.required id = .ok d ∧ d.Sound ∧
    buffer = .new (id.roleOf .communication) d 0 ∧
      Furnished configuration (id :: ids) after.memory) ?_ ?_
  · change ((createBuffer configuration id).bind _).Ensures _ _ _ _
    unfold createBuffer
    split
    · rename_i error missing
      rintro ⟨d, found, -⟩
      cases missing.symm.trans found
    · rename_i d found
      have spanned := furnished.spanned d (required_eq_ok found).1
      refine (Prog.ensures_bind _ _ _).mpr ((Action.ensures_onHost (create_judged spanned)).mono
        (fun _ granted => granted) ?_)
      rintro result after ⟨⟨⟨own, rfl, sound, rfl, labelled⟩ | ⟨⟨fault, rfl⟩, unsound⟩, elsewhere⟩, -⟩
      · exact ⟨d, found, sound, rfl, furnished.create disjoint found labelled elsewhere⟩
      · rintro ⟨e, too, sound, -⟩
        cases found.symm.trans too
        exact unsound sound
  · rintro buffer _ after ⟨d, found, sound, rfl, furnished⟩
    cases made : new (.new (id.roleOf .communication) d 0) with
    | error error =>
      rintro ⟨e, too, -, value, opened⟩
      cases found.symm.trans too
      cases made.symm.trans opened
    | ok value => exact ⟨⟨⟨d, found, sound, value, made⟩, d, found, made⟩, furnished⟩

/-- The application attaches only where it accepts the layout, and always where the buffer was made. -/
theorem Application.build_judged (suits : Suits .application id new) :
    (build configuration id new).Meets False () world
      (fun _ _ after => Accepts configuration .application id ∧ after.memory = world.memory)
      fun _ _ _ => Furnished configuration BufferId.all world.memory →
        ¬ Accepts configuration .application id := by
  rw [suits.accepts_iff]
  refine Action.Meets.bind (fun buffer _ after => ∃ d, configuration.required id = .ok d ∧ d.Sound ∧
    buffer = .new (id.roleOf .application) d 0 ∧ after.memory = world.memory) ?_ ?_
  · change ((attachBuffer configuration id).bind _).Ensures _ _ _ _
    unfold attachBuffer
    split
    · rename_i error missing
      rintro - ⟨d, found, -⟩
      cases missing.symm.trans found
    · rename_i d found
      refine (Prog.ensures_bind _ _ _).mpr ((Action.ensures_onHost attach_made).mono
        (fun _ granted => granted) ?_)
      rintro result after ⟨⟨own, rfl, kept, sound, rfl⟩ | ⟨⟨fault, rfl⟩, misfit⟩, -⟩
      · exact ⟨d, found, sound, rfl, kept⟩
      · rintro furnished ⟨e, too, sound, -⟩
        cases found.symm.trans too
        exact misfit ⟨sound, furnished.labelled id id.mem_all d found⟩
  · rintro buffer _ after ⟨d, found, sound, rfl, kept⟩
    cases made : new (.new (id.roleOf .application) d 0) with
    | error error =>
      rintro - ⟨e, too, -, value, opened⟩
      cases found.symm.trans too
      cases made.symm.trans opened
    | ok value => exact ⟨⟨d, found, sound, value, made⟩, kept⟩

/-- Go on once a buffer was made; a table that is not accepted for one buffer is not accepted. -/
theorem Communication.build_then {β : Type} {next : α → Action Host Unit β}
    {ok : β → Unit → World → Prop} (suits : Suits .communication id new)
    (disjoint : configuration.buffers.Pairwise Descriptor.Apart)
    (furnished : Furnished configuration ids world.memory)
    (rest : ∀ value after, Accepts configuration .communication id →
      Opened configuration .communication id new value →
      Furnished configuration (id :: ids) after.memory →
      (next value).Meets False () after ok
        fun _ _ _ => ¬ ∀ id, Accepts configuration .communication id) :
    (build configuration id new >>= next).Meets False () world ok
      fun _ _ _ => ¬ ∀ id, Accepts configuration .communication id := by
  apply Action.Meets.bind _ ((build_judged suits disjoint furnished).mono (fun _ _ _ built => built) ?_)
  · rintro value _ after ⟨⟨accepts, opened⟩, furnished⟩
    exact rest value after accepts opened furnished
  · exact fun _ _ _ refused all => refused (all id)

theorem Application.build_then {β : Type} {next : α → Action Host Unit β}
    {ok : β → Unit → World → Prop} (suits : Suits .application id new)
    (same : world.memory = memory)
    (rest : ∀ value after, Accepts configuration .application id → after.memory = memory →
      (next value).Meets False () after ok fun _ _ _ =>
        Furnished configuration BufferId.all memory → ¬ ∀ id, Accepts configuration .application id) :
    (build configuration id new >>= next).Meets False () world ok fun _ _ _ =>
      Furnished configuration BufferId.all memory → ¬ ∀ id, Accepts configuration .application id := by
  subst same
  apply Action.Meets.bind _ ((build_judged suits).mono (fun _ _ _ built => built) ?_)
  · rintro value _ after ⟨accepts, kept⟩
    exact rest value after accepts kept
  · exact fun _ _ _ refused furnished all => refused furnished (all id)

theorem Communication.init_judged (disjoint : configuration.buffers.Pairwise Descriptor.Apart)
    (furnished : Furnished configuration [] world.memory) :
    (init configuration).Meets False () world
      (fun _ _ after => (∀ id, Accepts configuration .communication id) ∧
        Furnished configuration BufferId.all after.memory)
      fun _ _ _ => ¬ ∀ id, Accepts configuration .communication id := by
  refine build_then ?_ disjoint furnished ?_
  · exact .of_made (fun _ => ⟨_, rfl⟩) rfl rfl
  rintro ⟨outbound, timers⟩ _ outboundFits opened furnished
  -- One of the ten timers is taken, so the next end gets its own.
  have taken : timers = TimerPool.empty.set 0 (some ⟨configuration.addressRetryCycles, .stopped⟩) := by
    obtain ⟨d, -, made⟩ := opened
    exact (Prod.mk.inj (Except.ok.inj made)).2.symm
  subst taken
  refine build_then ?_ disjoint furnished ?_
  · exact .of_made (fun _ => ⟨_, rfl⟩) rfl rfl
  rintro ⟨inbound, timers⟩ _ inboundFits - furnished
  apply build_then (suits_status .communication) disjoint furnished
  intro status _ statusFits _ furnished
  refine build_then ?_ disjoint furnished ?_
  · exact .of_made (fun _ => ⟨_, rfl⟩) rfl rfl
  intro objects _ objectsFit _ furnished
  refine build_then ?_ disjoint furnished ?_
  · exact .of_image (fun _ => rfl) rfl rfl
  intro receivePdo _ receiveFits _ furnished
  refine build_then ?_ disjoint furnished ?_
  · exact .of_image (fun _ => rfl) rfl rfl
  intro transmitPdo _ transmitFits _ furnished
  refine build_then ?_ disjoint furnished ?_
  · exact .of_made (fun _ => ⟨_, rfl⟩) rfl rfl
  intro asyncTransmit _ asyncTransmitFits _ furnished
  refine build_then ?_ disjoint furnished ?_
  · exact .of_made (fun _ => ⟨_, rfl⟩) rfl rfl
  intro asyncReceive _ asyncReceiveFits _ furnished
  refine build_then ?_ disjoint furnished ?_
  · exact .of_made (fun _ => ⟨_, rfl⟩) rfl rfl
  intro logbook _ logbookFits _ furnished
  constructor
  · intro id
    cases id <;> assumption
  · exact ⟨furnished.spanned, fun id _ => furnished.labelled id (by cases id <;> decide)⟩

theorem Application.init_judged :
    (init configuration).Meets False () world
      (fun _ _ _ => ∀ id, Accepts configuration .application id)
      fun _ _ _ => Furnished configuration BufferId.all world.memory →
        ¬ ∀ id, Accepts configuration .application id := by
  apply build_then (suits_status .application) rfl
  intro status _ statusFits same
  refine build_then ?_ same ?_
  · exact .of_least (fun _ => rfl) (fun _ => ⟨_, rfl⟩) rfl rfl
  intro objects _ objectsFit same
  refine build_then ?_ same ?_
  · exact .of_image (fun _ => rfl) rfl rfl
  intro receivePdo _ receiveFits same
  refine build_then ?_ same ?_
  · exact .of_image (fun _ => rfl) rfl rfl
  intro transmitPdo _ transmitFits same
  refine build_then ?_ same ?_
  · exact .of_made (fun _ => ⟨_, rfl⟩) rfl rfl
  intro outbound _ outboundFits same
  refine build_then ?_ same ?_
  · exact .of_made (fun _ => ⟨_, rfl⟩) rfl rfl
  intro inbound _ inboundFits same
  refine build_then ?_ same ?_
  · exact .of_made (fun _ => ⟨_, rfl⟩) rfl rfl
  intro asyncTransmit _ asyncTransmitFits same
  refine build_then ?_ same ?_
  · exact .of_made (fun _ => ⟨_, rfl⟩) rfl rfl
  intro asyncReceive _ asyncReceiveFits same
  refine build_then ?_ same ?_
  · exact .of_least (fun _ => rfl) (fun _ => ⟨_, rfl⟩) rfl rfl
  intro logbook _ logbookFits _ id
  cases id <;> assumption

/-- The sending ends of two channels are all that the application asks for besides. -/
theorem accepts_application_iff : (∀ id, Accepts configuration .application id) ↔
    (∀ id, Accepts configuration .communication id) ∧
      (∀ d, configuration.required .configuration = .ok d →
        Channel.headerSize + ConfigurationChannel.objectSize ≤ d.size) ∧
      ∀ d, configuration.required .logbook = .ok d → Channel.headerSize + Logbook.entrySize ≤ d.size := by
  constructor
  · intro accepts
    refine ⟨fun id => ?_, fun d found => ?_, fun d found => ?_⟩
    · have weaker : smallest .communication id ≤ smallest .application id := by cases id <;> decide
      obtain ⟨d, found, aligned, least, most⟩ := accepts id
      exact ⟨d, found, aligned, Nat.le_trans weaker least, most⟩
    · obtain ⟨e, too, -, least, -⟩ := accepts .configuration
      cases found.symm.trans too
      exact least
    · obtain ⟨e, too, -, least, -⟩ := accepts .logbook
      cases found.symm.trans too
      exact least
  · rintro ⟨accepts, writes, records⟩ id
    obtain ⟨d, found, aligned, least, most⟩ := accepts id
    refine ⟨d, found, aligned, ?_, most⟩
    cases id with
    | configuration => exact writes d found
    | logbook => exact records d found
    | _ => exact least

/-- An action that succeeds exactly where something holds. -/
theorem run_ok_iff {σ : Type} {state : σ} {action : Action Host σ α} {holds : Prop}
    (surroundings : Surroundings)
    (judged : action.Meets surroundings.Faulty state world (fun _ _ _ => holds) fun _ _ _ => ¬ holds) :
    (∃ value, (action.run surroundings.onHost state world).1.1 = .ok value) ↔ holds := by
  have ended := judged.run surroundings
  generalize action.run surroundings.onHost state world = ran at ended ⊢
  obtain ⟨⟨fault | value, left⟩, after⟩ := ran
  · exact iff_of_false nofun ended
  · exact iff_of_true ⟨value, rfl⟩ ended

/-- Where the regions are disjoint and in the memory and no access fails, the communication processor
starts exactly on the tables that it accepts. The application then starts on these, but not where the
slots of the configuration channel or of the logbook are too small for what it sends. -/
theorem attached_iff_made_with_room (surroundings : Surroundings)
    (disjoint : configuration.buffers.Pairwise Descriptor.Apart)
    (inside : ∀ d ∈ configuration.buffers, world.memory.base ≤ d.base ∧
      d.base + d.regionSize ≤ world.memory.base + 4 * world.memory.words.size) :
    let made := (Communication.init configuration).run surroundings.calm.onHost () world
    let attached := (Application.init configuration).run surroundings.calm.onHost () made.2
    ((∃ side, made.1.1 = .ok side) ↔ ∀ id, Accepts configuration .communication id) ∧
      ((∃ side, attached.1.1 = .ok side) ↔ (∃ side, made.1.1 = .ok side) ∧
        (∀ d, configuration.required .configuration = .ok d →
          Channel.headerSize + ConfigurationChannel.objectSize ≤ d.size) ∧
        ∀ d, configuration.required .logbook = .ok d →
          Channel.headerSize + Logbook.entrySize ≤ d.size) := by
  intro made attached
  have furnished : Furnished configuration [] world.memory :=
    ⟨fun d listed => Descriptor.spanned_of_within (inside d listed).1 (inside d listed).2, nofun⟩
  have calm := surroundings.not_faulty_calm
  have judged := (Communication.init_judged disjoint furnished).of_faultless calm
  have makes : (∃ side, made.1.1 = .ok side) ↔ ∀ id, Accepts configuration .communication id :=
    run_ok_iff _ (judged.mono (fun _ _ _ both => both.1) fun _ _ _ refused => refused)
  refine ⟨makes, ?_⟩
  rw [makes, ← accepts_application_iff]
  have prepares (all : ∀ id, Accepts configuration .communication id) :
      Furnished configuration BufferId.all made.2.memory := by
    have ended := judged.run surroundings.calm
    change Action.Ended _ _ made.1 made.2 at ended
    generalize made = ran at ended ⊢
    obtain ⟨⟨fault | value, left⟩, after⟩ := ran
    · exact absurd all ended
    · exact ended.2
  have attaching : (Application.init configuration).Meets surroundings.calm.Faulty () made.2 _ _ :=
    Application.init_judged.of_faultless calm
  apply run_ok_iff
  apply attaching.mono (fun _ _ _ accepts => accepts)
  intro _ _ _ refused accepts
  exact refused (prepares (accepts_application_iff.mp accepts).1) accepts

/-- Slots of seventeen bytes take no write to the dictionary. -/
theorem attached_iff_made_with_room_cramped :
    let configuration : Configuration := { buffers := [⟨.status, 64, 16⟩, ⟨.configuration, 164, 17⟩,
      ⟨.receivePdo, 276, 8⟩, ⟨.transmitPdo, 352, 8⟩, ⟨.ssdoTransmit, 428, 8⟩, ⟨.ssdoReceive, 504, 8⟩,
      ⟨.asyncTransmit, 580, 8⟩, ⟨.asyncReceive, 656, 8⟩, ⟨.logbook, 732, 14⟩] }
    let surroundings : Surroundings := ⟨fun _ => true, fun _ => Surroundings.plainAnswer⟩
    let world : World := ⟨.zeroed 64 192, 0, []⟩
    let made := (Communication.init configuration).run surroundings.calm.onHost () world
    let attached := (Application.init configuration).run surroundings.calm.onHost () made.2
    (∃ side, made.1.1 = .ok side) ∧ ¬ ∃ side, attached.1.1 = .ok side := by
  intro configuration surroundings world made attached
  have disjoint : configuration.buffers.Pairwise Descriptor.Apart := by
    have laid : configuration.buffers.Pairwise fun d other => d.base + d.regionSize ≤ other.base := by
      decide
    exact laid.imp Descriptor.Apart.of_le
  have inside : ∀ d ∈ configuration.buffers, world.memory.base ≤ d.base ∧
      d.base + d.regionSize ≤ world.memory.base + 4 * world.memory.words.size := by
    have size : world.memory.words.size = 192 := Array.size_replicate
    rw [size]
    decide
  obtain ⟨makes, attaches⟩ := attached_iff_made_with_room surroundings disjoint inside
  constructor
  · rw [makes]
    intro id
    cases id <;> exact ⟨_, rfl, by decide, by decide, by decide⟩
  · rw [attaches]
    rintro ⟨-, writes, -⟩
    exact absurd (writes _ rfl) (by decide)

end Start

end NodeLink.Side

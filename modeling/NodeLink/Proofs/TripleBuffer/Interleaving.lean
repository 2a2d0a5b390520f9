import NodeLink.Proofs.TripleBuffer.Connection
import NodeLink.Proofs.TripleBuffer.SharedCalls

/-! Both ends of a buffer at work at the same time. Each turn is one access of one end, and turns come in
any order. Every read returns one whole write that was the latest one at some time during the read, and
the writes come in the order in which they were published. -/
namespace NodeLink.TripleBuffer

/-- A call under way: how many writes were published when it began, and what is left of it. -/
structure Running where
  call : Call
  since : Nat
  rest : Prog Words (Except Fault Reply × TripleBuffer)

/-- A call that returned, with the numbers of writes published when it began and when it ended. -/
structure Return where
  call : Call
  since : Nat
  upto : Nat
  reply : Except Fault Reply

structure Station where
  buffer : TripleBuffer
  running : Option Running

structure Interleaving where
  memory : SharedMemory
  /-- The payloads in the order in which they were published. -/
  published : List Bytes
  station : Role → Station
  returned : List Return

/-- One end makes its next access. It begins the call if none is under way. -/
structure Turn where
  role : Role
  call : Call
  deriving DecidableEq, Repr

/-- A read that found a write. -/
structure Find where
  since : Nat
  upto : Nat
  snapshot : Snapshot
  bytes : Bytes
  deriving DecidableEq, Repr

namespace Return

/-- The stamps around the copied slot did not match. -/
def Torn (call : Return) : Prop :=
  ∃ room moved, call.reply = .ok (.read room (.ok ⟨moved, .error .busy⟩))

def Busy (call : Return) : Prop := ∃ room, call.reply = .ok (.read room (.error .busy))

def found? (call : Return) : Option Find :=
  match call.reply with
  | .ok (.read _ (.ok ⟨moved, .ok snapshot⟩)) =>
    if snapshot.seq = 0 then none else some ⟨call.since, call.upto, snapshot, moved⟩
  | _ => none

/-- The call copied no slot that changed, and was busy only when writes overtook its claims. -/
structure Steady (call : Return) : Prop where
  whole : ¬ call.Torn
  overtaken : call.Busy → call.since + claimAttempts ≤ call.upto

end Return

/-- The read returned the write of this number, which was the latest one during the read. -/
structure Find.Returns (published : List Bytes) (find : Find) (count : Nat) : Prop where
  during : find.since ≤ count ∧ count ≤ find.upto
  written : (published.take count).getLast? = some find.bytes
  seq : find.snapshot.seq = .ofCount count
  size : find.snapshot.size = find.bytes.length

namespace Interleaving

def start (memory : SharedMemory) (producing consuming : TripleBuffer) : Interleaving where
  memory := memory
  published := []
  station
    | .producer => ⟨producing, none⟩
    | .consumer => ⟨consuming, none⟩
  returned := []

/-- The call in which an end's next access is made. -/
def upcoming (state : Interleaving) (turn : Turn) : Running :=
  (state.station turn.role).running.getD ⟨turn.call, state.published.length,
    (turn.call.perform (state.station turn.role).buffer).inWords⟩

def place (state : Interleaving) (role : Role) (station : Station) : Interleaving :=
  { state with station := fun other => if other = role then station else state.station other }

/-- Go on with a call up to its next access, or return. -/
def resume (state : Interleaving) (role : Role) (running : Running) : Interleaving :=
  match running.rest with
  | .ask _ _ => state.place role { state.station role with running := some running }
  | .done (reply, buffer) =>
    { state.place role ⟨buffer, none⟩ with
      returned := state.returned ++
        [⟨running.call, running.since, state.published.length, reply⟩] }

def publishes (d : Descriptor) (call : Call) (request : Words.Request) : Role → List Bytes
  | .producer => d.publishes call request
  | .consumer => []

def step (d : Descriptor) (state : Interleaving) (turn : Turn) : Interleaving :=
  let running := state.upcoming turn
  match running.rest with
  | .done _ => state.resume turn.role running
  | .ask request next =>
    resume { state with
      memory := (SharedMemory.onWords request state.memory).2
      published := state.published ++ publishes d running.call request turn.role
    } turn.role { running with rest := next (SharedMemory.onWords request state.memory).1 }

def after (d : Descriptor) (state : Interleaving) (turns : List Turn) : Interleaving :=
  turns.foldl (step d) state

/-- The access that an end makes next in the call under way. -/
def pending (state : Interleaving) (role : Role) : Option Words.Request :=
  match (state.station role).running with
  | some ⟨_, _, .ask request _⟩ => some request
  | _ => none

/-- The producer is about to store into a slot or to publish it. -/
def Fills (d : Descriptor) (state : Interleaving) (slot : UInt8) : Prop :=
  ∃ request, state.pending .producer = some request ∧ d.Fills slot request

/-- The consumer is about to load from a slot. -/
def Copies (d : Descriptor) (state : Interleaving) (slot : UInt8) : Prop :=
  ∃ request, state.pending .consumer = some request ∧ d.Copies slot request

/-- The reads that found a write, in the order in which they returned. -/
def finds (state : Interleaving) : List Find := state.returned.filterMap Return.found?

/-- What holds whenever the two ends keep to their calls. -/
structure Coherent (d : Descriptor) (state : Interleaving) : Prop where
  apart : ∀ slot, state.Fills d slot → ¬ state.Copies d slot
  whole : ∀ call ∈ state.returned, ¬ call.Torn
  overtaken : ∀ call ∈ state.returned, call.Busy → call.since + 3 ≤ call.upto
  /-- Reads return writes in order, and a fresh one returns none that was returned before. -/
  ordered : ∃ reads : List (Find × Nat), reads.map Prod.fst = state.finds ∧
    (∀ read ∈ reads, read.1.Returns state.published read.2) ∧
    reads.Pairwise fun first second =>
      first.2 ≤ second.2 ∧ (second.1.snapshot.fresh = true → first.2 < second.2)

end Interleaving

/-- What an end relies on: the effects of the other one. -/
def Others (d : Descriptor) : Role → Shared d → Shared d → Prop
  | .producer => Shared.ByConsumer
  | .consumer => Shared.ByProducer

def Accesses (d : Descriptor) : Role → Call → Semantics Words (Shared d)
  | .producer, call => Shared.ProducerAccess d call
  | .consumer, _ => Shared.ConsumerAccess d

variable {d : Descriptor} {role other : Role} {world after : Shared d} {taken count : Nat}

theorem others_interference (d : Descriptor) : (role : Role) → Interference (Others d role)
  | .producer => Shared.byConsumer_interference
  | .consumer => Shared.byProducer_interference

/-- How a call ends, where `taken` is the number of the write that was read before. -/
def Ends (d : Descriptor) (since taken : Nat) :
    Role → Except Fault Reply × TripleBuffer → Shared d → Prop
  | .producer, (result, left), _ => ∃ reply, result = .ok reply ∧ left.Produces d ∧ reply.Apart
  | .consumer, (result, left), world => ∃ reply, result = .ok reply ∧
    reply.Reads d world.published since (.ofCount taken) left

def Idle (d : Descriptor) (taken : Nat) : Role → TripleBuffer → Prop
  | .producer, buffer => buffer.Produces d
  | .consumer, buffer => buffer.Consumes d (.ofCount taken)

/-- A call under way began after the last read, and keeps its guarantees. -/
structure Running.Sound (role : Role) (world : Shared d) (taken : Nat) (running : Running) : Prop where
  after : role = .consumer → taken ≤ running.since
  before : running.since ≤ world.published.length
  rest : running.rest.Guarantees (Others d role) (Accesses d role running.call) world
    (Ends d running.since taken role)

structure Station.Sound (role : Role) (world : Shared d) (taken : Nat) (station : Station) : Prop where
  idle : station.running = none → Idle d taken role station.buffer
  busy : ∀ running, station.running = some running → running.Sound role world taken

/-- The reads so far returned writes up to the last one taken, in order. -/
structure History (published : List Bytes) (returned : List Return) (taken : Nat) : Prop where
  steady : ∀ call ∈ returned, call.Steady
  found : ∃ reads : List (Find × Nat), reads.map Prod.fst = returned.filterMap Return.found? ∧
    (∀ read ∈ reads, read.1.Returns published read.2 ∧ read.2 ≤ taken) ∧
    reads.Pairwise fun first second =>
      first.2 ≤ second.2 ∧ (second.1.snapshot.fresh = true → first.2 < second.2)

/-- All that is known in a state of the interleaving. -/
structure Interleaving.Sound (state : Interleaving) (world : Shared d) (taken : Nat) : Prop where
  memory : state.memory = world.memory
  published : state.published = world.published
  upto : taken ≤ world.published.length
  stations : ∀ role, (state.station role).Sound role world taken
  history : History world.published state.returned taken

theorem Accesses.made {call : Call} {request : Words.Request} {answer : Words.Answer request}
    (accessed : Accesses d role call request world answer after) :
    (answer, after.memory) = SharedMemory.onWords request world.memory ∧
      after.published = world.published ++ Interleaving.publishes d call request role := by
  cases role with
  | producer => exact ⟨accessed.made, accessed.published⟩
  | consumer => exact ⟨accessed.made, accessed.relied.published.trans (List.append_nil _).symm⟩

theorem Accesses.relied {call : Call} {request : Words.Request} {answer : Words.Answer request}
    (accessed : Accesses d role call request world answer after) (apart : other ≠ role) :
    Others d other world after := by
  cases role with
  | producer => cases other with
    | producer => contradiction
    | consumer => exact accessed.relied
  | consumer => cases other with
    | producer => exact accessed.relied
    | consumer => contradiction

theorem Others.published (changed : Others d role world after) :
    world.published <+: after.published := by
  cases role with
  | producer => exact changed.published ▸ List.prefix_refl _
  | consumer => exact changed.published

theorem Station.Sound.later {station : Station} (sound : station.Sound role world taken)
    (changed : Others d role world after) : station.Sound role after taken where
  idle := sound.idle
  busy running found :=
    have kept := sound.busy running found
    ⟨kept.after, Nat.le_trans kept.before (Others.published changed).length_le,
      kept.rest.later (others_interference d role) changed⟩

/-- The producing end does not depend on what was read. -/
theorem Station.Sound.producing {station : Station} (sound : station.Sound .producer world taken) :
    station.Sound .producer world count where
  idle := sound.idle
  busy running found :=
    have kept := sound.busy running found
    ⟨nofun, kept.before, kept.rest⟩

/-- A call begins with the guarantees of its operation. -/
theorem upcoming_sound {state : Interleaving} (turn : Turn) (sound : state.Sound world taken) :
    (state.upcoming turn).Sound turn.role world taken := by
  obtain ⟨role, call⟩ := turn
  have station := sound.stations role
  unfold Interleaving.upcoming
  cases running : (state.station role).running with
  | some running' => exact station.busy running' running
  | none =>
    have idle := station.idle running
    simp only [Option.getD_none, sound.published]
    refine ⟨fun _ => sound.upto, Nat.le_refl _, ?_⟩
    cases role with
    | producer =>
      apply Prog.Guarantees.mono (perform_producing idle)
      rintro ⟨fault | reply, left⟩ after ended
      · exact ended.elim
      · exact ⟨reply, rfl, ended⟩
    | consumer =>
      apply Prog.Guarantees.mono (perform_consuming idle (Nat.le_refl _))
      rintro ⟨fault | reply, left⟩ after ended
      · exact ended.elim
      · exact ⟨reply, rfl, ended⟩

section Returning

variable {call : Call} {since upto : Nat} {published : List Bytes} {returned : List Return}

theorem Reply.Apart.plain {reply : Reply} (apart : reply.Apart) :
    (Return.mk call since upto (.ok reply)).Steady ∧
      (Return.mk call since upto (.ok reply)).found? = none := by
  cases reply with
  | read room attempt =>
    subst apart
    refine ⟨⟨?_, ?_⟩, rfl⟩
    · rintro ⟨_, _, ⟨⟩⟩
    · rintro ⟨_, ⟨⟩⟩
  | _ =>
    refine ⟨⟨?_, ?_⟩, rfl⟩
    · rintro ⟨_, _, ⟨⟩⟩
    · rintro ⟨_, ⟨⟩⟩

theorem History.start : History published [] taken where
  steady := List.forall_mem_nil _
  found := ⟨[], rfl, List.forall_mem_nil _, .nil⟩

theorem History.plain {last : Return} (history : History published returned taken)
    (steady : last.Steady) (none : last.found? = none) :
    History published (returned ++ [last]) taken where
  steady := List.forall_mem_append.mpr ⟨history.steady, List.forall_mem_singleton.mpr steady⟩
  found := by
    obtain ⟨reads, same, holds⟩ := history.found
    refine ⟨reads, ?_, holds⟩
    rw [same, List.filterMap_append, List.filterMap_cons_none none, List.filterMap_nil,
      List.append_nil]

theorem History.read {last : Return} {find : Find} (history : History published returned taken)
    (steady : last.Steady) (found : last.found? = some find) (returns : find.Returns published count)
    (onward : taken ≤ count)
    (fresh : find.snapshot.fresh = (Sequence.ofCount count).isFresh (.ofCount taken)) :
    History published (returned ++ [last]) count where
  steady := List.forall_mem_append.mpr ⟨history.steady, List.forall_mem_singleton.mpr steady⟩
  found := by
    obtain ⟨reads, same, holds, ordered⟩ := history.found
    refine ⟨reads ++ [(find, count)], ?_, ?_, ?_⟩
    · rw [List.map_append, same, List.filterMap_append, List.filterMap_cons_some found,
        List.filterMap_nil]
      rfl
    · intro read member
      rcases List.mem_append.mp member with earlier | new
      · exact ⟨(holds read earlier).1, Nat.le_trans (holds read earlier).2 onward⟩
      · rw [List.mem_singleton.mp new]
        exact ⟨returns, Nat.le_refl _⟩
    · refine List.pairwise_append.mpr ⟨ordered, List.pairwise_singleton _ _, ?_⟩
      intro earlier member new here
      rw [List.mem_singleton.mp here]
      have before := (holds earlier member).2
      refine ⟨Nat.le_trans before onward, fun marked => ?_⟩
      -- A read of the write taken before is not fresh, so this one took a later write.
      have moved : count ≠ taken := by
        rintro rfl
        rw [fresh] at marked
        simp [Sequence.isFresh] at marked
      exact Nat.lt_of_le_of_lt before (by omega)

theorem History.later {more : List Bytes} (history : History published returned taken)
    (upto : taken ≤ published.length) (grown : published <+: more) :
    History more returned taken where
  steady := history.steady
  found := by
    obtain ⟨reads, same, holds, ordered⟩ := history.found
    refine ⟨reads, same, fun read member => ?_, ordered⟩
    obtain ⟨returns, before⟩ := holds read member
    refine ⟨⟨returns.during, ?_, returns.seq, returns.size⟩, before⟩
    obtain ⟨rest, rfl⟩ := grown
    rw [List.take_append_of_le_length (Nat.le_trans before upto)]
    exact returns.written

theorem seenAfter_of_ne_zero {seq lastSeen : Sequence} (written : seq ≠ 0) :
    seenAfter seq lastSeen = seq := by
  by_cases same : seq = lastSeen
  · unfold seenAfter
    split
    · rfl
    · exact same.symm
  · exact if_pos (by simp only [Sequence.isFresh, bne_iff_ne, Bool.and_eq_true]; exact ⟨written, same⟩)

/-- A consuming end's call returns: it read no write, or one that is not older than the last one. -/
theorem History.reads {reply : Reply} {left : TripleBuffer}
    (history : History world.published returned taken) (call : Call) (after : taken ≤ since)
    (before : taken ≤ world.published.length)
    (replied : reply.Reads d world.published since (.ofCount taken) left) :
    ∃ count, count ≤ world.published.length ∧ left.Consumes d (.ofCount count) ∧
      History world.published
        (returned ++ [⟨call, since, world.published.length, .ok reply⟩]) count := by
  have quiet (apart : reply.Apart) (consuming : left.Consumes d (.ofCount taken)) :
      ∃ count, count ≤ world.published.length ∧ left.Consumes d (.ofCount count) ∧
        History world.published
          (returned ++ [⟨call, since, world.published.length, .ok reply⟩]) count :=
    ⟨taken, before, consuming, history.plain apart.plain.1 apart.plain.2⟩
  cases reply with
  | read room attempt =>
    rcases attempt with fault | ⟨moved, result⟩
    · obtain ⟨consuming, failed⟩ := replied
      refine ⟨taken, before, consuming, history.plain ⟨?_, ?_⟩ rfl⟩
      · rintro ⟨_, _, ⟨⟩⟩
      · rintro ⟨_, ⟨⟩⟩
        rcases failed with ⟨_, many⟩ | ⟨⟨⟩⟩
        exact many
    · obtain ⟨earlier, grown, during, ⟨snapshot, rfl, latest, consuming⟩ | ⟨⟨⟩, _⟩⟩ := replied
      have steady : (Return.mk call since world.published.length
          (.ok (.read room (.ok ⟨moved, .ok snapshot⟩)))).Steady := by
        constructor
        · rintro ⟨_, _, ⟨⟩⟩
        · rintro ⟨_, ⟨⟩⟩
      change Latest earlier _ snapshot moved at latest
      rcases latest with ⟨rfl, rfl, rfl⟩ | ⟨payload, last, rfl, rfl⟩
      · exact ⟨taken, before, consuming, history.plain steady rfl⟩
      · have written : Sequence.ofCount earlier.length ≠ 0 := by
          rw [Ne, Sequence.ofCount_eq_zero_iff, List.length_eq_zero_iff]
          rintro rfl
          contradiction
        rw [seenAfter_of_ne_zero written] at consuming
        refine ⟨earlier.length, grown.length_le, consuming, history.read steady (if_neg written)
          ⟨⟨during, grown.length_le⟩, ?_, rfl, rfl⟩ (Nat.le_trans after during) rfl⟩
        rw [← List.prefix_iff_eq_take.mp grown]
        exact last
  | _ => exact quiet trivial replied

end Returning

/-- Going on with a call that keeps its guarantees, up to its return. -/
theorem resume_sound {state : Interleaving} {running : Running} (memory : state.memory = world.memory)
    (published : state.published = world.published) (upto : taken ≤ world.published.length)
    (others : ∀ other, other ≠ role → (state.station other).Sound other world taken)
    (history : History world.published state.returned taken)
    (sound : running.Sound role world taken) :
    ∃ taken, (state.resume role running).Sound world taken := by
  obtain ⟨call, since, rest⟩ := running
  have placed {station : Station} {taken : Nat} (here : station.Sound role world taken)
      (others : ∀ other, other ≠ role → (state.station other).Sound other world taken)
      (other : Role) : ((state.place role station).station other).Sound other world taken := by
    unfold Interleaving.place
    by_cases same : other = role
    · subst same
      simpa only [if_true] using here
    · simpa only [if_neg same] using others other same
  cases rest with
  | ask request next =>
    refine ⟨taken, memory, published, upto, placed ⟨nofun, ?_⟩ others, history⟩
    rintro _ ⟨rfl⟩
    exact sound
  | done outcome =>
    obtain ⟨result, left⟩ := outcome
    have ended := sound.rest world ((others_interference d role).refl world)
    cases role with
    | producer =>
      obtain ⟨reply, rfl, producing, apart⟩ := ended
      refine ⟨taken, memory, published, upto, placed ⟨fun _ => producing, nofun⟩ others, ?_⟩
      exact history.plain apart.plain.1 apart.plain.2
    | consumer =>
      obtain ⟨reply, rfl, replied⟩ := ended
      obtain ⟨count, upto, consuming, history⟩ :=
        history.reads call (sound.after rfl) upto replied
      refine ⟨count, memory, published, upto, placed ⟨fun _ => consuming, nofun⟩ ?_, ?_⟩
      · intro other apart
        cases other with
        | producer => exact (others .producer apart).producing
        | consumer => contradiction
      · rwa [← published] at history ⊢

theorem step_sound {state : Interleaving} (turn : Turn) (sound : state.Sound world taken) :
    ∃ (after : Shared d) (taken : Nat), (state.step d turn).Sound after taken := by
  have running := upcoming_sound turn sound
  unfold Interleaving.step
  generalize state.upcoming turn = begun at running ⊢
  obtain ⟨call, since, rest⟩ := begun
  cases rest with
  | done outcome =>
    exact ⟨world, resume_sound sound.memory sound.published sound.upto
      (fun other _ => sound.stations other) sound.history running⟩
  | ask request next =>
    obtain ⟨answer, after, accessed, rest⟩ :=
      running.rest world ((others_interference d turn.role).refl world)
    obtain ⟨made, published⟩ := accessed.made
    have grown : world.published <+: after.published := ⟨_, published.symm⟩
    have answered : answer = (SharedMemory.onWords request state.memory).1 := by
      rw [sound.memory]
      exact congrArg Prod.fst made
    have left : (SharedMemory.onWords request state.memory).2 = after.memory := by
      rw [sound.memory]
      exact (congrArg Prod.snd made).symm
    refine ⟨after, resume_sound left ?_ (Nat.le_trans sound.upto grown.length_le) ?_ ?_ ?_⟩
    · rw [sound.published]
      exact published.symm
    · intro other apart
      exact (sound.stations other).later (accessed.relied apart)
    · exact sound.history.later sound.upto grown
    · exact ⟨running.after, Nat.le_trans running.before grown.length_le, answered ▸ rest⟩

theorem after_sound {state : Interleaving} (turns : List Turn) (sound : state.Sound world taken) :
    ∃ (final : Shared d) (taken : Nat), (state.after d turns).Sound final taken := by
  induction turns generalizing state world taken with
  | nil => exact ⟨world, taken, sound⟩
  | cons turn rest ih =>
    obtain ⟨after, taken, sound⟩ := step_sound turn sound
    exact ih sound

theorem pending_access {state : Interleaving} {request : Words.Request}
    (sound : state.Sound world taken) (pending : state.pending role = some request) :
    ∃ call answer after, Accesses d role call request world answer after := by
  unfold Interleaving.pending at pending
  split at pending
  · rename_i call since access next running
    cases pending
    obtain ⟨answer, after, accessed, _⟩ :=
      ((sound.stations role).busy _ running).rest world ((others_interference d role).refl world)
    exact ⟨call, answer, after, accessed⟩
  · contradiction

theorem Interleaving.Sound.coherent {state : Interleaving} (sound : state.Sound world taken) :
    state.Coherent d where
  apart slot := by
    rintro ⟨filling, pending, fills⟩ ⟨copying, pending', copies⟩
    obtain ⟨_, _, _, stored⟩ := pending_access sound pending
    obtain ⟨_, _, _, loaded⟩ := pending_access sound pending'
    exact stored.apart slot fills (loaded.claimed slot copies)
  whole call member := (sound.history.steady call member).whole
  overtaken call member := (sound.history.steady call member).overtaken
  ordered := by
    obtain ⟨reads, same, holds, ordered⟩ := sound.history.found
    rw [sound.published]
    exact ⟨reads, same, fun read member => (holds read member).1, ordered⟩

/-- The ends of a buffer may make their accesses in any order: the consumer never copies the slot that
the producer fills, and its reads return whole writes in the order of their publication. -/
theorem interleaved_calls_coherent {owner : Role} {before memory : SharedMemory}
    {producing consuming : TripleBuffer}
    (connected : (connect owner d).inWords.run SharedMemory.onWords before =
      (.ok (producing, consuming), memory)) (turns : List Turn) :
    ((Interleaving.start memory producing consuming).after d turns).Coherent d := by
  obtain ⟨produces, consumes, shows⟩ := connected_shows connected
  let world : Shared d := ⟨memory, [], 0, ⟨0, ControlWord.noSlot⟩, none, shows, by rintro _ ⟨⟩⟩
  have sound : (Interleaving.start memory producing consuming).Sound world 0 := by
    refine ⟨rfl, rfl, Nat.le_refl _, fun role => ?_, .start⟩
    cases role with
    | producer => exact ⟨fun _ => produces, nofun⟩
    | consumer => exact ⟨fun _ => consumes, nofun⟩
  obtain ⟨final, taken, sound⟩ := after_sound turns sound
  exact sound.coherent

/-- A read during which another write is published: it claims again and returns the later write. -/
theorem interleaved_calls_coherent_overtaken :
    let d : Descriptor := ⟨.status, 0, 4⟩
    let producing := new .producer d 0
    let consuming := new .consumer d 0
    let memory : SharedMemory := ⟨0, #[4, 0, 0xFF00, 0, 0, 0, 0, 0, 0, 0, 0, 0, 0, 0, 0, 0]⟩
    let turns := List.replicate 7 ⟨.producer, .write [1, 2]⟩ ++ List.replicate 3 ⟨.consumer, .read 4⟩ ++
      List.replicate 7 ⟨.producer, .write [3]⟩ ++ List.replicate 7 ⟨.consumer, .read 4⟩
    let final := (Interleaving.start memory producing consuming).after d turns
    (connect .producer d).inWords.run SharedMemory.onWords (.zeroed 0 16) =
        (.ok (producing, consuming), memory) ∧
      final.finds = [⟨1, 2, ⟨2, 1, true⟩, [3]⟩] ∧ final.Coherent d :=
  ⟨rfl, by decide +kernel, @interleaved_calls_coherent _ .producer (.zeroed 0 16) _ _ _ rfl _⟩

end NodeLink.TripleBuffer

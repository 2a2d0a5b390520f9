import NodeLink.Proofs.Agreement
import NodeLink.Proofs.TripleBuffer.Connection
import NodeLink.TripleBuffer.Call

/-! How a consumer that lags behind tells that there is something new. Numbers repeat after 255 writes:
a consumer that missed a whole multiple of 255 writes, and has read one before, takes the latest for the
one it knows. Any other lag shows, however long it is. -/
namespace NodeLink.TripleBuffer

/-- A call whose accesses fail as listed, counted from its first. -/
structure Trial where
  fails : Nat → Bool
  call : Call

/-- Both ends of a buffer and their memory. -/
structure Pair where
  memory : SharedMemory
  producing : TripleBuffer
  consuming : TripleBuffer

namespace Pair

variable {α : Type}

/-- The ends right after the buffer was made, on the processor that owns its memory. -/
def setUp (owner : Role) (d : Descriptor) (memory : SharedMemory) : Except Fault Pair :=
  match (connect owner d).inWords.run SharedMemory.onWords memory with
  | (.error fault, _) => .error fault
  | (.ok (producing, consuming), memory) => .ok ⟨memory, producing, consuming⟩

/-- The end of a role. -/
def buffer (pair : Pair) : Role → TripleBuffer
  | .producer => pair.producing
  | .consumer => pair.consuming

/-- What the end of a role leaves: itself, and the memory. -/
def leave (pair : Pair) (buffer : TripleBuffer) (memory : SharedMemory) : Role → Pair
  | .producer => { pair with producing := buffer, memory }
  | .consumer => { pair with consuming := buffer, memory }

@[simp] theorem leave_memory (pair : Pair) (buffer : TripleBuffer) (memory : SharedMemory)
    (role : Role) : (pair.leave buffer memory role).memory = memory := by
  cases role <;> rfl

/-- Work with the end of a role, and tell how that ended. -/
def perform (pair : Pair) (role : Role) (fails : Nat → Bool) (reply : Except Fault α → Reply)
    (operation : Operation α) : Reply × Pair :=
  let outcome := operation.runFailing fails (pair.buffer role) pair.memory
  (reply outcome.1.1, pair.leave outcome.1.2 outcome.2 role)

/-- Make a call on the end that it is for. -/
def make (pair : Pair) (trial : Trial) : Reply × Pair :=
  match trial.call with
  | .write payload => pair.perform .producer trial.fails .written (write payload)
  | .read room => pair.perform .consumer trial.fails (.read room) (tryRead room)
  | .hasFresh => pair.perform .consumer trial.fails .fresh hasFresh
  | .acknowledge seq => pair.perform .consumer trial.fails .acknowledge (acknowledge seq)
  | .acknowledged => pair.perform .producer trial.fails .acknowledged acknowledged

def after (pair : Pair) (trials : List Trial) : Pair :=
  trials.foldl (fun pair trial => (pair.make trial).2) pair

def replies (pair : Pair) : List Trial → List Reply
  | [] => []
  | trial :: rest => (pair.make trial).1 :: (pair.make trial).2.replies rest

theorem replies_append (pair : Pair) (first second : List Trial) :
    pair.replies (first ++ second) = pair.replies first ++ (pair.after first).replies second := by
  induction first generalizing pair with
  | nil => rfl
  | cons trial rest ih => simp only [List.cons_append, replies, ih, after, List.foldl_cons]

end Pair

/-- How many writes succeeded, and how many of them before the last read that did. -/
structure Progress where
  written : Nat
  seen : Nat
  deriving DecidableEq

namespace Progress

def next (progress : Progress) : Reply → Progress
  | .written (.ok _) => { progress with written := progress.written + 1 }
  | .read _ (.ok ⟨_, .ok _⟩) => { progress with seen := progress.written }
  | _ => progress

def ofReplies (replies : List Reply) : Progress := replies.foldl next ⟨0, 0⟩

/-- The writes since the last read. -/
def lag (progress : Progress) : Nat := progress.written - progress.seen

/-- The latest write has the number of the one that was read last, though others came between. -/
def Lapped (progress : Progress) : Prop := 0 < progress.seen ∧ 255 ∣ progress.lag

/-- Whether a consumer is told of new data as it should be, as far as numbers can tell. -/
def Tells (progress : Progress) (fresh : Bool) : Prop :=
  fresh = true ↔ 0 < progress.lag ∧ ¬ progress.Lapped

/-- How the question for new data ends: with an access that fails, or with an answer. -/
def Asked (progress : Progress) (fails : Nat → Bool) : Except Fault Bool → Prop
  | .ok answer => progress.Tells answer
  | .error _ => Action.Fails fails

/-- How a read ends. It fails also for lack of room. -/
def Read (d : Descriptor) (progress : Progress) (fails : Nat → Bool) (room : Nat) :
    Except Fault ReadAttempt → Prop
  | .ok ⟨_, .ok snapshot⟩ => progress.Tells snapshot.fresh
  | _ => Action.Fails fails ∨ room < d.size

end Progress

variable {d : Descriptor} {pair : Pair} {progress : Progress} {memory : SharedMemory}
  {fails : Nat → Bool}

/-- The consumer has seen the number of the write that it read last. -/
structure Lags (d : Descriptor) (pair : Pair) (progress : Progress) : Prop where
  producing : pair.producing.Produces d
  consuming : pair.consuming.Consumes d (.ofCount progress.seen)
  order : progress.seen ≤ progress.written
  carries : ∃ published acked, published.length = progress.written ∧
    d.Carries pair.memory published acked

theorem seenAfter_ofCount {written seen : Nat} (order : seen ≤ written) :
    seenAfter (.ofCount written) (.ofCount seen) = Sequence.ofCount written := by
  unfold seenAfter
  split
  · rfl
  · rename_i stale
    rw [Sequence.isFresh_ofCount_iff order] at stale
    cases Nat.lt_or_eq_of_le order with
    | inl missed => exact ((Sequence.ofCount_eq_iff_of_lt missed).mpr (by omega)).symm
    | inr none => rw [none]

namespace Lags

/-- What the invariant says of the pair after a reply, with the progress that the reply tells. -/
abbrev Follows (d : Descriptor) (progress : Progress) (outcome : Reply × Pair) : Prop :=
  Lags d outcome.2 (progress.next outcome.1)

variable (lags : Lags d pair progress)

include lags

theorem write (fails : Nat → Bool) (payload : Bytes) :
    Follows d progress (pair.perform .producer fails .written (TripleBuffer.write payload)) := by
  obtain ⟨published, acked, length, carries⟩ := lags.carries
  have writes : (TripleBuffer.write payload).Ensures (Action.Fails fails) anyAccess pair.producing
      pair.memory _ _ := write_ensures lags.producing carries
  have ended := writes.runFailing
  simp only [Pair.perform, Pair.buffer, Pair.leave]
  generalize (TripleBuffer.write payload).runFailing fails pair.producing pair.memory =
    outcome at ended
  obtain ⟨⟨result, left⟩, after⟩ := outcome
  cases result with
  | error fault =>
    obtain ⟨rfl, carries, _⟩ := ended
    exact { lags with carries := ⟨published, acked, length, carries⟩ }
  | ok seq =>
    obtain ⟨rfl, _, carries⟩ := ended
    constructor
    case producing => exact lags.producing
    case consuming => exact lags.consuming
    case order => exact Nat.le_succ_of_le lags.order
    case carries =>
      refine ⟨_, acked, ?_, carries⟩
      rw [List.length_append, length]
      rfl

/-- A write that fits succeeds where no access fails. -/
theorem written {payload : Bytes} (fits : payload.length ≤ d.size) (faultless : ¬ Action.Fails fails) :
    progress.next (pair.perform .producer fails .written (TripleBuffer.write payload)).1 =
      ⟨progress.written + 1, progress.seen⟩ := by
  obtain ⟨published, acked, length, carries⟩ := lags.carries
  have writes : (TripleBuffer.write payload).Ensures (Action.Fails fails) anyAccess pair.producing
      pair.memory _ _ := write_ensures lags.producing carries
  have ended := writes.runFailing
  simp only [Pair.perform, Pair.buffer, Pair.leave]
  generalize (TripleBuffer.write payload).runFailing fails pair.producing pair.memory =
    outcome at ended
  obtain ⟨⟨result, left⟩, after⟩ := outcome
  cases result with
  | error fault =>
    obtain ⟨_, _, lost | large⟩ := ended
    · exact absurd lost.1 faultless
    · exact absurd large.1 (Nat.not_lt.mpr fits)
  | ok seq => rfl

theorem written_each {payload : Bytes} (fits : payload.length ≤ d.size)
    (faultless : ¬ Action.Fails fails) (count : Nat) :
    (pair.replies (List.replicate count ⟨fails, .write payload⟩)).foldl Progress.next progress =
      ⟨progress.written + count, progress.seen⟩ := by
  induction count generalizing pair progress with
  | zero => rfl
  | succ count ih =>
    have rest := ih (lags.write fails payload)
    rw [lags.written fits faultless] at rest
    have total : progress.written + 1 + count = progress.written + (count + 1) := by omega
    rw [total] at rest
    change List.foldl _
      (progress.next (pair.perform .producer fails .written (TripleBuffer.write payload)).1) _ = _
    rw [lags.written fits faultless]
    exact rest

/-- The latest number is another one than the consumer has seen. -/
theorem fresh_iff {published : List Bytes} (length : published.length = progress.written) :
    (Sequence.ofCount published.length).isFresh (.ofCount progress.seen) = true ↔
      0 < progress.lag ∧ ¬ progress.Lapped := by
  rw [length, Sequence.isFresh_ofCount_iff lags.order]
  simp only [Progress.lag, Progress.Lapped, Nat.sub_pos_iff_lt]

theorem read (fails : Nat → Bool) (room : Nat) :
    Follows d progress (pair.perform .consumer fails (.read room) (tryRead room)) ∧
      ∃ result, (pair.perform .consumer fails (.read room) (tryRead room)).1 = .read room result ∧
        progress.Read d fails room result := by
  obtain ⟨published, acked, length, latest, slot, shows⟩ := lags.carries
  have fresh := lags.fresh_iff length
  have reads : (tryRead room).Ensures (Action.Fails fails) anyAccess pair.consuming pair.memory _ _ :=
    tryRead_shows lags.consuming shows
  have ended := reads.runFailing
  simp only [Pair.perform, Pair.buffer, Pair.leave]
  generalize (tryRead room).runFailing fails pair.consuming pair.memory = outcome at ended
  obtain ⟨⟨result, left⟩, after⟩ := outcome
  cases result with
  | error fault =>
    obtain ⟨⟨reading, rfl⟩, carries, refused⟩ := ended
    constructor
    · exact { lags with
        consuming := lags.consuming.claimed
        carries := ⟨published, acked, length, carries⟩ }
    · refine ⟨_, rfl, ?_⟩
      cases refused with
      | inl lost => exact .inl lost.1
      | inr short =>
        obtain ⟨⟨payload, last, long⟩, _⟩ := short
        exact .inr (Nat.lt_of_lt_of_le long (shows.holds payload last).fits)
  | ok attempt =>
    obtain ⟨moved, result⟩ := attempt
    obtain ⟨shows, done | lost⟩ := ended
    · obtain ⟨snapshot, rfl, found, rfl⟩ := done
      have taken := lags.consuming.taken published latest
      rw [length, seenAfter_ofCount lags.order] at taken
      constructor
      · constructor
        case producing => exact lags.producing
        case consuming => exact taken
        case order => exact Nat.le_refl _
        case carries => exact ⟨published, acked, length, latest, latest, shows⟩
      · refine ⟨_, rfl, ?_⟩
        change snapshot.fresh = true ↔ _
        rw [← fresh]
        cases found with
        | inl none =>
          obtain ⟨rfl, rfl, _⟩ := none
          simp [Sequence.isFresh]
        | inr some =>
          obtain ⟨payload, _, _, rfl⟩ := some
          exact Iff.rfl
    · obtain ⟨faulty, rfl, rfl⟩ := lost
      constructor
      · exact { lags with
          consuming := lags.consuming.claimed
          carries := ⟨published, acked, length, latest, latest, shows⟩ }
      · exact ⟨_, rfl, .inl faulty⟩

theorem hasFresh (fails : Nat → Bool) :
    Follows d progress (pair.perform .consumer fails .fresh TripleBuffer.hasFresh) ∧
      ∃ result, (pair.perform .consumer fails .fresh TripleBuffer.hasFresh).1 = .fresh result ∧
        progress.Asked fails result := by
  obtain ⟨published, acked, length, carries⟩ := lags.carries
  have fresh := lags.fresh_iff length
  have answers : TripleBuffer.hasFresh.Ensures (Action.Fails fails) anyAccess pair.consuming
      pair.memory _ _ := hasFresh_ensures lags.consuming carries
  have ended := answers.runFailing
  simp only [Pair.perform, Pair.buffer, Pair.leave]
  generalize TripleBuffer.hasFresh.runFailing fails pair.consuming pair.memory = outcome at ended
  obtain ⟨⟨result, left⟩, after⟩ := outcome
  cases result with
  | error fault =>
    obtain ⟨rfl, rfl, faulty, _⟩ := ended
    exact ⟨lags, _, rfl, faulty⟩
  | ok answer =>
    obtain ⟨rfl, rfl, rfl⟩ := ended
    exact ⟨lags, _, rfl, fresh⟩

theorem acknowledge (seq : Sequence) :
    Follows d progress (pair.perform .consumer fails .acknowledge (TripleBuffer.acknowledge seq)) := by
  obtain ⟨published, acked, length, carries⟩ := lags.carries
  have stores : (TripleBuffer.acknowledge seq).Ensures (Action.Fails fails) anyAccess pair.consuming
      pair.memory _ _ := acknowledge_ensures lags.consuming carries
  have ended := stores.runFailing
  simp only [Pair.perform, Pair.buffer, Pair.leave]
  generalize (TripleBuffer.acknowledge seq).runFailing fails pair.consuming pair.memory =
    outcome at ended
  obtain ⟨⟨result, left⟩, after⟩ := outcome
  cases result with
  | error fault =>
    obtain ⟨rfl, rfl, _⟩ := ended
    exact lags
  | ok done =>
    obtain ⟨rfl, carries⟩ := ended
    exact { lags with carries := ⟨published, seq, length, carries⟩ }

theorem acknowledged :
    Follows d progress (pair.perform .producer fails .acknowledged TripleBuffer.acknowledged) := by
  obtain ⟨published, acked, length, carries⟩ := lags.carries
  have answers : TripleBuffer.acknowledged.Ensures (Action.Fails fails) anyAccess pair.producing
      pair.memory _ _ := acknowledged_ensures lags.producing carries
  have ended := answers.runFailing
  simp only [Pair.perform, Pair.buffer, Pair.leave]
  generalize TripleBuffer.acknowledged.runFailing fails pair.producing pair.memory = outcome at ended
  obtain ⟨⟨result, left⟩, after⟩ := outcome
  cases result with
  | error fault =>
    obtain ⟨rfl, rfl, _⟩ := ended
    exact lags
  | ok answer =>
    obtain ⟨_, rfl, rfl⟩ := ended
    exact lags

theorem make (trial : Trial) : Follows d progress (pair.make trial) := by
  obtain ⟨fails, call⟩ := trial
  cases call with
  | write payload => exact lags.write fails payload
  | read room => exact (lags.read fails room).1
  | hasFresh => exact (lags.hasFresh fails).1
  | acknowledge seq => exact lags.acknowledge seq
  | acknowledged => exact lags.acknowledged

theorem after (trials : List Trial) :
    Lags d (pair.after trials) ((pair.replies trials).foldl Progress.next progress) := by
  induction trials generalizing pair progress with
  | nil => exact lags
  | cons first rest ih => exact ih (lags.make first)

end Lags

theorem setUp_shows {owner : Role} (made : Pair.setUp owner d memory = .ok pair) :
    pair.producing.Produces d ∧ pair.consuming.Consumes d 0 ∧
      d.Shows pair.memory [] 0 ⟨0, ControlWord.noSlot⟩ := by
  unfold Pair.setUp at made
  split at made
  · contradiction
  · rename_i producing consuming after connected
    cases made
    exact connected_shows connected

theorem setUp_lags {owner : Role} (made : Pair.setUp owner d memory = .ok pair) :
    Lags d pair ⟨0, 0⟩ := by
  obtain ⟨produces, consumes, shows⟩ := setUp_shows made
  exact ⟨produces, consumes, Nat.le_refl _, [], _, rfl, _, _, shows⟩

/-- The consumer is told of new data when it lags behind, unless it was lapped. It is told so by
`hasFresh` and by the next read that succeeds, and both succeed where no access fails. -/
theorem fresh_iff_not_lapped {owner : Role} (made : Pair.setUp owner d memory = .ok pair)
    (trials : List Trial) :
    let progress := Progress.ofReplies (pair.replies trials)
    (∀ fails answer, ((pair.after trials).make ⟨fails, .hasFresh⟩).1 = .fresh (.ok answer) →
        (answer = true ↔ 0 < progress.lag ∧ ¬ progress.Lapped)) ∧
      (∀ fails room moved snapshot,
        ((pair.after trials).make ⟨fails, .read room⟩).1 = .read room (.ok ⟨moved, .ok snapshot⟩) →
          (snapshot.fresh = true ↔ 0 < progress.lag ∧ ¬ progress.Lapped)) ∧
      ∀ fails, ¬ Action.Fails fails →
        (∃ answer, ((pair.after trials).make ⟨fails, .hasFresh⟩).1 = .fresh (.ok answer)) ∧
          ∀ room, d.size ≤ room → ∃ moved snapshot,
            ((pair.after trials).make ⟨fails, .read room⟩).1 =
              .read room (.ok ⟨moved, .ok snapshot⟩) := by
  have lags := (setUp_lags made).after trials
  refine ⟨?_, ?_, ?_⟩
  · intro fails answer replied
    obtain ⟨result, same, asked⟩ := (lags.hasFresh fails).2
    cases same.symm.trans replied
    exact asked
  · intro fails room moved snapshot replied
    obtain ⟨result, same, read⟩ := (lags.read fails room).2
    cases same.symm.trans replied
    exact read
  · intro fails faultless
    constructor
    · obtain ⟨result, same, asked⟩ := (lags.hasFresh fails).2
      cases result with
      | error fault => exact absurd asked faultless
      | ok answer => exact ⟨answer, same⟩
    · intro room roomy
      obtain ⟨result, same, read⟩ := (lags.read fails room).2
      have whole : ¬ (Action.Fails fails ∨ room < d.size) := by
        rintro (faulty | short)
        · exact faultless faulty
        · exact Nat.not_le.mpr short roomy
      cases result with
      | error fault => exact absurd read whole
      | ok attempt =>
        obtain ⟨moved, result⟩ := attempt
        cases result with
        | error fault => exact absurd read whole
        | ok snapshot => exact ⟨moved, snapshot, same⟩

/-- A consumer that read the first of 256 writes takes the last one for it. -/
theorem fresh_iff_not_lapped_round :
    let never : Nat → Bool := fun _ => false
    let trials : List Trial := [⟨never, .write [1]⟩, ⟨never, .read 4⟩] ++
      List.replicate 255 ⟨never, .write [2]⟩
    ∃ pair, Pair.setUp .producer ⟨.status, 0, 4⟩ (.zeroed 0 16) = .ok pair ∧
      (Progress.ofReplies (pair.replies trials)).lag = 255 ∧
      ((pair.after trials).make ⟨never, .hasFresh⟩).1 = .fresh (.ok false) := by
  intro never trials
  have connected : ∃ pair, Pair.setUp .producer ⟨.status, 0, 4⟩ (.zeroed 0 16) = .ok pair ∧
      Progress.ofReplies (pair.replies [⟨never, .write [1]⟩, ⟨never, .read 4⟩]) = ⟨1, 1⟩ :=
    ⟨_, rfl, by decide +kernel⟩
  obtain ⟨pair, made, first⟩ := connected
  refine ⟨pair, made, ?_⟩
  obtain ⟨told, _, succeeds⟩ := fresh_iff_not_lapped made trials
  obtain ⟨⟨answer, replied⟩, _⟩ := succeeds never Action.not_fails
  have progress : Progress.ofReplies (pair.replies trials) = ⟨256, 1⟩ := by
    have lags := (setUp_lags made).after [⟨never, .write [1]⟩, ⟨never, .read 4⟩]
    rw [Pair.replies_append, Progress.ofReplies, List.foldl_append,
      lags.written_each (by decide) Action.not_fails 255]
    unfold Progress.ofReplies at first
    rw [first]
  have answered := told never answer replied
  rw [progress] at answered ⊢
  have old : answer = false := by simpa [Progress.lag, Progress.Lapped] using answered
  exact ⟨rfl, old ▸ replied⟩

end NodeLink.TripleBuffer

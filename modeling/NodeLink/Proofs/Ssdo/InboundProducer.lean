import NodeLink.Proofs.Channel
import NodeLink.Proofs.Timer.Shared
import NodeLink.Ssdo.Inbound

/-! The communication processor's end for frames to the application. It posts the accepted frames in
order, each under the number of its place, and writes none but the frame posted last again; a frame
leaves the queue only when the latest write counts as acknowledged. -/
namespace NodeLink.Ssdo.Inbound

open Channel (number)
open TripleBuffer (anyAccess)

/-- The frame posted last is the latest message. -/
def Tells (frames : List QueuedFrame) (posted : Nat) (published : List Bytes) : Prop :=
  ∀ bytes, published.getLast? = some bytes → ∃ index header frame, posted = index + 1 ∧
    frames[index]? = some frame ∧ bytes = Channel.Header.toBytes header ++ frame.payload ∧
    header.number = number posted ∧ header.Heads frame.payload

variable {faults : Prop} {d : Descriptor} {memory : SharedMemory} {published : List Bytes}
  {acked : Sequence} {frames : List QueuedFrame} {settled posted : Nat}

theorem Tells.told (tells : Tells frames posted published) : Channel.Told published := by
  intro bytes last
  obtain ⟨_, header, frame, _, _, same, _, heads⟩ := tells bytes last
  exact ⟨header, frame.payload, same, heads⟩

namespace Producer

/-- An end that has posted the first frames of those accepted and settled all of them or all but the
last one. -/
structure Sound (d : Descriptor) (frames : List QueuedFrame) (settled posted : Nat) (state : State) :
    Prop where
  producing : state.1.sender.buffer.Produces d
  next : state.1.sender.next = number (posted + 1)
  queue : state.1.queue.toList = frames.drop settled
  upto : posted ≤ frames.length
  head : ∀ assigned, state.1.pending = .head assigned → assigned = number posted ∧ posted = settled + 1
  other : (∀ assigned, state.1.pending ≠ .head assigned) → posted = settled
  waiting : state.1.phase = .waitForFrame → ∀ assigned, state.1.pending ≠ .head assigned
  kept : ∀ assigned frame, state.1.acknowledged = some (assigned, frame) →
    ∃ index, settled = index + 1 ∧ assigned = number settled ∧ frames[index]? = some frame
  live : state.2.Live state.1.timer

/-- What a call of `process` did. -/
inductive Effect (d : Descriptor) (frames : List QueuedFrame) (settled posted : Nat)
    (published : List Bytes) (acked : Sequence) (left : State) (after : SharedMemory) : Prop where
  /-- Nothing was published. -/
  | quiet (sound : Sound d frames settled posted left) (carries : d.Carries after published acked)
  /-- The frame posted last was written again. -/
  | reposted (bytes : Bytes) (sound : Sound d frames settled posted left)
    (carries : d.Carries after (published ++ [bytes]) acked)
    (tells : Tells frames posted (published ++ [bytes]))
  /-- The next frame was posted. -/
  | posted (bytes : Bytes) (idle : posted = settled)
    (ready : Sequence.ofCount published.length = acked)
    (sound : Sound d frames settled (posted + 1) left)
    (carries : d.Carries after (published ++ [bytes]) acked)
    (tells : Tells frames (posted + 1) (published ++ [bytes]))
  /-- The frame posted last left the queue. -/
  | settled (ready : Sequence.ofCount published.length = acked)
    (sound : Sound d frames posted posted left) (carries : d.Carries after published acked)

theorem Sound.settled_upto {state : State} (sound : Sound d frames settled posted state) :
    settled ≤ frames.length := by
  have upto := sound.upto
  by_cases head : ∃ assigned, state.1.pending = .head assigned
  · obtain ⟨assigned, pending⟩ := head
    have last := (sound.head assigned pending).2
    omega
  · exact sound.other (fun assigned pending => head ⟨assigned, pending⟩) ▸ upto

theorem Sound.headFrame {state : State} (sound : Sound d frames settled posted state)
    {assigned : Channel.MessageNumber} (pending : state.1.pending = .head assigned) :
    ∃ frame, state.1.queue.head? = some frame ∧ frames[settled]? = some frame := by
  obtain ⟨_, rfl⟩ := sound.head assigned pending
  have inside : settled < frames.length := sound.upto
  refine ⟨frames[settled], ?_, List.getElem?_eq_getElem inside⟩
  rw [Queue.head?, sound.queue, List.head?_drop, List.getElem?_eq_getElem inside]

theorem onSender_ensures {α : Type} {state : State} {may : Words.Request → Prop}
    {operation : Channel.Sender.Operation α} {ok : α → State → SharedMemory → Prop}
    {failed : Fault → State → SharedMemory → Prop}
    (holds : operation.Ensures faults may state.1.sender memory
      (fun value sender => ok value ({ state.1 with sender }, state.2))
      fun fault sender => failed fault ({ state.1 with sender }, state.2)) :
    (onSender operation).Ensures faults may state memory ok failed := Action.ensures_part holds

section Process

variable {state : State}

theorem await_ensures {may : Words.Request → Prop} {ok : Unit → State → SharedMemory → Prop}
    {failed : Fault → State → SharedMemory → Prop} (live : state.2.Live state.1.timer)
    (holds : ∀ pool : TimerPool, pool.Live state.1.timer →
      ok () ({ state.1 with phase := .waitForAcknowledge }, pool) memory) :
    await.Ensures faults may state memory ok failed := by
  obtain ⟨pool, started, live⟩ := live.start
  exact Action.Ensures.onTimer_then started (holds pool live)

/-- Entering another phase than waiting for a frame. -/
theorem Sound.enter (sound : Sound d frames settled posted state) {phase : Phase} {pool : TimerPool}
    (busy : phase ≠ .waitForFrame) (live : pool.Live state.1.timer) :
    Sound d frames settled posted ({ state.1 with phase }, pool) :=
  { sound with waiting := fun idle => absurd idle busy, live }

/-- An operation ends in one of these states, whether it fails or not. -/
abbrev Leaves {α : Type} (faults : Prop) (action : Action Medium State α) (state : State)
    (memory : SharedMemory) (ends : State → SharedMemory → Prop) : Prop :=
  action.Ensures faults anyAccess state memory (fun _ => ends) fun _ => ends

/-- A frame is written under the number of the message that carried it first. -/
theorem rewrite_leaves {index : Nat} {frame : QueuedFrame} {next : Unit → Action Medium State Unit}
    (sound : Sound d frames settled posted state) (carries : d.Carries memory published acked)
    (last : posted = index + 1) (found : frames[index]? = some frame)
    (rest : ∀ bytes after, d.Carries after (published ++ [bytes]) acked →
      Tells frames posted (published ++ [bytes]) → Leaves faults (next ()) state after
        (Effect d frames settled posted published acked)) :
    Leaves faults (onSender (Channel.Sender.repost (number posted) format frame.payload) >>= next)
      state memory (Effect d frames settled posted published acked) := by
  have numbered : number posted ≠ 0 := last ▸ Channel.number_succ_ne_zero _
  refine Action.Ensures.bind (fun _ left after => left = state ∧ ∃ bytes,
    d.Carries after (published ++ [bytes]) acked ∧ Tells frames posted (published ++ [bytes]))
    (onSender_ensures ((Channel.Sender.write_ensures sound.producing carries).mono
      (fun _ granted => granted) ?_ ?_)) ?_
  · rintro _ _ after ⟨rfl, fits, carries⟩
    refine ⟨rfl, _, carries, fun bytes same => ?_⟩
    rw [List.getLast?_concat, Option.some.injEq] at same
    exact ⟨index, _, frame, last, found, same.symm, rfl, Channel.Sender.header_heads numbered fits⟩
  · rintro fault _ after ⟨rfl, carries, _⟩
    exact .quiet sound carries
  · rintro _ _ after ⟨rfl, bytes, carries, tells⟩
    exact rest bytes after carries tells

theorem repost_leaves (sound : Sound d frames settled posted state)
    (carries : d.Carries memory published acked) :
    Leaves faults repost state memory (Effect d frames settled posted published acked) := by
  unfold repost
  apply Action.get_then
  cases pending : state.1.pending with
  | head assigned =>
    obtain ⟨frame, queued, found⟩ := sound.headFrame pending
    obtain ⟨rfl, last⟩ := sound.head assigned pending
    simp only [pending, queued]
    refine rewrite_leaves sound carries last found fun bytes after carries tells => ?_
    refine await_ensures sound.live fun pool live => ?_
    exact .reposted bytes (sound.enter nofun live) carries tells
  | _ =>
    have other : ∀ assigned, state.1.pending ≠ .head assigned := by
      rw [pending]
      exact nofun
    obtain rfl := sound.other other
    cases kept : state.1.acknowledged with
    | none =>
      simp only [pending, kept]
      exact .quiet { sound with waiting := fun _ => other } carries
    | some snapshot =>
      obtain ⟨assigned, frame⟩ := snapshot
      obtain ⟨index, last, rfl, found⟩ := sound.kept assigned frame kept
      simp only [pending, kept]
      refine rewrite_leaves sound carries last found fun bytes after carries tells => ?_
      refine Action.modify_then (await_ensures sound.live fun pool live => ?_)
      exact .reposted bytes { sound with
        head := nofun, other := fun _ => rfl, waiting := nofun, live } carries tells

theorem postHead_leaves (sound : Sound d frames settled posted state)
    (idle : state.1.phase = .waitForFrame) (carries : d.Carries memory published acked) :
    Leaves faults postHead state memory (Effect d frames settled posted published acked) := by
  have other := sound.waiting idle
  obtain rfl := sound.other other
  unfold postHead
  apply Action.get_then
  cases queued : state.1.queue.head? with
  | none => exact .quiet sound carries
  | some frame =>
    have found : frames[posted]? = some frame := by
      rwa [Queue.head?, sound.queue, List.head?_drop] at queued
    refine Action.Ensures.bind (fun assigned left after => assigned = number (posted + 1) ∧
      left = ({ state.1 with sender := { state.1.sender with next := state.1.sender.next.next } },
        state.2) ∧ Sequence.ofCount published.length = acked ∧ ∃ bytes,
      d.Carries after (published ++ [bytes]) acked ∧
        Tells frames (posted + 1) (published ++ [bytes]))
      (onSender_ensures ((Channel.Sender.post_ensures sound.producing carries).mono
        (fun _ granted => granted) ?_ ?_)) ?_
    · rintro assigned _ after ⟨rfl, rfl, ready, fits, carries⟩
      refine ⟨sound.next, rfl, ready, _, carries, fun bytes same => ?_⟩
      rw [List.getLast?_concat, Option.some.injEq] at same
      refine ⟨posted, _, frame, rfl, found, same.symm, sound.next, ?_⟩
      refine Channel.Sender.header_heads ?_ fits
      exact sound.next ▸ Channel.number_succ_ne_zero _
    · rintro fault _ after ⟨rfl, carries, _⟩
      exact .quiet sound carries
    · rintro _ _ after ⟨rfl, rfl, ready, bytes, carries, tells⟩
      refine Action.modify_then (await_ensures sound.live fun pool live => ?_)
      refine .posted bytes rfl ready ?_ carries tells
      exact { sound with
        next := congrArg Channel.MessageNumber.next sound.next
        upto := (List.getElem?_eq_some_iff.mp found).1
        head := fun _ same => ⟨(Pending.head.inj same).symm, rfl⟩
        other := fun none => absurd rfl (none _)
        waiting := nofun
        live }

theorem settle_leaves (sound : Sound d frames settled posted state)
    (carries : d.Carries memory published acked) :
    settle.Ensures faults anyAccess state memory
      (fun _ left after => Sound d frames posted posted left ∧ d.Carries after published acked)
      fun _ _ _ => False := by
  obtain ⟨pool, stopped, live⟩ := sound.live.stop
  refine Action.Ensures.onTimer_then stopped (Action.get_then ?_)
  cases pending : state.1.pending with
  | head assigned =>
    obtain ⟨frame, queued, found⟩ := sound.headFrame pending
    obtain ⟨rfl, rfl⟩ := sound.head assigned pending
    simp only [pending, queued]
    refine ⟨{ sound with
      queue := ?_
      head := nofun
      other := fun _ => rfl
      waiting := fun _ => nofun
      kept := ?_
      live }, carries⟩
    · change state.1.queue.tail.toList = _
      rw [Queue.toList_tail, sound.queue, List.tail_drop]
    · rintro _ _ ⟨⟩
      exact ⟨settled, rfl, rfl, found⟩
  | _ =>
    have other : ∀ assigned, state.1.pending ≠ .head assigned := by
      rw [pending]
      exact nofun
    obtain rfl := sound.other other
    simp only [pending]
    exact ⟨{ sound with head := nofun, other := fun _ => rfl, waiting := fun _ => nofun, live },
      carries⟩

theorem ready_then {α : Type} {next : Bool → Action Medium State α}
    {ok : α → State → SharedMemory → Prop} {failed : Fault → State → SharedMemory → Prop}
    (sound : Sound d frames settled posted state) (carries : d.Carries memory published acked)
    (rest : (next (Sequence.ofCount published.length == acked)).Ensures faults anyAccess state memory
      ok failed)
    (lost : faults → failed (.error .medium) state memory) :
    (onSender Channel.Sender.ready >>= next).Ensures faults anyAccess state memory ok failed := by
  refine Action.Ensures.bind (fun answered left after => left = state ∧ after = memory ∧
    answered = (Sequence.ofCount published.length == acked))
    (onSender_ensures ((Channel.Sender.ready_ensures sound.producing carries).mono
      (fun _ granted => granted) ?_ ?_)) ?_
  · rintro answered _ after ⟨told, rfl, same⟩
    exact ⟨rfl, same, told⟩
  · rintro _ _ _ ⟨rfl, rfl, allowed, rfl⟩
    exact lost allowed
  · rintro _ _ _ ⟨rfl, rfl, rfl⟩
    exact rest

theorem awaitAcknowledge_leaves (sound : Sound d frames settled posted state)
    (carries : d.Carries memory published acked) :
    Leaves faults awaitAcknowledge state memory (Effect d frames settled posted published acked) := by
  refine ready_then sound carries ?_ fun _ => .quiet sound carries
  by_cases ready : Sequence.ofCount published.length = acked
  · rw [if_pos (beq_iff_eq.mpr ready)]
    exact (settle_leaves sound carries).mono (fun _ granted => granted)
      (fun _ _ _ left => .settled ready left.1 left.2) fun _ _ _ => False.elim
  · rw [if_neg fun same => ready (beq_iff_eq.mp same)]
    obtain ⟨phase, found⟩ := sound.live.phase
    refine Action.get_then (Action.ofExcept_then (fun phase _ => ?_) fun error lost => ?_)
    · cases phase with
      | expired =>
        exact Action.modify_then (repost_leaves (sound.enter nofun sound.live) carries)
      | _ => exact .quiet sound carries
    · rw [found] at lost
      contradiction

theorem process_leaves (sound : Sound d frames settled posted state)
    (carries : d.Carries memory published acked) :
    Leaves faults process state memory (Effect d frames settled posted published acked) := by
  unfold process
  apply Action.get_then
  cases phase : state.1.phase with
  | waitForFrame =>
    simp only [phase]
    split
    · refine Action.modify_then (Action.modify_then (repost_leaves ?_ carries))
      exact { sound with waiting := nofun }
    · exact postHead_leaves sound phase carries
  | waitForAcknowledge =>
    simp only [phase]
    exact awaitAcknowledge_leaves sound carries
  | repostFrame =>
    simp only [phase]
    exact repost_leaves sound carries

/-- A frame that waits for its acknowledge is settled as soon as the latest write counts as
acknowledged. -/
theorem process_settles (sound : Sound d frames settled posted state)
    (carries : d.Carries memory published acked) (waiting : state.1.phase = .waitForAcknowledge)
    (ready : Sequence.ofCount published.length = acked) :
    process.Ensures False anyAccess state memory
      (fun _ left after => Sound d frames posted posted left ∧ d.Carries after published acked)
      fun _ _ _ => False := by
  unfold process
  apply Action.get_then
  simp only [waiting]
  refine ready_then sound carries ?_ False.elim
  rw [if_pos (beq_iff_eq.mpr ready)]
  exact settle_leaves sound carries

/-- A cycle counts for the timer alone. -/
theorem tick_eq (live : state.2.Live state.1.timer) : ∃ pool, state.2.tick state.1.timer = .ok pool ∧
    pool.Live state.1.timer ∧ tick state = .done (.ok (), (state.1, pool)) := by
  obtain ⟨pool, ticked, live⟩ := live.tick
  refine ⟨pool, ticked, live, ?_⟩
  change Prog.done _ = _
  simp only [ticked]
  rfl

end Process

/-- More frames at the end of the queue, and nothing else of what an end promises. -/
theorem Sound.grow {state : State} {after : Producer} {taken : List QueuedFrame}
    (sound : Sound d frames settled posted state)
    (queue : after.queue.toList = state.1.queue.toList ++ taken)
    (sender : after.sender = state.1.sender) (pending : after.pending = state.1.pending)
    (acknowledged : after.acknowledged = state.1.acknowledged) (timer : after.timer = state.1.timer)
    (phase : after.phase = .waitForFrame → state.1.phase = .waitForFrame) :
    Sound d (frames ++ taken) settled posted (after, state.2) where
  producing := sender ▸ sound.producing
  next := sender ▸ sound.next
  queue := by
    have upto := sound.settled_upto
    rw [queue, sound.queue, List.drop_append_of_le_length upto]
  upto := by
    have upto := sound.upto
    rw [List.length_append]
    omega
  head := pending ▸ sound.head
  other := pending ▸ sound.other
  waiting idle := pending ▸ sound.waiting (phase idle)
  kept assigned frame found := by
    obtain ⟨index, last, named, same⟩ := sound.kept assigned frame (acknowledged ▸ found)
    refine ⟨index, last, named, ?_⟩
    rw [List.getElem?_append_left (List.getElem?_eq_some_iff.mp same).1]
    exact same
  live := timer ▸ sound.live

/-- What is taken from the network goes to the end of the queue or changes no frame. -/
theorem accept_sound {state : State} {arrival : Arrival} {after : Producer}
    (sound : Sound d frames settled posted state) (accepted : state.1.accept arrival = .ok after) :
    ∃ taken, after.queue.toList = state.1.queue.toList ++ taken ∧
      Sound d (frames ++ taken) settled posted (after, state.2) := by
  have none : state.1.queue.toList = state.1.queue.toList ++ [] := (List.append_nil _).symm
  unfold accept at accepted
  split at accepted
  · contradiction
  split at accepted
  · split at accepted
    · cases accepted
      unfold requestRepost
      split
      · exact ⟨[], none, sound.grow none rfl rfl rfl rfl nofun⟩
      · exact ⟨[], none, sound.grow none rfl rfl rfl rfl fun idle => idle⟩
    · cases accepted
      exact ⟨[], none, sound.grow none rfl rfl rfl rfl fun idle => idle⟩
  split at accepted
  · cases accepted
    exact ⟨[], none, sound.grow none rfl rfl rfl rfl fun idle => idle⟩
  · unfold enqueue at accepted
    split at accepted
    · contradiction
    · rename_i pushed
      cases accepted
      have queue := ((Queue.push?_eq_some _ _ _).mp pushed).2
      exact ⟨_, queue, sound.grow queue rfl rfl rfl rfl fun idle => idle⟩

theorem new_sound {buffer : TripleBuffer} {channel : UInt8} {ackTimeout : Nat} {pool : TimerPool}
    {state : State} (producing : buffer.Produces d)
    (made : new buffer channel ackTimeout pool = .ok state) : Sound d [] 0 0 state := by
  have sender : Channel.Sender.new buffer channel = .ok ⟨buffer, channel, .first⟩ :=
    if_pos producing.role
  unfold new at made
  rw [sender] at made
  cases created : pool.create ackTimeout with
  | error error =>
    rw [created] at made
    contradiction
  | ok place =>
    obtain ⟨timer, pool⟩ := place
    rw [created] at made
    cases made
    exact {
      producing
      next := rfl
      queue := rfl
      upto := Nat.le_refl _
      head := nofun
      other := fun _ => rfl
      waiting := fun _ => nofun
      kept := nofun
      live := TimerPool.live_of_create created }

end Producer

end NodeLink.Ssdo.Inbound

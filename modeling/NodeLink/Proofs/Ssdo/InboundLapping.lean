import NodeLink.Proofs.Ssdo.InboundLedger

/-! When frames are lost. A frame that the application does not take is written again with every
timeout; 255 writes after the message taken last its number comes round, and the frame leaves the queue
undelivered. Nothing else loses a frame, and no shorter run does. -/
namespace NodeLink.Ssdo.Inbound

open Channel (number)
open TripleBuffer (anyAccess)

variable {d : Descriptor} {memory : SharedMemory} {published : List Bytes} {acked : Sequence}
  {frames : List QueuedFrame} {settled posted : Nat} {surroundings : Surroundings}

namespace Producer

variable {state : State}

theorem process_reposts {assigned : Channel.MessageNumber}
    (sound : Sound d frames settled posted state) (carries : d.Carries memory published acked)
    (tells : Tells frames posted published) (written : posted ≤ published.length)
    (waiting : state.1.phase = .waitForAcknowledge) (head : state.1.pending = .head assigned)
    (unready : Sequence.ofCount published.length ≠ acked)
    (expired : state.2.phase state.1.timer = .ok .expired) :
    process.Ensures False anyAccess state memory
      (fun _ left after => left.1 = state.1 ∧ state.2.start state.1.timer = .ok left.2 ∧
        ∃ bytes, d.Carries after (published ++ [bytes]) acked)
      fun _ _ _ => False := by
  obtain ⟨frame, queued, found⟩ := sound.headFrame head
  obtain ⟨_, rfl⟩ := sound.head assigned head
  obtain ⟨_, _, ⟨⟩, found', fits⟩ := tells.fits carries (List.ne_nil_of_length_pos (by omega))
  obtain rfl := Option.some.inj (found.symm.trans found')
  have whole : { state.1 with phase := .waitForAcknowledge } = state.1 := by rw [← waiting]
  obtain ⟨pool, started, _⟩ := sound.live.start
  unfold process
  apply Action.get_then
  simp only [waiting]
  refine ready_then sound carries ?_ False.elim
  rw [if_neg fun same => unready (beq_iff_eq.mp same)]
  refine Action.get_then (Action.ofExcept_then (fun expiry same => ?_) fun error lost => ?_)
  · obtain rfl := Except.ok.inj (expired.symm.trans same)
    unfold repost
    refine Action.modify_then (Action.get_then ?_)
    simp only [head, queued]
    refine Action.Ensures.bind (fun _ left after =>
      left = ({ state.1 with phase := .repostFrame }, state.2) ∧
        ∃ bytes, d.Carries after (published ++ [bytes]) acked)
      (onSender_ensures ((Channel.Sender.write_ensures sound.producing carries).mono
        (fun _ granted => granted) ?_ ?_)) ?_
    · rintro _ _ _ ⟨rfl, _, carries⟩
      exact ⟨by rw [← head], _, carries⟩
    · rintro _ _ _ ⟨_, _, ⟨lost, _⟩ | ⟨large, _⟩⟩
      · exact lost
      · exact fits large
    · rintro _ _ after ⟨rfl, carries⟩
      exact Action.Ensures.onTimer_then started ⟨whole, started, carries⟩
  · rw [expired] at lost
    contradiction

end Producer

namespace Ledger

variable {ledger : Ledger} {limit cycles writes taken : Nat}

/-- A frame is pending, and its timer has counted so many cycles. -/
structure Silent (d : Descriptor) (ledger : Ledger) (limit cycles writes taken : Nat) : Prop where
  sound : ∃ settled given posted, ledger.Sound d settled given posted
  waiting : ledger.system.producer.1.phase = .waitForAcknowledge
  head : ∃ assigned, ledger.system.producer.1.pending = .head assigned
  timer : ledger.system.producer.2.get? ledger.system.producer.1.timer =
    some (Timer.after limit cycles)
  writes : ledger.writes = writes
  taken : ledger.taken = taken

/-- The calls from one timeout to the next while the application is silent. -/
def round (limit : Nat) : List Call := List.replicate limit .tick ++ [.process]

theorem Silent.tick (surroundings : Surroundings)
    (silent : ledger.Silent d limit cycles writes taken) :
    (ledger.call surroundings .tick).Silent d limit (cycles + 1) writes taken := by
  obtain ⟨settled, given, posted, sound⟩ := silent.sound
  have next : (ledger.call surroundings .tick).Sound d settled given posted := sound.tick
  obtain ⟨pool, ticked, _, called⟩ := ledger.call_tick sound.producer.live
  rw [called] at next ⊢
  exact { silent with
    sound := ⟨_, _, _, next⟩
    timer := TimerPool.get?_of_tick ticked silent.timer }

theorem Silent.ticks (surroundings : Surroundings)
    (silent : ledger.Silent d limit cycles writes taken) (count : Nat) :
    (ledger.after surroundings (List.replicate count .tick)).Silent d limit (cycles + count) writes
      taken := by
  induction count generalizing ledger cycles with
  | zero => exact silent
  | succ count ih =>
    have next := ih (silent.tick surroundings)
    rwa [Nat.add_right_comm] at next

theorem Silent.process (faultless : ¬ surroundings.Faulty)
    (silent : ledger.Silent d limit cycles writes taken) (expired : limit ≤ cycles)
    (behind : taken < writes) (apart : writes < taken + 255) :
    (ledger.call surroundings .process).Silent d limit 0 (writes + 1) taken := by
  obtain ⟨settled, given, posted, sound⟩ := silent.sound
  obtain ⟨assigned, head⟩ := silent.head
  obtain ⟨rfl, rfl⟩ := And.intro silent.writes silent.taken
  obtain ⟨published, count, carries, tells⟩ := sound.shown
  have unready : Sequence.ofCount published.length ≠ .ofCount ledger.taken := by
    rw [count, Ne, Sequence.ofCount_eq_iff_of_lt behind]
    omega
  have phase : ledger.system.producer.2.phase ledger.system.producer.1.timer = .ok .expired := by
    simp only [TimerPool.phase, silent.timer, Timer.phase_after expired]
  have next := sound.process faultless fun lapped => by
    have rounds := lapped.2.2.2.2
    omega
  have reposts := Producer.process_reposts sound.producer carries tells (count ▸ sound.written)
    silent.waiting head unready phase
  obtain ⟨result, ⟨producer, pool⟩, world, called, ends⟩ :=
    ledger.system.produce_ends surroundings Producer.process
  have called : ledger.system.call surroundings .process = _ := called
  have ended : producer = ledger.system.producer.1 ∧
      ledger.system.producer.2.start ledger.system.producer.1.timer = .ok pool ∧
      ∃ bytes, d.Carries world.memory (published ++ [bytes]) (.ofCount ledger.taken) := by
    cases result with
    | error fault => exact (ends (reposts.of_faultless faultless)).1.elim
    | ok value => exact (ends (reposts.of_faultless faultless)).1
  obtain ⟨rfl, started, bytes, more⟩ := ended
  have written : (ledger.system.call surroundings .process).latest ≠ ledger.system.latest := by
    rw [called, latest_eq sound.producer.producing carries]
    apply ne_of_eq_of_ne (latest_eq (by exact sound.producer.producing) more)
    rw [List.length_append]
    exact Sequence.ofCount_succ_ne _
  have counted : ledger.call surroundings .process = _ := call_writes written (by rw [called]; rfl)
  rw [counted, called] at next ⊢
  exact ⟨next, silent.waiting, silent.head, TimerPool.get?_of_start started silent.timer, rfl, rfl⟩

theorem after_append (ledger : Ledger) (first second : List Call) :
    ledger.after surroundings (first ++ second) =
      (ledger.after surroundings first).after surroundings second := List.foldl_append

theorem Silent.rounds (faultless : ¬ surroundings.Faulty)
    (silent : ledger.Silent d limit 0 writes taken) (behind : taken < writes) (count : Nat)
    (apart : writes + count ≤ taken + 255) :
    (ledger.after surroundings (List.replicate count (round limit)).flatten).Silent d limit 0
      (writes + count) taken := by
  induction count generalizing ledger writes with
  | zero => exact silent
  | succ count ih =>
    rw [List.replicate_succ, List.flatten_cons, after_append, round, after_append]
    have expired := silent.ticks surroundings limit
    have next := expired.process faultless (Nat.le_add_left _ _) behind (by omega)
    have ended := ih next (Nat.lt_succ_of_lt behind) (by omega)
    rwa [Nat.add_right_comm] at ended

theorem Silent.lapped (silent : ledger.Silent d limit cycles (taken + 255) taken)
    (some : 0 < taken) : ledger.Lapped := by
  obtain ⟨rfl, writes⟩ := And.intro silent.taken silent.writes
  refine ⟨silent.waiting, silent.head, some, ?_, ?_⟩
  · omega
  · omega

end Ledger

variable {system : System} {owner : Role} {channel : UInt8} {ackTimeout : Nat} {pool : TimerPool}

theorem moved_delivered_of_short
    (made : System.setUp owner d channel ackTimeout pool memory = .ok system)
    (faultless : ¬ surroundings.Faulty) (calls : List Call) (short : calls.length ≤ 256) :
    (system.after surroundings (calls.map .call)).moved <+:
      (system.after surroundings (calls.map .call)).delivered := by
  obtain ⟨_, _, _, sound⟩ := (Ledger.start_sound (setUp_fresh made)).unlapped faultless calls
    fun earlier inside lapped => by
      have long := lapped.long
      have inside := inside.length_le
      rw [List.length_append, List.length_singleton] at inside
      omega
  have same : ((Ledger.start system).after surroundings calls).system =
    system.after surroundings (calls.map .call) := Ledger.after_system _ calls
  rw [← same]
  exact sound.moved_delivered

/-- Every frame that leaves the queue was given to the application, in every run in which `process` is
never called in a lapped state, and in no other run. -/
theorem moved_delivered_iff
    (made : System.setUp owner d channel ackTimeout pool memory = .ok system)
    (faultless : ¬ surroundings.Faulty) (calls : List Call) :
    (∀ earlier, earlier <+: calls → (system.after surroundings (earlier.map .call)).moved <+:
        (system.after surroundings (earlier.map .call)).delivered) ↔
      ∀ earlier, earlier ++ [.process] <+: calls →
        ¬ ((Ledger.start system).after surroundings earlier).Lapped := by
  have ended := (Ledger.start_sound (setUp_fresh made)).after faultless calls
  simp only [Ledger.after_system] at ended
  exact ended

/-- A frame that goes through, and a second one that is written. -/
def opening : List Call := [.accept ⟨1, false, [10]⟩, .process, .consume, .process,
  .accept ⟨2, false, [11]⟩, .process]

theorem opening_silent : (System.setUp .producer ⟨.ssdoReceive, 0, 16⟩ 0 1 .empty
    (.zeroed 0 25)).toOption.all (fun system =>
      let ledger := (Ledger.start system).after ⟨fun _ => false, fun _ => Surroundings.plainAnswer⟩ opening
      decide (ledger.system.producer.1.phase = .waitForAcknowledge ∧
        ledger.system.producer.1.pending = .head 2 ∧
        ledger.system.producer.2.get? ledger.system.producer.1.timer = some (Timer.after 1 0) ∧
        ledger.writes = 2 ∧ ledger.taken = 1)) = true := by
  decide +kernel

/-- The second frame is written 255 times and leaves the queue. -/
theorem moved_delivered_iff_lapped :
    let surroundings : Surroundings := ⟨fun _ => false, fun _ => Surroundings.plainAnswer⟩
    ∃ system, System.setUp .producer ⟨.ssdoReceive, 0, 16⟩ 0 1 .empty (.zeroed 0 25) = .ok system ∧
      ¬ ∀ earlier, earlier <+: opening ++ (List.replicate 254 (Ledger.round 1)).flatten ++ [.process] →
        (system.after surroundings (earlier.map .call)).moved <+:
          (system.after surroundings (earlier.map .call)).delivered := by
  intro surroundings
  have faultless : ¬ surroundings.Faulty := fun ⟨_, fails⟩ => Bool.false_ne_true fails
  obtain ⟨system, made⟩ : ∃ system, System.setUp .producer ⟨.ssdoReceive, 0, 16⟩ 0 1 .empty
    (.zeroed 0 25) = .ok system := ⟨_, rfl⟩
  refine ⟨system, made, fun all => ?_⟩
  have apart := (moved_delivered_iff made faultless _).mp all _ (List.prefix_refl _)
  obtain ⟨_, _, _, sound⟩ := (Ledger.start_sound (setUp_fresh made)).unlapped faultless opening
    fun earlier inside lapped => by
      have long := lapped.long
      have short := inside.length_le
      rw [List.length_append] at short
      exact absurd (Nat.lt_of_lt_of_le (Nat.lt_add_right 1 long) short) (by decide)
  have left := opening_silent
  rw [made] at left
  obtain ⟨waiting, head, timer, writes, taken⟩ := of_decide_eq_true left
  have silent : Ledger.Silent _ _ 1 0 2 1 :=
    ⟨⟨_, _, _, sound⟩, waiting, ⟨_, head⟩, timer, writes, taken⟩
  rw [Ledger.after_append] at apart
  exact apart ((silent.rounds faultless (by decide) 254 (by decide)).lapped (by decide))

end NodeLink.Ssdo.Inbound

import Mathlib.Control.Monad.Basic
import NodeLink.Proofs.Log
import NodeLink.Proofs.Logbook.Attention
import NodeLink.Proofs.TripleBuffer.Connection

/-! The timeout of the logbook, over any run in which the consumer acknowledges whenever it likes. The
ticks that find a record unacknowledged are counted from its post on, and each time the limit is reached
is an error. -/
namespace NodeLink.Logbook

open TripleBuffer Producer

def Request.serve : Request → Action Medium State Unit
  | .post entry => Producer.post entry
  | .tick => Producer.tick

/-- A call: the memory before and after it, what its looks at the consumer's word told, and its result. -/
structure Event where
  request : Request
  before : SharedMemory
  looks : List Bool
  after : SharedMemory
  result : Except Fault Unit

namespace Event

/-- A record was posted. -/
def posts (event : Event) : Bool :=
  match event.request, event.result with
  | .post _, .ok () => true
  | _, _ => false

/-- A tick found the record unacknowledged. -/
def finds (event : Event) : Bool :=
  match event.request with
  | .post _ => false
  | .tick => event.looks.contains false

end Event

/-- How many ticks found the record unacknowledged since it was posted. -/
def found (log : List Event) : Nat := (log.reverse.takeWhile fun event => !event.posts).countP Event.finds

/-- What is known of a call, given the calls before it. -/
structure Event.Fits (d : Descriptor) (limit : Nat) (before : List Event) (event : Event) : Prop where
  timed : event.request = .tick → event.result =
    if event.finds ∧ (found before + 1) % max limit 1 = 0 then .error (.error .timeout) else .ok ()
  settled : event.request = .tick → settled d event.before = true → event.finds = false
  unsettled : event.request = .tick → Logbook.settled d event.after = false → event.finds = true
  posted : ∀ entry, event.request = .post entry → event.result = .ok () ∨ event.result = .error .busy
  /-- The record stays as it is, and acknowledged, until another one is posted. -/
  kept : event.posts = false →
    SharedMemory.SameOutside (· = d.consumerAddress) event.before event.after ∧
      (Logbook.settled d event.before = true → Logbook.settled d event.after = true)

theorem Event.Fits.prompt {d : Descriptor} {limit : Nat} {before : List Event} {event : Event}
    (fits : event.Fits d limit before) (was : Logbook.settled d event.before = true) :
    event.result ≠ .error (.error .timeout) := by
  cases called : event.request with
  | post entry => rcases fits.posted entry called with ended | ended <;> simp [ended]
  | tick => simp [fits.timed called, fits.settled called was]

def Timed (d : Descriptor) (limit : Nat) (log : List Event) : Prop := Throughout (Event.Fits d limit) log

/-- The producer's end and the memory, with the calls so far. -/
structure Desk where
  producer : State
  memory : SharedMemory
  moment : Nat
  log : List Event

inductive Turn where
  | call (request : Request)
  | touch (touch : Touch)

namespace Desk

/-- The producer's end right after the buffer was made, on the processor that owns its memory. -/
def setUp (owner : Role) (d : Descriptor) (timeout : Nat) (pool : TimerPool) (memory : SharedMemory) :
    Except Fault Desk :=
  match (connect owner d).inWords.run SharedMemory.onWords memory with
  | (.error fault, _) => .error fault
  | (.ok (producing, _), memory) =>
    match Producer.new producing timeout pool with
    | .error error => .error (.error error)
    | .ok producer => .ok ⟨producer, memory, 0, []⟩

def call (d : Descriptor) (touches : Nat → List Touch) (desk : Desk) (request : Request) : Desk :=
  let outcome := (request.serve desk.producer).inWords.run (Table.onWords d touches)
    ⟨desk.memory, desk.moment, []⟩
  { producer := outcome.1.2
    memory := outcome.2.memory
    moment := outcome.2.moment
    log := desk.log ++ [⟨request, desk.memory, outcome.2.looks, outcome.2.memory, outcome.1.1⟩] }

def turn (d : Descriptor) (touches : Nat → List Touch) (desk : Desk) : Turn → Desk
  | .call request => desk.call d touches request
  | .touch touch => { desk with memory := touch.on d desk.memory }

def after (d : Descriptor) (touches : Nat → List Touch) (desk : Desk) (turns : List Turn) : Desk :=
  turns.foldl (turn d touches) desk

end Desk

variable {d : Descriptor} {limit : Nat} {touches : Nat → List Touch} {log : List Event} {event : Event}
  {desk : Desk}

theorem found_posted (posted : event.posts = true) : found (log ++ [event]) = 0 := by
  simp [found, posted]

theorem found_append (still : event.posts = false) :
    found (log ++ [event]) = found log + if event.finds then 1 else 0 := by
  simp [found, still, List.countP_cons]

theorem expires_iff (limit count : Nat) :
    limit ≤ count % max limit 1 + 1 ↔ (count + 1) % max limit 1 = 0 := by
  have below : count % max limit 1 < max limit 1 := Nat.mod_lt _ (by omega)
  rw [← Nat.mod_add_mod]
  generalize count % max limit 1 = rest at below
  by_cases last : rest + 1 = max limit 1
  · rw [last, Nat.mod_self]
    omega
  · rw [Nat.mod_eq_of_lt (by omega)]
    omega

theorem mod_of_running {limit count : Nat} (running : (count + 1) % max limit 1 ≠ 0) :
    (count + 1) % max limit 1 = count % max limit 1 + 1 := by
  have below : count % max limit 1 < max limit 1 := Nat.mod_lt _ (by omega)
  have early := (expires_iff limit count).not.mpr running
  rw [← Nat.mod_add_mod, Nat.mod_eq_of_lt (by omega)]

/-- What holds between two calls: the timer runs since the record was posted, or it was found that the
record is acknowledged. -/
structure Desk.Sound (d : Descriptor) (limit : Nat) (desk : Desk) : Prop where
  equipped : Equipped d desk.producer.1
  shown : ∃ shared : Shared d, shared.memory = desk.memory
  clock : Clock (Timer.after limit (found desk.log % max limit 1)) desk.producer ∨
    Clock ⟨limit, .stopped⟩ desk.producer ∧ settled d desk.memory = true
  timed : Timed d limit desk.log

/-- A record that was not acknowledged is one that the timer runs for. -/
theorem Desk.Sound.running {timer : Timer} (sound : desk.Sound d limit)
    (clock : Clock timer desk.producer) (unsettled : settled d desk.memory ≠ true) :
    timer = Timer.after limit (found desk.log % max limit 1) := by
  rcases sound.clock with running | ⟨_, was⟩
  · exact Option.some.inj (clock.symm.trans running)
  · exact absurd was unsettled

theorem Desk.Sound.stopped {timer : Timer} (sound : desk.Sound d limit)
    (clock : Clock timer desk.producer) (stopped : timer.phase = .stopped) :
    timer = ⟨limit, .stopped⟩ ∧ settled d desk.memory = true := by
  rcases sound.clock with running | ⟨still, was⟩
  · cases clock.symm.trans running
    rw [Timer.after] at stopped
    split at stopped <;> contradiction
  · exact ⟨Option.some.inj (clock.symm.trans still), was⟩

theorem Desk.Sound.clocked (sound : desk.Sound d limit) :
    ∃ timer, Clock timer desk.producer ∧ timer.limit = limit := by
  rcases sound.clock with running | ⟨still, _⟩
  · exact ⟨_, running, rfl⟩
  · exact ⟨_, still, rfl⟩

theorem new_equipped {buffer : TripleBuffer} {pool : TimerPool} {state : State} (produces : buffer.Produces d)
    (made : Producer.new buffer limit pool = .ok state) :
    Equipped d state.1 ∧ Clock ⟨limit, .stopped⟩ state := by
  unfold Producer.new at made
  split at made
  · contradiction
  rename_i roomy
  have opened : Channel.Sender.new buffer 0 = .ok ⟨buffer, 0, .first⟩ := if_pos produces.role
  rw [opened] at made
  cases created : pool.create limit with
  | error error =>
    rw [created] at made
    contradiction
  | ok place =>
    rw [created] at made
    cases made
    exact ⟨⟨produces, Nat.le_of_not_lt roomy⟩, TimerPool.get?_of_create created⟩

theorem setUp_sound {owner : Role} {pool : TimerPool} {memory : SharedMemory}
    (made : Desk.setUp owner d limit pool memory = .ok desk) : desk.Sound d limit := by
  unfold Desk.setUp at made
  split at made
  · contradiction
  rename_i producing consuming after connected
  obtain ⟨produces, _, shows⟩ := connected_shows connected
  let shared : Shared d := ⟨after, [], 0, ⟨0, ControlWord.noSlot⟩, none, shows, by rintro _ ⟨⟩⟩
  split at made
  · contradiction
  rename_i producer opened
  cases made
  obtain ⟨equipped, clock⟩ := new_equipped produces opened
  exact {
    equipped
    shown := ⟨shared, rfl⟩
    clock := .inr ⟨clock, (settled_iff shared).mpr rfl⟩
    timed := throughout_nil }

namespace Desk

variable {shared : Shared d}

/-- A call leaves what its operation guarantees. -/
theorem call_ends (touches : Nat → List Touch) (request : Request)
    (post : Except Fault Unit → State → Scene d → Prop) (same : shared.memory = desk.memory)
    (ends : request.serve.Guarantees Scene.Others (Scene.Access d) desk.producer ⟨shared, []⟩
      (fun _ => post (.ok ())) fun fault => post (.error fault)) :
    ∃ result left final moment, post result left final ∧ desk.call d touches request =
      ⟨left, final.shared.memory, moment,
        desk.log ++ [⟨request, desk.memory, final.looks, final.shared.memory, result⟩]⟩ := by
  have sees : Scene.Sees ⟨shared, []⟩ ⟨desk.memory, desk.moment, []⟩ := ⟨same, rfl⟩
  obtain ⟨final, ⟨memory, looks⟩, ended⟩ := Scene.run_among sees ends
  unfold Desk.call
  generalize (request.serve desk.producer).inWords.run (Table.onWords d touches) _ = outcome
    at memory looks ended
  obtain ⟨⟨result, left⟩, table⟩ := outcome
  refine ⟨result, left, final, table.moment, ?_, ?_⟩
  · cases result <;> exact ended
  · rw [memory, looks]

theorem grows (desk : Desk) (turns : List Turn) :
    ∃ news, (desk.after d touches turns).log = desk.log ++ news := by
  induction turns generalizing desk with
  | nil => exact ⟨[], (List.append_nil _).symm⟩
  | cons turn rest ih =>
    obtain ⟨news, grown⟩ := ih (desk.turn d touches turn)
    cases turn with
    | touch touch => exact ⟨news, grown⟩
    | call request => exact ⟨_, grown.trans (List.append_assoc _ _ _)⟩

namespace Sound

theorem lasts (sound : desk.Sound d limit) (was : settled d desk.memory = true) (touch : Touch) :
    settled d (touch.on d desk.memory) = true := by
  obtain ⟨shared, same⟩ := sound.shown
  obtain ⟨later, changed, touched⟩ := touch_shared shared touch
  have lasts := changed.keeps.2
  rw [touched, same] at lasts
  exact lasts was

theorem touch (sound : desk.Sound d limit) (touch : Touch) :
    (desk.turn d touches (.touch touch)).Sound d limit where
  equipped := sound.equipped
  shown := by
    obtain ⟨shared, same⟩ := sound.shown
    obtain ⟨later, _, touched⟩ := touch_shared shared touch
    exact ⟨later, touched.trans (congrArg (touch.on d ·) same)⟩
  clock := sound.clock.imp_right fun ⟨clock, was⟩ => ⟨clock, sound.lasts was touch⟩
  timed := sound.timed

theorem tick (sound : desk.Sound d limit) : (desk.call d touches .tick).Sound d limit := by
  obtain ⟨shared, same⟩ := sound.shown
  obtain ⟨timer, clock, limited⟩ := sound.clocked
  obtain ⟨result, left, final, moment, ⟨producer, changed, ticked⟩, called⟩ :=
    call_ends touches .tick (TickEnds timer desk.producer ⟨shared, []⟩) same
      (tick_ends clock sound.equipped)
  have acked : settled d desk.memory = true ↔ Acked shared := same ▸ settled_iff shared
  have kept := changed.keeps
  rw [same] at kept
  have equipped : Equipped d left.1 := producer ▸ sound.equipped
  rw [called]
  generalize told : final.looks = looks at ticked ⊢
  cases ticked with
  | rests stopped clock' silent =>
    obtain ⟨rfl, was⟩ := sound.stopped clock stopped
    obtain rfl := told.symm.trans silent
    refine ⟨equipped, ⟨_, rfl⟩, .inr ⟨clock', kept.2 was⟩, sound.timed.append ?_⟩
    refine ⟨fun _ => ?_, fun _ _ => rfl, fun _ unsettled => ?_, nofun, fun _ => kept⟩
    · exact (if_neg (by simp [Event.finds])).symm
    · rw [kept.2 was] at unsettled
      contradiction
  | stops acked' looked clock' =>
    obtain rfl := told.symm.trans looked
    have settled := (settled_iff _).mpr acked'
    refine ⟨equipped, ⟨_, rfl⟩, .inr ⟨limited ▸ clock', settled⟩, sound.timed.append ?_⟩
    refine ⟨fun _ => ?_, fun _ _ => rfl, fun _ unsettled => ?_, nofun, fun _ => kept⟩
    · exact (if_neg (by simp [Event.finds])).symm
    · rw [settled] at unsettled
      contradiction
  | counts unacked looked clock' running =>
    obtain rfl := sound.running clock (mt acked.mp unacked)
    obtain rfl := told.symm.trans looked
    rw [Timer.tick_after, Ne, Timer.expired_iff, expires_iff] at running
    rw [Timer.tick_after, ← mod_of_running running] at clock'
    refine ⟨equipped, ⟨_, rfl⟩, .inl ?_, sound.timed.append ?_⟩
    · rw [found_append rfl]
      exact clock'
    · refine ⟨fun _ => (if_neg fun due => running due.2).symm, fun _ was => ?_, fun _ _ => rfl, nofun,
        fun _ => kept⟩
      exact absurd (acked.mp was) unacked
  | expires unacked looked clock' expired =>
    obtain rfl := sound.running clock (mt acked.mp unacked)
    obtain rfl := told.symm.trans looked
    rw [Timer.start_eq, Timer.limit_tick] at clock'
    rw [Timer.tick_after, Timer.expired_iff, expires_iff] at expired
    replace clock' : Clock (Timer.after limit ((found desk.log + 1) % max limit 1)) left := by
      rw [expired]
      exact clock'
    refine ⟨equipped, ⟨_, rfl⟩, .inl ?_, sound.timed.append ?_⟩
    · rw [found_append rfl]
      exact clock'
    · refine ⟨fun _ => (if_pos ⟨rfl, expired⟩).symm, fun _ was => ?_, fun _ _ => rfl, nofun,
        fun _ => kept⟩
      exact absurd (acked.mp was) unacked

theorem post (sound : desk.Sound d limit) (entry : Entry) :
    (desk.call d touches (.post entry)).Sound d limit := by
  obtain ⟨shared, same⟩ := sound.shown
  obtain ⟨timer, clock, rfl⟩ := sound.clocked
  obtain ⟨result, left, final, moment, ended, called⟩ := call_ends touches (.post entry)
    (fun result left after => match result with
      | .ok () => Equipped d left.1 ∧ Clock (Timer.after timer.limit 0) left
      | .error fault => fault = .busy ∧ left = desk.producer ∧ ByReader shared after.shared)
    same (post_ends entry clock sound.equipped)
  rw [called]
  cases result with
  | ok _ =>
    obtain ⟨equipped, clock⟩ := ended
    refine ⟨equipped, ⟨_, rfl⟩, .inl ?_, sound.timed.append ?_⟩
    · rw [found_posted rfl, Nat.zero_mod]
      exact clock
    · exact ⟨nofun, nofun, nofun, fun _ _ => .inl rfl, nofun⟩
  | error fault =>
    obtain ⟨rfl, rfl, changed⟩ := ended
    have kept := changed.keeps
    rw [same] at kept
    refine ⟨sound.equipped, ⟨_, rfl⟩, ?_, sound.timed.append ?_⟩
    · rw [found_append rfl]
      exact sound.clock.imp_right fun ⟨stopped, was⟩ => ⟨stopped, kept.2 was⟩
    · exact ⟨nofun, nofun, nofun, fun _ _ => .inr rfl, fun _ => kept⟩

theorem turn (sound : desk.Sound d limit) : (turn : Turn) → (desk.turn d touches turn).Sound d limit
  | .call (.post entry) => sound.post entry
  | .call .tick => sound.tick
  | .touch touch => sound.touch touch

theorem after (sound : desk.Sound d limit) (turns : List Turn) :
    (desk.after d touches turns).Sound d limit := by
  induction turns generalizing desk with
  | nil => exact sound
  | cons turn rest ih => exact ih (sound.turn turn)

/-- Once the record is acknowledged no call times out, until another one is posted. -/
theorem silent (sound : desk.Sound d limit) (was : settled d desk.memory = true) (turns : List Turn) :
    ∃ news, (desk.after d touches turns).log = desk.log ++ news ∧
      ((∀ event ∈ news, event.posts = false) →
        ∀ event ∈ news, event.result ≠ .error (.error .timeout)) := by
  induction turns generalizing desk with
  | nil => exact ⟨[], (List.append_nil _).symm, fun _ => nofun⟩
  | cons turn rest ih =>
    cases turn with
    | touch touch => exact ih (sound.touch touch) (sound.lasts was touch)
    | call request =>
      have later : (desk.call d touches request).Sound d limit := sound.turn (.call request)
      obtain ⟨event, log, before, after⟩ : ∃ event, (desk.call d touches request).log =
          desk.log ++ [event] ∧ event.before = desk.memory ∧
          event.after = (desk.call d touches request).memory := ⟨_, rfl, rfl, rfl⟩
      have fits := later.timed desk.log event [] log
      by_cases posted : event.posts = true
      · obtain ⟨news, grown⟩ := grows (desk.call d touches request) rest
        refine ⟨event :: news, ?_, fun quiet => ?_⟩
        · exact grown.trans (by rw [log, List.append_assoc]; rfl)
        · rw [quiet event List.mem_cons_self] at posted
          contradiction
      · rw [Bool.not_eq_true] at posted
        obtain ⟨news, grown, quiet⟩ := ih later (after ▸ (fits.kept posted).2 (before ▸ was))
        refine ⟨event :: news, ?_, fun unposted => ?_⟩
        · exact grown.trans (by rw [log, List.append_assoc]; rfl)
        · refine List.forall_mem_cons.mpr ⟨fits.prompt (before ▸ was), quiet ?_⟩
          exact fun other member => unposted other (List.mem_cons_of_mem _ member)

end Sound

end Desk

/-- Each time a record waited for as long as the limit is an error, and nothing else is. No call but the next
post changes the record. -/
theorem timeouts_recur {owner : Role} {pool : TimerPool} {memory : SharedMemory}
    (made : Desk.setUp owner d limit pool memory = .ok desk) (turns : List Turn) :
    Timed d limit (desk.after d touches turns).log ∧
      (settled d (desk.after d touches turns).memory = true → ∀ more, ∃ news,
        ((desk.after d touches turns).after d touches more).log = (desk.after d touches turns).log ++ news ∧
          ((∀ event ∈ news, event.posts = false) →
            ∀ event ∈ news, event.result ≠ .error (.error .timeout))) := by
  have sound : (desk.after d touches turns).Sound d limit := (setUp_sound made).after turns
  exact ⟨sound.timed, sound.silent⟩

/-- A record that waits for five ticks and is acknowledged between two accesses of the sixth. -/
theorem timeouts_recur_late :
    let touches : Nat → List Touch := fun moment => if moment = 25 then [.claim 0, .acknowledge 0] else []
    let turns : List Turn := [.call (.post ⟨2, 7, 1, 0⟩)] ++ List.replicate 5 (.call .tick) ++
      [.call (.post ⟨2, 7, 2, 0⟩), .call .tick, .call .tick]
    ∃ desk, Desk.setUp .producer ⟨.logbook, 0, 16⟩ 2 .empty (.zeroed 0 25) = .ok desk ∧
      (desk.after ⟨.logbook, 0, 16⟩ touches turns).log.map (fun event => (event.looks, event.result)) =
        [([true, true], .ok ()), ([false], .ok ()), ([false], .error (.error .timeout)), ([false], .ok ()),
          ([false], .error (.error .timeout)), ([false], .ok ()), ([false], .error .busy), ([true], .ok ()),
          ([], .ok ())] ∧
      Timed ⟨.logbook, 0, 16⟩ 2 (desk.after ⟨.logbook, 0, 16⟩ touches turns).log :=
  ⟨_, rfl, by decide +kernel, (@timeouts_recur ⟨.logbook, 0, 16⟩ 2 _ _ .producer .empty (.zeroed 0 25)
    rfl _).1⟩

end NodeLink.Logbook

import Mathlib.Data.List.Induction
import NodeLink.Proofs.Ssdo.OutboundLife
import NodeLink.Ssdo.Outbound

/-! When a frame to the network is offered again. An offer follows the one before once the timer's cycles
have passed, and a frame whose peer is not found is dropped at the last offer. All this is told by what
happened since the frame was posted. -/
namespace NodeLink.Ssdo.Outbound

/-- What the answer to an offer leads to, after so many offers of the frame: how the call ends, and what
the end waits for then. -/
def verdict (tried : Nat) : Except Error Handoff → Except Fault Unit × Phase
  | .ok .queued => (.ok (), .waitUntilSent)
  | .ok .addressPending =>
    if tried < maxRetries then (.error .busy, .waitForRetry)
    else (.error (.error .transport), .waitForFrame)
  | .error error => (.error (.error error), .waitForFrame)

/-- What was seen of the frames, and the cycles that were counted. With a call of `process` stands what the
end waits for after it. -/
inductive Event where
  | posted (payload : Bytes)
  | processed (offers : List Offer) (result : Except Fault Unit) (left : Phase)
  | finished
  | ticked
  deriving DecidableEq

namespace Event

def of (left : Phase) : Sight → Event
  | .posted payload => posted payload
  | .processed offers result => processed offers result left
  | .finished => finished

def offers : Event → List Offer
  | processed offers _ _ => offers
  | _ => []

theorem offers_of (left : Phase) (sight : Sight) : (of left sight).offers = sight.offers := by
  cases sight <;> rfl

end Event

def tries (events : List Event) : List Offer := events.flatMap Event.offers

def ticks (events : List Event) : Nat := events.count .ticked

/-- The cycles counted since the last offer. -/
def waited (events : List Event) : Nat := ticks (events.reverse.takeWhile fun event => event.offers.isEmpty)

variable {cycles : Nat} {channel : UInt8} {payload : Bytes} {events since : List Event} {event : Event}
  {before after progress : Progress}

theorem tries_append (first second : List Event) : tries (first ++ second) = tries first ++ tries second :=
  List.flatMap_append

theorem tries_singleton (event : Event) : tries [event] = event.offers := by
  rw [tries, List.flatMap_cons, List.flatMap_nil, List.append_nil]

theorem waited_ticked (events : List Event) : waited (events ++ [.ticked]) = waited events + 1 := by
  simp [waited, ticks, Event.offers]

theorem waited_quiet (quiet : event.offers = []) (passing : event ≠ .ticked) :
    waited (events ++ [event]) = waited events := by
  simp [waited, ticks, quiet, passing]

theorem waited_offered (offered : event.offers ≠ []) : waited (events ++ [event]) = 0 := by
  simp [waited, ticks, offered]

/-- The cycles are counted from the last offer on. -/
theorem waited_since {early middle : List Event} (offered : event.offers ≠ []) (quiet : tries middle = []) :
    waited (early ++ event :: middle) = ticks middle := by
  induction middle using List.reverseRecOn with
  | nil => exact waited_offered offered
  | append_singleton middle last ih =>
    rw [tries_append, List.append_eq_nil_iff, tries_singleton] at quiet
    rw [← List.cons_append, ← List.append_assoc, ticks, List.count_append, ← ticks, ← ih quiet.1]
    by_cases counted : last = .ticked
    · rw [counted, waited_ticked]
      rfl
    · rw [waited_quiet quiet.2 counted, List.count_singleton, beq_false_of_ne counted]
      rfl

/-- A call of `process` that finds a frame waiting offers it when it is time, and not before. -/
structure Timely (cycles : Nat) (since : List Event) (offers : List Offer) (result : Except Fault Unit)
    (left : Phase) : Prop where
  early : offers = [] → tries since = [] ∨ waited since < cycles
  due : offers ≠ [] → tries since = [] ∨ cycles ≤ waited since
  answered : ∀ offer ∈ offers, (result, left) = verdict (tries since).length offer.answer

/-- What may happen next to a frame. -/
inductive Step (cycles : Nat) (channel : UInt8) (payload : Bytes) (since : List Event) :
    Progress → Event → Progress → Prop where
  | ticked {progress : Progress} : Step cycles channel payload since progress .ticked progress
  | waiting {offers : List Offer} {result : Except Fault Unit} {left : Phase} {after : Progress} :
      Turn channel payload .waiting (.processed offers result) after →
        Timely cycles since offers result left →
          Step cycles channel payload since .waiting (.processed offers result left) after
  | decided {before after : Progress} {sight : Sight} {left : Phase} : before ≠ .waiting →
      Turn channel payload before sight after →
        Step cycles channel payload since before (.of left sight) after

/-- What happened since a frame was posted, up to where it has come. -/
inductive Course (cycles : Nat) (channel : UInt8) (payload : Bytes) : List Event → Progress → Prop where
  | posted : Course cycles channel payload [] .waiting
  | step {since : List Event} {event : Event} {before after : Progress} :
      Course cycles channel payload since before → Step cycles channel payload since before event after →
        Course cycles channel payload (since ++ [event]) after

namespace Step

theorem quiet (step : Step cycles channel payload since before event after) (decided : before ≠ .waiting) :
    event.offers = [] ∧ after ≠ .waiting := by
  cases step with
  | ticked => exact ⟨rfl, decided⟩
  | waiting => contradiction
  | decided _ turn =>
    rw [Event.offers_of]
    exact turn.quiet decided

theorem presents (step : Step cycles channel payload since before event after) :
    ∀ offer ∈ event.offers, offer.channel = channel ∧ offer.payload = payload := by
  cases step with
  | ticked => nofun
  | waiting turn => exact turn.presents
  | decided _ turn =>
    rw [Event.offers_of]
    exact turn.presents

theorem unposted (step : Step cycles channel payload since before event after) :
    ∀ other, event ≠ .posted other := by
  cases step with
  | ticked | waiting => nofun
  | decided _ turn => cases turn <;> nofun

/-- A frame waits until it is offered. -/
theorem waits (step : Step cycles channel payload since .waiting event after) (quiet : event.offers = []) :
    after = .waiting := by
  cases step with
  | ticked => rfl
  | waiting turn => cases turn <;> first | rfl | contradiction
  | decided decided => contradiction

/-- A call of `process` passes a waiting frame over while it is early. -/
theorem early {result : Except Fault Unit} {left : Phase}
    (step : Step cycles channel payload since .waiting (.processed [] result left) after) :
    tries since = [] ∨ waited since < cycles := by
  generalize same : Event.processed [] result left = event at step
  cases step with
  | ticked => cases same
  | waiting _ timely =>
    cases same
    exact timely.early rfl
  | decided decided => contradiction

/-- A call of `process` that offers nothing fails with no error. -/
theorem passes {result : Except Fault Unit} {left : Phase}
    (step : Step cycles channel payload since before (.processed [] result left) after) :
    result = .ok () ∨ result = .error .busy := by
  generalize same : Event.processed [] result left = event at step
  cases step with
  | ticked => cases same
  | waiting turn =>
    cases same
    cases turn with
    | wait => exact .inr rfl
    | rest => exact .inl rfl
  | decided decided turn =>
    cases turn with
    | finish => cases same
    | wait | busy =>
      cases same
      exact .inr rfl
    | complete | rest =>
      cases same
      exact .inl rfl
    | pending | queue | drop => contradiction

/-- An offer is made of a waiting frame when it is time, and may have to be repeated. -/
theorem offered (step : Step cycles channel payload since before event after)
    (offered : event.offers ≠ []) :
    before = .waiting ∧ ∃ offer result left, event = .processed [offer] result left ∧
      (tries since = [] ∨ cycles ≤ waited since) ∧
      (result, left) = verdict (tries since).length offer.answer ∧
      (after = .waiting ↔ offer.answer = .ok .addressPending ∧ (tries since).length < maxRetries) := by
  cases step with
  | ticked => contradiction
  | decided decided turn =>
    rw [Event.offers_of] at offered
    exact absurd (turn.quiet decided).1 offered
  | waiting turn timely =>
    refine ⟨rfl, ?_⟩
    cases turn with
    | wait => contradiction
    | rest closed => cases closed
    | queue =>
      have answered := timely.answered _ List.mem_cons_self
      exact ⟨_, _, _, rfl, timely.due offered, answered, nofun, nofun⟩
    | drop answer error =>
      have answered := timely.answered _ List.mem_cons_self
      refine ⟨_, _, _, rfl, timely.due offered, answered, nofun, ?_⟩
      rintro ⟨rfl, few⟩
      rw [verdict, if_pos few] at answered
      cases answered
    | pending =>
      have answered := timely.answered _ List.mem_cons_self
      refine ⟨_, _, _, rfl, timely.due offered, answered, fun _ => ⟨rfl, ?_⟩, fun _ => rfl⟩
      by_contra many
      rw [verdict, if_neg many] at answered
      cases answered

end Step

/-- When and how often a frame is offered, told by what happened since it was posted. -/
structure Retried (cycles : Nat) (channel : UInt8) (payload : Bytes) (since : List Event) : Prop where
  unposted : ∀ other, .posted other ∉ since
  presents : ∀ offer ∈ tries since, offer.channel = channel ∧ offer.payload = payload
  few : (tries since).length ≤ maxRetries + 1
  single : ∀ event ∈ since, event.offers.length ≤ 1
  /-- Between two offers the timer's cycles pass. -/
  spaced : ∀ early first middle second late, since = early ++ first :: (middle ++ second :: late) →
    first.offers ≠ [] → tries middle = [] → second.offers ≠ [] → cycles ≤ ticks middle
  /-- Once they have passed, the next call of `process` offers the frame again. -/
  prompt : ∀ early offer result left middle offers ending waiting late,
    since = early ++ .processed [offer] result left ::
      (middle ++ .processed offers ending waiting :: late) →
    offer.answer = .ok .addressPending → (tries early).length < maxRetries → tries middle = [] →
    cycles ≤ ticks middle → offers ≠ []
  /-- A frame whose peer is not found is dropped at the last offer and at no other. -/
  answered : ∀ early offer result left late, since = early ++ .processed [offer] result left :: late →
    (result, left) = verdict (tries early).length offer.answer
  undropped : ∀ result left, .processed [] result left ∈ since → result = .ok () ∨ result = .error .busy

namespace Course

theorem append_singleton (course : Course cycles channel payload (since ++ [event]) after) :
    ∃ before, Course cycles channel payload since before ∧
      Step cycles channel payload since before event after := by
  generalize same : since ++ [event] = all at course
  cases course with
  | posted => exact absurd same (List.concat_ne_nil _ _)
  | step course step =>
    obtain ⟨rfl, last⟩ := List.append_inj' same rfl
    cases last
    exact ⟨_, course, step⟩

/-- What happened up to some moment is a course, and so is what happened next. -/
theorem split {early late : List Event}
    (course : Course cycles channel payload (early ++ event :: late) progress) :
    ∃ before after, Course cycles channel payload early before ∧
      Step cycles channel payload early before event after := by
  induction late using List.reverseRecOn generalizing progress with
  | nil =>
    obtain ⟨before, course, step⟩ := course.append_singleton
    exact ⟨before, progress, course, step⟩
  | append_singleton late last ih =>
    rw [← List.cons_append, ← List.append_assoc] at course
    obtain ⟨_, course, _⟩ := course.append_singleton
    exact ih course

theorem few (course : Course cycles channel payload since progress) :
    (tries since).length ≤ maxRetries + 1 ∧
      (progress = .waiting → (tries since).length ≤ maxRetries) := by
  induction course with
  | posted => exact ⟨Nat.zero_le _, fun _ => Nat.zero_le _⟩
  | @step since event before after course step ih =>
    rw [tries_append, tries_singleton, List.length_append]
    by_cases quiet : event.offers = []
    · rw [quiet]
      refine ⟨ih.1, fun waiting => ih.2 ?_⟩
      by_contra decided
      exact (step.quiet decided).2 waiting
    · obtain ⟨rfl, offer, result, left, rfl, _, _, again⟩ := step.offered quiet
      refine ⟨Nat.succ_le_succ (ih.2 rfl), fun waiting => (again.mp waiting).2⟩

/-- A frame that is to be offered again waits until it is. -/
theorem waits {early middle : List Event} {offer : Offer} {result : Except Fault Unit} {left : Phase}
    (course : Course cycles channel payload (early ++ .processed [offer] result left :: middle) progress)
    (pending : offer.answer = .ok .addressPending) (few : (tries early).length < maxRetries)
    (quiet : tries middle = []) : progress = .waiting := by
  induction middle using List.reverseRecOn generalizing progress with
  | nil =>
    obtain ⟨before, _, step⟩ := course.append_singleton
    obtain ⟨_, _, _, _, same, _, _, again⟩ := step.offered (List.cons_ne_nil _ _)
    cases same
    exact again.mpr ⟨pending, few⟩
  | append_singleton middle last ih =>
    rw [tries_append, List.append_eq_nil_iff, tries_singleton] at quiet
    rw [← List.cons_append, ← List.append_assoc] at course
    obtain ⟨before, course, step⟩ := course.append_singleton
    obtain rfl := ih course quiet.1
    exact step.waits quiet.2

theorem retried (course : Course cycles channel payload since progress) :
    Retried cycles channel payload since where
  unposted other member := by
    obtain ⟨early, late, rfl⟩ := List.append_of_mem member
    obtain ⟨_, _, _, step⟩ := course.split
    exact step.unposted other rfl
  presents := by
    induction course with
    | posted => nofun
    | step course step ih =>
      intro offer member
      rw [tries_append, tries_singleton] at member
      exact (List.mem_append.mp member).elim (ih offer) (step.presents offer)
  few := course.few.1
  single event member := by
    obtain ⟨early, late, rfl⟩ := List.append_of_mem member
    obtain ⟨before, after, _, step⟩ := course.split
    by_cases quiet : event.offers = []
    · rw [quiet]
      exact Nat.zero_le _
    · obtain ⟨_, offer, result, left, rfl, _⟩ := step.offered quiet
      exact Nat.le_refl _
  spaced := by
    rintro early first middle second late rfl offered quiet again
    rw [← List.cons_append, ← List.append_assoc] at course
    obtain ⟨before, after, _, step⟩ := course.split
    obtain ⟨_, _, _, _, _, due, _⟩ := step.offered again
    rw [← waited_since offered quiet]
    refine due.resolve_left fun none => offered ?_
    rw [← List.singleton_append, tries_append, tries_append, tries_singleton] at none
    exact (List.append_eq_nil_iff.mp (List.append_eq_nil_iff.mp none).2).1
  prompt := by
    rintro early offer result left middle _ ending waiting late rfl pending few quiet passed rfl
    rw [← List.cons_append, ← List.append_assoc] at course
    obtain ⟨before, after, course, step⟩ := course.split
    obtain rfl := course.waits pending few quiet
    have waiting := step.early
    have offered : (Event.processed [offer] result left).offers ≠ [] := List.cons_ne_nil _ _
    rw [waited_since offered quiet] at waiting
    refine waiting.elim (fun untried => ?_) (Nat.not_lt_of_le passed)
    rw [tries_append, List.append_eq_nil_iff] at untried
    cases untried.2
  answered := by
    rintro early offer result left late rfl
    obtain ⟨before, after, _, step⟩ := course.split
    obtain ⟨_, _, _, _, same, _, answered, _⟩ := step.offered (List.cons_ne_nil _ _)
    cases same
    exact answered
  undropped result left member := by
    obtain ⟨early, late, rfl⟩ := List.append_of_mem member
    obtain ⟨_, _, _, step⟩ := course.split
    exact step.passes

end Course

end NodeLink.Ssdo.Outbound

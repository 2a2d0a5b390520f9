import Mathlib.Control.Monad.Basic
import NodeLink.Host
import NodeLink.Proofs.Log

/-! What is seen of frames on their way to the network. A frame is offered until the network queues it or
it is dropped; a queued one is sent and then completed. The record of a run is the lives of its frames
one after the other. -/
namespace NodeLink.Ssdo.Outbound

/-- A frame put before the network, and the answer. -/
structure Offer where
  channel : UInt8
  payload : Bytes
  answer : Except Error Handoff
  deriving DecidableEq

def Offer.taken (offer : Offer) : Bool :=
  match offer.answer with
  | .ok .queued => true
  | _ => false

/-- A frame was posted, a call of `process` made offers and ended, or the network sent a frame. -/
inductive Sight where
  | posted (payload : Bytes)
  | processed (offers : List Offer) (result : Except Fault Unit)
  | finished
  deriving DecidableEq

namespace Sight

def offers : Sight → List Offer
  | processed offers _ => offers
  | _ => []

/-- A call of `process` returned an error, which busy is not. -/
def drops : Sight → Bool
  | processed _ (.error (.error _)) => true
  | _ => false

/-- The frame was queued or dropped here. -/
def Decides (sight : Sight) : Prop := sight.drops = true ∨ ∃ offer ∈ sight.offers, offer.taken = true

end Sight

def offered (sights : List Sight) : List Offer := sights.flatMap Sight.offers

inductive Progress where
  | waiting
  | queued
  | sent
  | dropped
  | completed
  deriving DecidableEq

inductive Progress.Over : Progress → Prop where
  | dropped : Over .dropped
  | completed : Over .completed

/-- What may be seen next of a frame. -/
inductive Turn (channel : UInt8) (payload : Bytes) : Progress → Sight → Progress → Prop where
  | wait : Turn channel payload .waiting (.processed [] (.error .busy)) .waiting
  | pending : Turn channel payload .waiting
      (.processed [⟨channel, payload, .ok .addressPending⟩] (.error .busy)) .waiting
  | queue : Turn channel payload .waiting (.processed [⟨channel, payload, .ok .queued⟩] (.ok ())) .queued
  | drop (answer : Except Error Handoff) (error : Error) (refused : answer ≠ .ok .queued) :
      Turn channel payload .waiting (.processed [⟨channel, payload, answer⟩] (.error (.error error)))
        .dropped
  | busy : Turn channel payload .queued (.processed [] (.error .busy)) .queued
  | finish : Turn channel payload .queued .finished .sent
  | complete : Turn channel payload .sent (.processed [] (.ok ())) .completed
  | rest {progress : Progress} (closed : progress.Over) :
      Turn channel payload progress (.processed [] (.ok ())) progress

/-- What was seen of a frame, up to where it has come. -/
inductive Life (channel : UInt8) (payload : Bytes) : List Sight → Progress → Prop where
  | posted : Life channel payload [.posted payload] .waiting
  | turn {sights : List Sight} {sight : Sight} {before after : Progress} :
      Life channel payload sights before → Turn channel payload before sight after →
        Life channel payload (sights ++ [sight]) after

/-- Every offer presents the frame that was posted, and none comes after it was queued or dropped. -/
structure Faithful (channel : UInt8) (payload : Bytes) (life : List Sight) : Prop where
  course : ∃ progress, Life channel payload life progress
  presents : ∀ offer ∈ offered life, offer.channel = channel ∧ offer.payload = payload
  last : ∀ before sight after, life = before ++ sight :: after → sight.Decides → offered after = []

/-- The frame was queued once or dropped by one call, and completed if it was queued. -/
structure Settled (channel : UInt8) (payload : Bytes) (life : List Sight) : Prop
    extends Faithful channel payload life where
  once : (offered life).countP Offer.taken = 1 ∧ life.countP Sight.drops = 0 ∨
    (offered life).countP Offer.taken = 0 ∧ life.countP Sight.drops = 1
  completed : (offered life).countP Offer.taken = 1 →
    ∃ before after, life = before ++ .finished :: .processed [] (.ok ()) :: after

/-- The lives of frames in the order of their posts, all over but perhaps the last one. Before the first
post nothing is offered. -/
def Orderly (channel : UInt8) (log : List Sight) : Prop :=
  ∃ (idle : Nat) (settled : List (Bytes × List Sight)) (last : Option (Bytes × List Sight)),
    log = List.replicate idle (.processed [] (.ok ())) ++ settled.flatMap Prod.snd ++
      (last.map Prod.snd).getD [] ∧
    (∀ frame ∈ settled, Settled channel frame.1 frame.2) ∧
    ∀ frame ∈ last, Faithful channel frame.1 frame.2

variable {channel : UInt8} {payload : Bytes} {sights life : List Sight} {sight : Sight}
  {before after progress : Progress}

theorem offered_append (first second : List Sight) :
    offered (first ++ second) = offered first ++ offered second := List.flatMap_append

theorem offered_singleton (sight : Sight) : offered [sight] = sight.offers := by
  simp only [offered, List.flatMap_cons, List.flatMap_nil, List.append_nil]

theorem Turn.presents (turn : Turn channel payload before sight after) :
    ∀ offer ∈ sight.offers, offer.channel = channel ∧ offer.payload = payload := by
  intro offer member
  cases turn with
  | pending | queue | drop =>
    cases List.mem_singleton.mp member
    exact ⟨rfl, rfl⟩
  | wait | busy | finish | complete | rest => cases member

/-- A frame that was decided on is not offered. -/
theorem Turn.quiet (turn : Turn channel payload before sight after) (decided : before ≠ .waiting) :
    sight.offers = [] ∧ after ≠ .waiting := by
  cases turn with
  | wait | pending | queue | drop => contradiction
  | busy | finish | complete => exact ⟨rfl, nofun⟩
  | rest closed => exact ⟨rfl, decided⟩

theorem Turn.decides (turn : Turn channel payload before sight after) (decides : sight.Decides) :
    after ≠ .waiting := by
  cases turn with
  | wait => exact absurd decides (by simp [Sight.Decides, Sight.drops, Sight.offers])
  | pending => exact absurd decides (by simp [Sight.Decides, Sight.drops, Sight.offers, Offer.taken])
  | queue | drop | busy | finish | complete => nofun
  | rest closed => cases closed <;> nofun

namespace Life

theorem presents (lives : Life channel payload life progress) :
    ∀ offer ∈ offered life, offer.channel = channel ∧ offer.payload = payload := by
  induction lives with
  | posted =>
    intro offer member
    cases member
  | turn lives turn ih =>
    intro offer member
    rw [offered_append, offered_singleton] at member
    cases List.mem_append.mp member with
    | inl earlier => exact ih offer earlier
    | inr last => exact turn.presents offer last

theorem decided (lives : Life channel payload life progress) :
    ∀ before sight after, life = before ++ sight :: after → sight.Decides →
      offered after = [] ∧ progress ≠ .waiting := by
  induction lives with
  | posted =>
    intro before sight after split decides
    cases before with
    | nil =>
      cases split
      exact absurd decides (by simp [Sight.Decides, Sight.drops, Sight.offers])
    | cons first rest =>
      have length := congrArg List.length split
      simp only [List.length_cons, List.length_append, List.length_nil] at length
      omega
  | turn lives turn ih =>
    intro before sight after split decides
    rcases split_last split with ⟨_, rfl, rfl⟩ | ⟨after, rfl, earlier⟩
    · exact ⟨rfl, turn.decides decides⟩
    · obtain ⟨quiet, decided⟩ := ih before sight after earlier decides
      obtain ⟨silent, decided⟩ := turn.quiet decided
      rw [offered_append, quiet, offered_singleton, silent]
      exact ⟨rfl, decided⟩

theorem faithful (lives : Life channel payload life progress) : Faithful channel payload life where
  course := ⟨progress, lives⟩
  presents := lives.presents
  last before sight after split decides := (lives.decided before sight after split decides).1

/-- How often a frame was queued and how often it was dropped. -/
theorem counts (lives : Life channel payload life progress) :
    (offered life).countP Offer.taken = (if progress = .waiting ∨ progress = .dropped then 0 else 1) ∧
      life.countP Sight.drops = if progress = .dropped then 1 else 0 := by
  induction lives with
  | posted => exact ⟨rfl, rfl⟩
  | turn lives turn ih =>
    obtain ⟨taken, dropped⟩ := ih
    rw [offered_append, offered_singleton, List.countP_append, List.countP_append, taken, dropped]
    cases turn with
    | wait | pending | queue | busy | finish | complete => exact ⟨rfl, rfl⟩
    | drop answer error refused =>
      have untaken : Offer.taken ⟨channel, payload, answer⟩ = false := by
        match answer with
        | .ok .queued => contradiction
        | .ok .addressPending | .error _ => rfl
      simp [Sight.offers, Sight.drops, untaken]
    | rest closed => cases closed <;> exact ⟨rfl, rfl⟩

/-- A frame is completed by the call of `process` after the network sent it. -/
theorem closes (lives : Life channel payload life progress) :
    (progress = .sent → ∃ before, life = before ++ [.finished]) ∧
      (progress = .completed →
        ∃ before after, life = before ++ .finished :: .processed [] (.ok ()) :: after) := by
  induction lives with
  | posted => exact ⟨nofun, nofun⟩
  | turn lives turn ih =>
    cases turn with
    | wait | pending | queue | drop | busy => exact ⟨nofun, nofun⟩
    | finish => exact ⟨fun _ => ⟨_, rfl⟩, nofun⟩
    | complete =>
      obtain ⟨before, rfl⟩ := ih.1 rfl
      refine ⟨nofun, fun _ => ⟨before, [], ?_⟩⟩
      rw [List.append_assoc]
      rfl
    | rest closed =>
      cases closed with
      | dropped => exact ⟨nofun, nofun⟩
      | completed =>
        obtain ⟨before, after, rfl⟩ := ih.2 rfl
        refine ⟨nofun, fun _ => ⟨before, after ++ [.processed [] (.ok ())], ?_⟩⟩
        rw [List.append_assoc]
        rfl

theorem settled (lives : Life channel payload life progress) (closed : progress.Over) :
    Settled channel payload life where
  toFaithful := lives.faithful
  once := by
    obtain ⟨taken, dropped⟩ := lives.counts
    rw [taken, dropped]
    cases closed with
    | dropped => exact .inr ⟨rfl, rfl⟩
    | completed => exact .inl ⟨rfl, rfl⟩
  completed queued := by
    rw [lives.counts.1] at queued
    cases closed with
    | dropped => contradiction
    | completed => exact lives.closes.2 rfl

end Life

end NodeLink.Ssdo.Outbound

import NodeLink.Proofs.Async
import NodeLink.Proofs.ConfigurationChannel
import NodeLink.Proofs.Logbook

/-! What the acyclic channels deliver when accesses to the memory fail. All of them take a message before
they acknowledge it. If the acknowledge fails, no later call makes up for it: the producer stays busy, and
what the consumer does after the acknowledge is not done for this message. -/
namespace NodeLink.Acyclic

/-- The acyclic channels. -/
inductive Kind where
  | logbook
  | configuration
  | async
  deriving DecidableEq, Repr

namespace Kind

def channel : Kind → Acyclic
  | logbook => Logbook.acyclic
  | configuration => ConfigurationChannel.acyclic
  | async => Async.acyclic

def terms : (kind : Kind) → Terms kind.channel
  | logbook => Logbook.terms
  | configuration => ConfigurationChannel.terms
  | async => Async.terms

theorem lawful (kind : Kind) : kind.terms.Lawful := by
  cases kind with
  | logbook => exact Logbook.lawful
  | configuration => exact ConfigurationChannel.lawful
  | async => exact Async.lawful

end Kind

/-- After a call in which no access fails, every message that was posted has been handled and the next
one may be posted: unless a call took a message and then failed on the memory. -/
theorem posted_handled_iff (kind : Kind) {owner : Role} {d : Descriptor}
    {options : kind.channel.Options} {memory : SharedMemory} {system : System kind.channel}
    (made : System.setUp kind.channel owner d options memory = .ok system)
    (surroundings : Surroundings) (calls : List (Call kind.channel)) :
    let last := (system.after surroundings calls).process surroundings.calm
    let kept := ∀ sight ∈ last.log, ¬ sight.Loses
    (last.Served ∧ last.ready = .ok true ↔ kept) ∧ (¬ kept → last.ready = .ok false) := by
  intro last kept
  obtain ⟨_, _, before⟩ := System.after_stands surroundings kind.lawful
    (System.setUp_stands kind.lawful made) calls
  obtain ⟨_, _, stands, settles⟩ := System.process_stands surroundings.calm kind.lawful
    before
  obtain ⟨served, ready⟩ := stands.delivered kind.lawful (settles surroundings.not_faulty_calm)
  change last.ready = .ok (decide kept) at ready
  constructor
  · constructor
    · rintro ⟨_, able⟩
      rw [able, Except.ok.injEq, eq_comm, decide_eq_true_iff] at ready
      exact ready
    · intro kept
      rw [decide_eq_true kept] at ready
      exact ⟨served kept, ready⟩
  · intro lossy
    rw [ready, decide_eq_false lossy]

/-- The store of the acknowledge of a record fails. The record is not handed on, and no other one may be
posted. -/
theorem posted_handled_iff_lost :
    let surroundings : Surroundings := ⟨(· == 24), fun _ => Surroundings.plainAnswer⟩
    let calls : List (Call Kind.logbook.channel) := [.serve (.post ⟨1, 2, 3, 4⟩), .process]
    ∃ system, System.setUp Kind.logbook.channel .producer ⟨.logbook, 0, 16⟩ (1, .empty) (.zeroed 0 25) =
        .ok system ∧
      let last := (system.after surroundings calls).process surroundings.calm
      (∃ sight ∈ last.log, sight.Loses) ∧ last.world.events = [] ∧ last.ready = .ok false := by
  intro surroundings calls
  have started : ∃ system, System.setUp Kind.logbook.channel .producer ⟨.logbook, 0, 16⟩ (1, .empty)
        (.zeroed 0 25) = .ok system ∧
      (∃ sight ∈ ((system.after surroundings calls).process surroundings.calm).log, sight.Loses) ∧
      ((system.after surroundings calls).process surroundings.calm).world.events.isEmpty = true :=
    ⟨_, rfl, by decide +kernel, by decide +kernel⟩
  obtain ⟨system, made, lost, quiet⟩ := started
  refine ⟨system, made, lost, List.isEmpty_iff.mp quiet, ?_⟩
  apply (posted_handled_iff .logbook made surroundings calls).2
  intro kept
  obtain ⟨sight, member, loses⟩ := lost
  exact kept sight member loses

end NodeLink.Acyclic

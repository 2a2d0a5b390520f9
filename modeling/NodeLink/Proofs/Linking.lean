import NodeLink.ProcessData.Consumer
import NodeLink.Proofs.ConfigurationChannel

/-! Linking a table. The ends of a process image take a table whole or keep the one that they had. The
configuration channel drops its table first, so a wrong one leaves it with the entries that stood before
the fault. -/
namespace NodeLink

namespace Linking

variable {Entry : Type} {object : Entry → ObjectRef} {fits : Entry → Prop} {room : Nat}
  {before table taken after : List Entry} {entry : Entry} {result : Except Error Unit}

/-- A table is judged entry by entry, up to the first that does not fit its object or finds no room;
those before it are taken. -/
inductive Judged (object : Entry → ObjectRef) (fits : Entry → Prop) (room : Nat) :
    (table taken : List Entry) → Except Error Unit → Prop where
  | accepted {table : List Entry} (fit : ∀ entry ∈ table, fits entry) (within : table.length ≤ room) :
      Judged object fits room table table (.ok ())
  | mismatched {taken rest : List Entry} {entry : Entry} (fit : ∀ entry ∈ taken, fits entry)
      (within : taken.length ≤ room) (wrong : ¬ fits entry) :
      Judged object fits room (taken ++ entry :: rest) taken (.error (.linkMismatch (object entry)))
  | full {taken rest : List Entry} {entry : Entry} (fit : ∀ entry ∈ taken, fits entry)
      (filled : taken.length = room) (fitting : fits entry) :
      Judged object fits room (taken ++ entry :: rest) taken (.error .poolExhausted)

theorem Judged.mismatched_head {rest : List Entry} (wrong : ¬ fits entry) :
    Judged object fits room (entry :: rest) [] (.error (.linkMismatch (object entry))) :=
  .mismatched (List.forall_mem_nil fits) (Nat.zero_le room) wrong

theorem Judged.full_head {rest : List Entry} (fitting : fits entry) :
    Judged object fits 0 (entry :: rest) [] (.error .poolExhausted) :=
  .full (List.forall_mem_nil fits) rfl fitting

theorem Judged.cons (judged : Judged object fits room table taken result) (fitting : fits entry) :
    Judged object fits (room + 1) (entry :: table) (entry :: taken) result := by
  cases judged with
  | accepted fit within =>
    exact .accepted (List.forall_mem_cons.mpr ⟨fitting, fit⟩) (Nat.succ_le_succ within)
  | mismatched fit within wrong =>
    exact .mismatched (List.forall_mem_cons.mpr ⟨fitting, fit⟩) (Nat.succ_le_succ within) wrong
  | full fit filled last =>
    exact .full (List.forall_mem_cons.mpr ⟨fitting, fit⟩) (congrArg Nat.succ filled) last

theorem Judged.eq_of_ok (judged : Judged object fits room table taken (.ok ())) : taken = table := by
  cases judged
  rfl

/-- A call links exactly the new table, or fails and leaves exactly the entries from before. -/
structure AllOrNothing (before table after : List Entry) (result : Except Error Unit) : Prop where
  replaced : result = .ok () → ∀ entry, entry ∈ after ↔ entry ∈ table
  kept : ∀ error, result = .error error → ∀ entry, entry ∈ after ↔ entry ∈ before

/-- A call that leaves what it took of the table is all or nothing when it took everything, or happened
to take what was linked before. -/
theorem Judged.allOrNothing_iff (judged : Judged object fits room table taken result) :
    AllOrNothing before table taken result ↔
      result = .ok () ∨ ∀ entry, entry ∈ taken ↔ entry ∈ before := by
  constructor
  · intro whole
    cases result with
    | error error => exact .inr (whole.kept error rfl)
    | ok done => exact .inl rfl
  · intro alike
    constructor
    · rintro rfl entry
      rw [judged.eq_of_ok]
    · rintro error rfl
      rcases alike with done | same
      · cases done
      · exact same

/-- An end after a call that either makes the next one or fails. -/
def orKeep {End : Type} (before : End) : Except Error End → Except Error Unit × End
  | .ok after => (.ok (), after)
  | .error error => (.error error, before)

/-- A call on a part of an end changes the end by that part. -/
theorem orKeep_map {Part End : Type} (whole : Part → End) (part : Part) (call : Except Error Part) :
    orKeep (whole part) (whole <$> call) = ((orKeep part call).1, whole (orKeep part call).2) := by
  cases call with
  | error error => rfl
  | ok after => rfl

end Linking

namespace ProcessData

open Linking (Judged AllOrNothing orKeep)

/-- An image after a table was linked to it. No byte has changed. -/
inductive Relinked (sizeOf : ObjectRef → Option Nat) (image : Image) (table : List Link) :
    Except Error Unit → Image → Prop where
  | replaced {after : Image} (bytes : after.bytes = image.bytes) (links : after.links = table)
      (judged : Judged Link.object (·.fits sizeOf image.size) maxLinks table table (.ok ())) :
      Relinked sizeOf image table (.ok ()) after
  | kept {taken : List Link} {error : Error}
      (judged : Judged Link.object (·.fits sizeOf image.size) maxLinks table taken (.error error)) :
      Relinked sizeOf image table (.error error) image

theorem checkLinks_judged (sizeOf : ObjectRef → Option Nat) (imageSize : Nat) {linked : Nat}
    (within : linked ≤ maxLinks) (table : List Link) :
    ∃ taken, Judged Link.object (·.fits sizeOf imageSize) (maxLinks - linked) table taken
      (checkLinks sizeOf imageSize linked table) := by
  induction table generalizing linked with
  | nil => exact ⟨[], .accepted (List.forall_mem_nil _) (Nat.zero_le _)⟩
  | cons link rest ih =>
    simp only [checkLinks]
    split
    · rename_i wrong
      exact ⟨[], .mismatched_head (by simpa using wrong)⟩
    · rename_i fits
      have fitting : link.fits sizeOf imageSize := by simpa using fits
      split
      · rename_i filled
        rw [Nat.sub_eq_zero_of_le filled]
        exact ⟨[], .full_head fitting⟩
      · rename_i free
        obtain ⟨taken, judged⟩ := ih (Nat.lt_of_not_le free)
        have room : maxLinks - linked = maxLinks - (linked + 1) + 1 := by omega
        rw [room]
        exact ⟨link :: taken, judged.cons fitting⟩

theorem Image.link_relinked (sizeOf : ObjectRef → Option Nat) (image : Image) (table : List Link) :
    let call := orKeep image (image.link sizeOf table)
    Relinked sizeOf image table call.1 call.2 := by
  obtain ⟨taken, judged⟩ := checkLinks_judged sizeOf image.size (Nat.zero_le maxLinks) table
  unfold Image.link
  split
  · rename_i error checked
    exact .kept (checked ▸ judged)
  · rename_i checked
    change checkLinks sizeOf image.size 0 table = .ok () at checked
    rw [checked] at judged
    exact .replaced rfl rfl (judged.eq_of_ok ▸ judged)

theorem Relinked.allOrNothing {sizeOf : ObjectRef → Option Nat} {image after : Image}
    {table : List Link} {result : Except Error Unit}
    (relinked : Relinked sizeOf image table result after) :
    AllOrNothing image.links table after.links result := by
  cases relinked with
  | replaced bytes links judged =>
    constructor
    · intro _ entry
      rw [links]
    · nofun
  | kept judged =>
    constructor
    · nofun
    · intro _ _ entry
      rfl

end ProcessData

namespace ConfigurationChannel

open Linking (Judged AllOrNothing)

/-- Whether an entry names an object of its size, which a write can carry. -/
def Link.Fits (sizeOf : ObjectRef → Option Nat) (link : Link) : Prop :=
  link.size ≤ maxData ∧ sizeOf link.object = some link.size

theorem Consumer.checkLinks_judged (sizeOf : ObjectRef → Option Nat) {linked : List Link}
    (within : linked.length ≤ maxLinks) (table : List Link) :
    ∃ taken, (checkLinks sizeOf linked table).2 = linked ++ taken ∧
      Judged Link.object (Link.Fits sizeOf) (maxLinks - linked.length) table taken
        (checkLinks sizeOf linked table).1 := by
  induction table generalizing linked with
  | nil => exact ⟨[], by simp [checkLinks], .accepted (List.forall_mem_nil _) (Nat.zero_le _)⟩
  | cons link rest ih =>
    simp only [checkLinks]
    split
    · rename_i wrong
      have misfit : ¬ link.Fits sizeOf := by
        rintro ⟨short, sized⟩
        simp only [sized, ne_eq, not_true_eq_false, or_false] at wrong
        exact Nat.not_lt_of_le short wrong
      exact ⟨[], by simp, .mismatched_head misfit⟩
    · rename_i right
      have fitting : link.Fits sizeOf := by simpa [Link.Fits] using right
      split
      · rename_i filled
        rw [Nat.sub_eq_zero_of_le filled]
        exact ⟨[], by simp, .full_head fitting⟩
      · rename_i free
        have longer : (linked ++ [link]).length = linked.length + 1 := by simp
        obtain ⟨taken, same, judged⟩ := ih (by rw [longer]; exact Nat.lt_of_not_le free)
        have room : maxLinks - linked.length = maxLinks - (linked ++ [link]).length + 1 := by omega
        rw [room]
        exact ⟨link :: taken, by simp [same], judged.cons fitting⟩

theorem Consumer.link_judged (sizeOf : ObjectRef → Option Nat) (consumer : Consumer)
    (table : List Link) :
    Judged Link.object (Link.Fits sizeOf) maxLinks table (consumer.link sizeOf table).2.links
      (consumer.link sizeOf table).1 := by
  have empty : ([] : List Link).length ≤ maxLinks := Nat.zero_le _
  obtain ⟨taken, same, judged⟩ := checkLinks_judged sizeOf empty table
  have left : (consumer.link sizeOf table).2.links = taken := same
  rw [left]
  exact judged

/-- Applying a write on a processor in its surroundings. -/
theorem Consumer.apply_run (surroundings : Surroundings) (consumer : Consumer) (world : World)
    (write : ObjectWrite) :
    let ((result, _), after) := (apply write).run surroundings.onHost consumer world
    ∃ events, after.events = world.events ++ events ∧
      Applies consumer.links write events (result.map some) := by
  have met : (apply write).Meets surroundings.Faulty consumer world _ _ := apply_applies write
  have ended := met.run surroundings
  generalize (apply write).run surroundings.onHost consumer world = run at ended ⊢
  obtain ⟨⟨fault | report, left⟩, after⟩ := run
  · exact ended.2.2
  · exact ended.2.2

end ConfigurationChannel

namespace Linking

open ProcessData (Relinked)
open ConfigurationChannel (Applies Consumer ObjectWrite maxLinks)

/-- Both ends of a process image take a table whole or stay as they were. The configuration channel is
left with the entries before the first wrong one, and accepts writes by those: that is all or nothing
only if the table is right, or those are the entries that were linked before. -/
theorem linked_whole_or_kept_iff (sizeOf : ObjectRef → Option Nat) (producer : ProcessData.Producer)
    (consumer : ProcessData.Consumer) (images : List ProcessData.Link)
    (applier : Consumer) (objects : List ConfigurationChannel.Link) :
    let produced := orKeep producer (producer.link sizeOf images)
    let consumed := orKeep consumer (consumer.link sizeOf images)
    let applying := applier.link sizeOf objects
    (produced.2 = { producer with image := produced.2.image } ∧
      Relinked sizeOf producer.image images produced.1 produced.2.image ∧
      AllOrNothing producer.image.links images produced.2.image.links produced.1) ∧
    (consumed.2 = { consumer with image := consumed.2.image } ∧
      Relinked sizeOf consumer.image images consumed.1 consumed.2.image ∧
      AllOrNothing consumer.image.links images consumed.2.image.links consumed.1) ∧
    applying.2 = { applier with links := applying.2.links } ∧
    Judged ConfigurationChannel.Link.object (ConfigurationChannel.Link.Fits sizeOf) maxLinks objects
      applying.2.links applying.1 ∧
    (AllOrNothing applier.links objects applying.2.links applying.1 ↔
      applying.1 = .ok () ∨ ∀ link, link ∈ applying.2.links ↔ link ∈ applier.links) ∧
    ∀ (surroundings : Surroundings) (world : World) (write : ObjectWrite),
      let ((result, _), after) := (Consumer.apply write).run surroundings.onHost applying.2 world
      ∃ events, after.events = world.events ++ events ∧
        Applies applying.2.links write events (result.map some) := by
  intro produced consumed applying
  refine ⟨?_, ?_, ?_⟩
  · have relinked := producer.image.link_relinked sizeOf images
    have same : produced = (_, { producer with image := _ }) :=
      orKeep_map (fun image => { producer with image }) producer.image _
    rw [same]
    exact ⟨rfl, relinked, relinked.allOrNothing⟩
  · have relinked := consumer.image.link_relinked sizeOf images
    have same : consumed = (_, { consumer with image := _ }) :=
      orKeep_map (fun image => { consumer with image }) consumer.image _
    rw [same]
    exact ⟨rfl, relinked, relinked.allOrNothing⟩
  · have judged := applier.link_judged sizeOf objects
    refine ⟨rfl, judged, judged.allOrNothing_iff, ?_⟩
    intro surroundings world write
    exact Consumer.apply_run surroundings _ world write

/-- A table with an absent object takes the place of one that was linked: a write by the old entry is
refused, and the new entry that stood before the absent object is linked. -/
theorem linked_whole_or_kept_iff_unlinked :
    let sizeOf (object : ObjectRef) : Option Nat := if object.index = 0x2002 then none else some 2
    let applier : Consumer :=
      ⟨⟨.new .consumer ⟨.configuration, 0, 18⟩ 0, .none⟩, [⟨⟨0x2000, 1⟩, 2⟩]⟩
    let objects : List ConfigurationChannel.Link := [⟨⟨0x2001, 0⟩, 2⟩, ⟨⟨0x2002, 0⟩, 2⟩]
    let call := applier.link sizeOf objects
    call.1 = .error (.linkMismatch ⟨0x2002, 0⟩) ∧
    call.2.links = [⟨⟨0x2001, 0⟩, 2⟩] ∧
    ¬ AllOrNothing applier.links objects call.2.links call.1 ∧
    ∀ (surroundings : Surroundings) (world : World),
      ((Consumer.apply ⟨⟨0x2000, 1⟩, [1, 2], by decide⟩).run surroundings.onHost call.2 world).1.1 =
        .error (.error (.unlinkedObject ⟨0x2000, 1⟩)) := by
  intro sizeOf applier objects call
  have left : call.2.links = [⟨⟨0x2001, 0⟩, 2⟩] := by decide +kernel
  have told : call.1 = .error (.linkMismatch ⟨0x2002, 0⟩) := rfl
  obtain ⟨-, -, -, -, whole, -⟩ := linked_whole_or_kept_iff sizeOf
    ⟨.new .producer ⟨.transmitPdo, 0, 4⟩ 0, .zeros 4, false⟩
    ⟨.new .consumer ⟨.receivePdo, 0, 4⟩ 0, .zeros 4⟩ [] applier objects
  refine ⟨told, left, ?_, ?_⟩
  · intro kept
    rcases whole.mp kept with done | same
    · cases told.symm.trans done
    · have forgotten : ⟨⟨0x2000, 1⟩, 2⟩ ∈ call.2.links := (same _).mpr (List.mem_singleton_self _)
      rw [left] at forgotten
      exact absurd forgotten (by decide)
  · intro surroundings world
    rfl

end Linking

end NodeLink

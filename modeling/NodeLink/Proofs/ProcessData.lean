import NodeLink.ProcessData.Consumer
import NodeLink.Proofs.Patching
import NodeLink.Proofs.TripleBuffer.Footprint
import Mathlib.Data.List.Forall2

/-! The way of a process image from one end to the other. What the consumer has is empty or one of the
images that were published, whichever accesses fail; what the producer copies together on the way to
one is not seen. -/
namespace NodeLink

namespace ProcessData

open TripleBuffer (anyAccess Inside Elsewhere)

variable {faults : Prop} {d : Descriptor} {producer : Producer} {consumer : Consumer}
  {memory : SharedMemory} {world : World} {published : List Bytes}

theorem map_eq_ok {α β : Type} {change : α → β} {result : Except Error α} {value : β}
    (found : change <$> result = .ok value) : ∃ inner, result = .ok inner ∧ change inner = value := by
  cases result with
  | error error => contradiction
  | ok inner => exact ⟨inner, rfl, Except.ok.inj found⟩

theorem imageOf_eq_ok {buffer : TripleBuffer} {image : Image} (made : imageOf buffer = .ok image) :
    image.bytes = Bytes.zeros buffer.slotSize := by
  unfold imageOf at made
  split at made
  · contradiction
  · cases made
    rfl

theorem Producer.new_eq_ok {buffer : TripleBuffer} (made : new buffer = .ok producer) :
    buffer = producer.buffer ∧ producer.image.bytes = Bytes.zeros buffer.slotSize := by
  unfold new at made
  split at made
  · contradiction
  · obtain ⟨image, filled, rfl⟩ := map_eq_ok made
    exact ⟨rfl, imageOf_eq_ok filled⟩

theorem Consumer.new_eq_ok {buffer : TripleBuffer} (made : new buffer = .ok consumer) :
    buffer = consumer.buffer ∧ consumer.image.bytes = Bytes.zeros buffer.slotSize := by
  unfold new at made
  split at made
  · contradiction
  · obtain ⟨image, filled, rfl⟩ := map_eq_ok made
    exact ⟨rfl, imageOf_eq_ok filled⟩

theorem Image.link_eq_ok {image linked : Image} {sizeOf : ObjectRef → Option Nat} {links : List Link}
    (found : image.link sizeOf links = .ok linked) : linked.bytes = image.bytes := by
  unfold Image.link at found
  split at found
  · contradiction
  · cases found
    rfl

theorem Producer.link_eq_ok {linked : Producer} {sizeOf : ObjectRef → Option Nat} {links : List Link}
    (found : producer.link sizeOf links = .ok linked) :
    linked.buffer = producer.buffer ∧ linked.image.bytes = producer.image.bytes := by
  obtain ⟨image, fits, rfl⟩ := map_eq_ok found
  exact ⟨rfl, Image.link_eq_ok fits⟩

theorem Consumer.link_eq_ok {linked : Consumer} {sizeOf : ObjectRef → Option Nat} {links : List Link}
    (found : consumer.link sizeOf links = .ok linked) :
    linked.buffer = consumer.buffer ∧ linked.image.bytes = consumer.image.bytes := by
  obtain ⟨image, fits, rfl⟩ := map_eq_ok found
  exact ⟨rfl, Image.link_eq_ok fits⟩

/-- Both ends of a buffer that some images were published through, each one whole. -/
structure Path (d : Descriptor) (producer : Producer) (consumer : Consumer) (memory : SharedMemory)
    (published : List Bytes) : Prop where
  produces : producer.buffer.Produces d
  consumes : ∃ seen, consumer.buffer.Consumes d seen
  carries : ∃ acked, d.Carries memory published acked
  filled : producer.image.size = d.size
  room : consumer.image.size = d.size
  whole : ∀ image ∈ published, image.length = d.size
  taken : consumer.image.bytes = Bytes.zeros d.size ∨ consumer.image.bytes ∈ published

namespace Path

/-- Both ends are made on a buffer without a write. -/
theorem start {producing consuming : TripleBuffer} (produces : producing.Produces d)
    (consumes : consuming.Consumes d 0) (shows : d.Shows memory [] 0 ⟨0, ControlWord.noSlot⟩)
    (made : Producer.new producing = .ok producer) (opened : Consumer.new consuming = .ok consumer) :
    Path d producer consumer memory [] := by
  obtain ⟨rfl, filled⟩ := Producer.new_eq_ok made
  obtain ⟨rfl, empty⟩ := Consumer.new_eq_ok opened
  have slots : producer.buffer.slotSize = d.size := congrArg Descriptor.size produces.region
  have same : consumer.buffer.slotSize = d.size := congrArg Descriptor.size consumes.region
  rw [slots] at filled
  rw [same] at empty
  exact {
    produces := produces
    consumes := ⟨0, consumes⟩
    carries := ⟨0, 0, ControlWord.noSlot, shows⟩
    filled := by rw [Image.size, filled, Bytes.zeros, List.length_replicate]
    room := by rw [Image.size, empty, Bytes.zeros, List.length_replicate]
    whole := nofun
    taken := .inl empty
  }

/-- Words that change elsewhere are of no account. -/
theorem elsewhere {after : SharedMemory} {bytes : Nat → Prop}
    (path : Path d producer consumer memory published)
    (same : SharedMemory.SameOutside bytes memory after)
    (apart : ∀ address, bytes address → ¬ d.InRegion address) :
    Path d producer consumer after published := by
  obtain ⟨acked, carries⟩ := path.carries
  exact { path with carries := ⟨acked, carries.elsewhere same apart⟩ }

/-- What is linked does not matter. -/
theorem link {linked : Producer} {linking : Consumer}
    (path : Path d producer consumer memory published) (same : linked.buffer = producer.buffer)
    (bytes : linked.image.bytes = producer.image.bytes) (too : linking.buffer = consumer.buffer)
    (kept : linking.image.bytes = consumer.image.bytes) : Path d linked linking memory published where
  produces := same ▸ path.produces
  consumes := too ▸ path.consumes
  carries := path.carries
  filled := (congrArg List.length bytes).trans path.filled
  room := (congrArg List.length kept).trans path.room
  whole := path.whole
  taken := by
    rw [kept]
    exact path.taken

/-- The producer's image is its own affair. -/
theorem edit {edited : Producer} (path : Path d producer consumer memory published)
    (same : edited.buffer = producer.buffer) (size : edited.image.size = producer.image.size) :
    Path d edited consumer memory published :=
  { path with produces := same ▸ path.produces, filled := size.trans path.filled }

end Path

/-- What the producing end leaves, with these images published. -/
structure Producer.Leaves (d : Descriptor) (producer : Producer) (consumer : Consumer)
    (memory : SharedMemory) (published : List Bytes) (left : Producer) (after : SharedMemory) :
    Prop where
  path : Path d left consumer after published
  image : left.image = producer.image
  elsewhere : Elsewhere d memory after

/-- What the consuming end leaves. -/
structure Consumer.Leaves (d : Descriptor) (producer : Producer) (memory : SharedMemory)
    (published : List Bytes) (left : Consumer) (after : SharedMemory) : Prop where
  path : Path d producer left after published
  elsewhere : Elsewhere d memory after

theorem Producer.write_ensures (path : Path d producer consumer memory published) :
    (onBuffer (TripleBuffer.write producer.image.bytes)).Ensures faults anyAccess producer memory
      (fun _ => Leaves d producer consumer memory (published ++ [producer.image.bytes]))
      fun _ => Leaves d producer consumer memory published := by
  obtain ⟨acked, carries⟩ := path.carries
  have written : (TripleBuffer.write producer.image.bytes).Ensures faults anyAccess producer.buffer
      memory _ _ :=
    (TripleBuffer.write_ensures path.produces carries).within (TripleBuffer.write_inside _)
      path.produces.region fun _ inside => inside.inWords
  apply Action.ensures_part
  apply written.mono (fun _ granted => granted)
  · rintro _ _ after ⟨⟨rfl, -, carries⟩, -, elsewhere⟩
    have whole : ∀ image ∈ published ++ [producer.image.bytes], image.length = d.size := by
      intro image member
      rcases List.mem_append.mp member with earlier | last
      · exact path.whole image earlier
      · exact List.mem_singleton.mp last ▸ path.filled
    have taken := path.taken.imp_right fun earlier => List.mem_append_left [producer.image.bytes] earlier
    exact ⟨{ path with carries := ⟨acked, carries⟩, whole := whole, taken := taken }, rfl, elsewhere⟩
  · rintro _ _ after ⟨⟨rfl, carries, -⟩, -, elsewhere⟩
    exact ⟨{ path with carries := ⟨acked, carries⟩ }, rfl, elsewhere⟩

theorem Image.setObject_eq_ok {image after : Image} {object : ObjectRef} {data : Bytes}
    (put : image.setObject object data = .ok after) : ∃ offset, after = image.put offset data := by
  unfold Image.setObject at put
  cases found : image.find object with
  | error error =>
    rw [found] at put
    contradiction
  | ok link =>
    rw [found] at put
    change (if data.length ≠ link.size then _ else _) = _ at put
    split at put
    · contradiction
    · cases put
      exact ⟨link.offset, rfl⟩

theorem Producer.setObject_eq_ok {object : ObjectRef} {data : Bytes} {left : Producer}
    (set : producer.setObject object data = .ok left) :
    left.buffer = producer.buffer ∧ left.image.size = producer.image.size := by
  obtain ⟨_, put, rfl⟩ := map_eq_ok set
  obtain ⟨offset, rfl⟩ := Image.setObject_eq_ok put
  exact ⟨rfl, Bytes.length_overlay _ _ _⟩

theorem Producer.setObject_table {object : ObjectRef} {data : Bytes} {left : Producer}
    (set : producer.setObject object data = .ok left) :
    left.image.links = producer.image.links := by
  obtain ⟨_, put, rfl⟩ := map_eq_ok set
  obtain ⟨offset, rfl⟩ := Image.setObject_eq_ok put
  rfl

/-- An image is published as it is, or not at all. -/
theorem Producer.publish_ensures (path : Path d producer consumer memory published) :
    publish.Ensures faults anyAccess producer memory
      (fun done => Leaves d producer consumer memory
        (if done then published ++ [producer.image.bytes] else published))
      fun _ => Leaves d producer consumer memory published := by
  apply Action.get_then
  split
  · apply Action.Ensures.bind _ (write_ensures path)
    intro _ left after leaves
    exact ⟨leaves.path.edit rfl rfl, leaves.image, leaves.elsewhere⟩
  · exact ⟨path, rfl, .refl _ _⟩

/-- A fresh image is the one published last, and the table stays. -/
theorem Consumer.refresh_takes (path : Path d producer consumer memory published) :
    refresh.Ensures faults anyAccess consumer memory
      (fun fresh left after => Leaves d producer memory published left after ∧
        left.image.links = consumer.image.links ∧
        (fresh = true → published.getLast? = some left.image.bytes))
      fun _ left after => Leaves d producer memory published left after ∧
        left.image.links = consumer.image.links := by
  obtain ⟨acked, carries⟩ := path.carries
  obtain ⟨seen, consumes⟩ := path.consumes
  have read : (TripleBuffer.read consumer.image.size).Ensures faults anyAccess consumer.buffer
      memory _ _ :=
    (TripleBuffer.read_ensures consumes carries).within (TripleBuffer.read_inside _)
      consumes.region fun _ inside => inside.inWords
  apply Action.get_then
  refine Action.Ensures.bind (fun result left after => left.image = consumer.image ∧
    TripleBuffer.Latest published seen result.1 result.2 ∧
    Leaves d producer memory published left after)
    (Action.ensures_part (read.mono (fun _ granted => granted) ?_ ?_)) ?_
  · rintro result left after ⟨⟨latest, consumes, carries⟩, -, elsewhere⟩
    exact ⟨rfl, latest,
      { path with consumes := ⟨_, consumes⟩, carries := ⟨acked, carries⟩ }, elsewhere⟩
  · rintro fault left after ⟨⟨consumes, carries, -⟩, -, elsewhere⟩
    exact ⟨⟨{ path with consumes := ⟨seen, consumes⟩, carries := ⟨acked, carries⟩ }, elsewhere⟩, rfl⟩
  · rintro ⟨snapshot, bytes⟩ left after ⟨same, latest, leaves⟩
    have kept : left.image.links = consumer.image.links := congrArg Image.links same
    by_cases fresh : snapshot.fresh = true
    · have last : published.getLast? = some bytes := latest.of_fresh fresh
      have member : bytes ∈ published := List.mem_of_getLast? last
      have taken : (left.image.put 0 bytes).bytes = bytes := by
        rw [same]
        exact Bytes.overlay_whole ((path.whole bytes member).trans path.room.symm)
      simp only [fresh, if_true]
      refine ⟨⟨?_, leaves.elsewhere⟩, kept, fun _ => taken.symm ▸ last⟩
      exact { leaves.path with
        room := by rw [Image.size, taken, path.whole bytes member]
        taken := .inr (taken.symm ▸ member) }
    · have stale : snapshot.fresh = false := eq_false_of_ne_true fresh
      simp only [stale]
      exact ⟨leaves, kept, nofun⟩

/-- A fresh image is one that was published. -/
theorem Consumer.refresh_ensures (path : Path d producer consumer memory published) :
    refresh.Ensures faults anyAccess consumer memory
      (fun fresh left after => Leaves d producer memory published left after ∧
        (fresh = true → left.image.bytes ∈ published))
      fun _ left after => Leaves d producer memory published left after := by
  apply (refresh_takes path).mono (fun _ granted => granted)
  · rintro fresh left after ⟨leaves, -, last⟩
    exact ⟨leaves, fun taken => List.mem_of_getLast? (last taken)⟩
  · rintro _ left after ⟨leaves, -⟩
    exact leaves

/-- An object was read from the dictionary. -/
def Reads (event : Host.Event) : Prop := ∃ object room, event.request = .readObject object room

/-- The dictionary gave the object of a link. -/
def Link.Given (link : Link) (event : Host.Event) : Prop :=
  ∃ moved, event = ⟨.readObject link.object link.size, ⟨moved, .ok ()⟩⟩

/-- What copying from the dictionary leaves, whole or broken off. -/
structure Producer.Copies (producer : Producer) (world : World) (left : Producer) (after : World) :
    Prop where
  buffer : left.buffer = producer.buffer
  size : left.image.size = producer.image.size
  memory : after.memory = world.memory
  reads : World.Adds Reads world after

theorem Producer.Copies.of_put {link : Link} {moved : Bytes} {left : Producer} {read after : World}
    (copies : Copies { producer with image := producer.image.put link.offset moved } read left after)
    (memory : read.memory = world.memory) (reads : World.Adds Reads world read) :
    Copies producer world left after where
  buffer := copies.buffer
  size := copies.size.trans (Bytes.length_overlay _ _ _)
  memory := copies.memory.trans memory
  reads := reads.trans copies.reads

/-- Copying ends well only if the dictionary gave the object of every link. -/
theorem Producer.copyLinks_meets (links : List Link) :
    (copyLinks links).Meets faults producer world
      (fun _ left after => Copies producer world left after ∧
        ∃ events, after.events = world.events ++ events ∧ List.Forall₂ Link.Given links events)
      fun _ => Copies producer world := by
  induction links generalizing producer world with
  | nil => exact ⟨⟨rfl, rfl, rfl, .quiet rfl⟩, [], (List.append_nil _).symm, .nil⟩
  | cons link rest ih =>
    refine Action.Meets.ask_then nofun fun reading read memory told => Action.Meets.modify_then ?_
    have reads : World.Adds Reads world read := .one told ⟨_, _, rfl⟩
    obtain ⟨moved, result⟩ := reading
    cases result with
    | error code => exact Copies.of_put ⟨rfl, rfl, rfl, .quiet rfl⟩ memory reads
    | ok done =>
      apply ih.mono
      · rintro _ left after ⟨copies, events, further, given⟩
        refine ⟨copies.of_put memory reads, _ :: events, ?_, .cons ⟨moved, rfl⟩ given⟩
        rw [further, told, List.append_assoc]
        rfl
      · intro _ left after copies
        exact copies.of_put memory reads

theorem Producer.copyFrom_meets :
    copyFrom.Meets faults producer world
      (fun _ left after => Copies producer world left after ∧
        ∃ events, after.events = world.events ++ events ∧
          List.Forall₂ Link.Given producer.image.links events)
      fun _ => Copies producer world :=
  Action.Meets.get_then (copyLinks_meets _)

/-- A value that was written to the dictionary. -/
def written? : Host.Event → Option (ObjectRef × Bytes)
  | ⟨.writeObject object value, _⟩ => some (object, value)
  | _ => none

/-- What an image holds for an object. -/
def Image.value (image : Image) (link : Link) : ObjectRef × Bytes := (link.object, image.get link)

/-- What copying to the dictionary leaves: it wrote these values, or those before the first that was
refused. -/
structure Consumer.Copies (consumer : Consumer) (values : List (ObjectRef × Bytes)) (world : World)
    (left : Consumer) (after : World) : Prop where
  unchanged : left = consumer
  memory : after.memory = world.memory
  written : ∃ events, after.events = world.events ++ events ∧ events.filterMap written? <+: values ∧
    ∀ event ∈ events, (written? event).isSome

theorem Consumer.Copies.none {values : List (ObjectRef × Bytes)} :
    Copies consumer values world consumer world :=
  ⟨rfl, rfl, [], (List.append_nil _).symm, List.nil_prefix, nofun⟩

theorem Consumer.Copies.of_written {values : List (ObjectRef × Bytes)} {object : ObjectRef}
    {value : Bytes} {answer : Except AbortCode Unit} {asked after : World} {left : Consumer}
    (copies : Copies consumer values asked left after) (memory : asked.memory = world.memory)
    (told : asked.events = world.events ++ [⟨.writeObject object value, answer⟩]) :
    Copies consumer ((object, value) :: values) world left after := by
  obtain ⟨unchanged, kept, events, further, written, all⟩ := copies
  refine ⟨unchanged, kept.trans memory, ⟨.writeObject object value, answer⟩ :: events, ?_, ?_, ?_⟩
  · rw [further, told, List.append_assoc]
    rfl
  · exact (List.prefix_cons_inj _).mpr written
  · exact List.forall_mem_cons.mpr ⟨rfl, all⟩

theorem Consumer.copyLinks_meets (links : List Link) :
    (copyLinks links).EndsIn faults consumer world
      (Copies consumer (links.map consumer.image.value) world) := by
  induction links generalizing world with
  | nil => exact Copies.none
  | cons link rest ih =>
    refine Action.Meets.get_then (Action.Meets.ask_then nofun fun answer asked memory told => ?_)
    cases answer with
    | error code => exact Copies.none.of_written memory told
    | ok done =>
      exact ih.mono fun _ _ copies => copies.of_written memory told

theorem Consumer.copyTo_meets :
    copyTo.EndsIn faults consumer world
      (Copies consumer (consumer.image.links.map consumer.image.value) world) :=
  Action.Meets.get_then (copyLinks_meets _)

end ProcessData

end NodeLink

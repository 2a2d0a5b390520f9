import NodeLink.Dictionary
import NodeLink.Proofs.ProcessData

/-! Copying between a process image and a dictionary. Whatever the dictionary answers, only bytes of
linked ranges change. If it keeps its word about what reading and writing do, an entry's bytes and the
object's value are the same afterwards, unless a later entry covers the bytes or names the object. -/
namespace NodeLink

/-- A dictionary as its users know it: the sizes that it gives and the values of its objects, and what
reading and writing do. -/
structure Objects where
  State : Type
  sizeOf : State → ObjectRef → Option Nat
  value : State → ObjectRef → Option Bytes
  read : State → ObjectRef → (room : Nat) → Host.Reading
  write : State → ObjectRef → Bytes → Except AbortCode Unit × State

namespace Objects

/-- A read that succeeds moves exactly the value, and a write that succeeds stores exactly the data. -/
structure Faithful (objects : Objects) : Prop where
  reads : ∀ state object room, (objects.read state object room).result = .ok () →
    objects.value state object = some (objects.read state object room).moved
  writes : ∀ state object data, (objects.write state object data).1 = .ok () →
    objects.value (objects.write state object data).2 object = some data
  others : ∀ state object data other, (objects.write state object data).1 = .ok () →
    other ≠ object →
      objects.value (objects.write state object data).2 other = objects.value state other

/-- What the dictionary answers. Nothing else is asked in copying. -/
def onHost (objects : Objects) : Handler Host objects.State
  | .readObject object room, state => (objects.read state object room, state)
  | .writeObject object data, state => objects.write state object data
  | request, state => (Surroundings.plainAnswer request, state)

end Objects

namespace Dictionary

def value (dictionary : Dictionary) (object : ObjectRef) : Option Bytes :=
  (dictionary.find? object).map (·.value)

/-- A read that is refused moves nothing. -/
def reading : Except AbortCode Bytes → Host.Reading
  | .error code => ⟨[], .error code⟩
  | .ok value => ⟨value, .ok ()⟩

/-- The dictionary of a list of entries. -/
def objects : Objects where
  State := Dictionary
  sizeOf := Dictionary.sizeOf
  value := Dictionary.value
  read dictionary object room := reading (dictionary.read object room)
  write := Dictionary.write

theorem find?_replaceValue (object other : ObjectRef) (value : Bytes) (entries : List Entry) :
    (replaceValue object value entries).find? (·.object = other) =
      if other = object then (entries.find? (·.object = object)).map ({ · with value })
      else entries.find? (·.object = other) := by
  induction entries with
  | nil => simp only [replaceValue, List.find?_nil, Option.map_none, ite_self]
  | cons entry rest ih =>
    rw [replaceValue]
    by_cases here : entry.object = object
    · subst here
      by_cases same : other = entry.object
      · simp [same]
      · simp [same, Ne.symm same]
    · rw [if_neg here, List.find?_cons, ih]
      by_cases same : other = object
      · subst same
        simp [here]
      · simp only [if_neg same, List.find?_cons]

theorem read_eq_ok {dictionary : Dictionary} {object : ObjectRef} {room : Nat} {moved : Bytes}
    (gave : dictionary.read object room = .ok moved) : dictionary.value object = some moved := by
  unfold Dictionary.read at gave
  unfold Dictionary.value
  cases found : dictionary.find? object with
  | none =>
    rw [found] at gave
    cases gave
  | some entry =>
    rw [found] at gave
    dsimp only at gave
    split at gave
    · cases gave
    · split at gave
      · cases gave
      · cases gave
        rfl

/-- A write gives its object the data, and leaves the other objects as they were. -/
theorem value_of_write {dictionary after : Dictionary} {object : ObjectRef} {data : Bytes}
    (written : dictionary.write object data = (.ok (), after)) (other : ObjectRef) :
    after.value other = if other = object then some data else dictionary.value other := by
  unfold Dictionary.write at written
  cases found : dictionary.find? object with
  | none =>
    rw [found] at written
    cases written
  | some entry =>
    rw [found] at written
    dsimp only at written
    split at written
    · cases written
    · split at written
      · cases written
      · cases written
        unfold find? at found
        simp only [value, find?, find?_replaceValue, found]
        by_cases same : other = object
        · rw [if_pos same, if_pos same]
          rfl
        · rw [if_neg same, if_neg same]

/-- An object has the size of its value, unless it claims another. -/
theorem sizeOf_of_value {dictionary : Dictionary} {object : ObjectRef} {value : Bytes}
    (plain : ∀ entry ∈ dictionary.entries, entry.claimed = none)
    (found : dictionary.value object = some value) :
    dictionary.sizeOf object = some value.length := by
  obtain ⟨entry, first, rfl⟩ := Option.map_eq_some_iff.mp found
  rw [sizeOf, first, Option.map_some, plain entry (List.mem_of_find?_eq_some first), Option.getD_none]

theorem objects_faithful : objects.Faithful where
  reads dictionary object room done := by
    change (reading (dictionary.read object room)).result = .ok () at done
    change dictionary.value object = some (reading (dictionary.read object room)).moved
    cases gave : dictionary.read object room with
    | error code =>
      rw [gave] at done
      cases done
    | ok moved => exact read_eq_ok gave
  writes dictionary object data done := by
    have told := value_of_write (Prod.ext done rfl) object
    rw [if_pos rfl] at told
    exact told
  others dictionary object data other done apart := by
    have told := value_of_write (Prod.ext done rfl) other
    rw [if_neg apart] at told
    exact told

end Dictionary

namespace ProcessData

/-- A byte of the image belongs to an entry's range. -/
def Link.Covers (link : Link) (index : Nat) : Prop := link.offset ≤ index ∧ index < link.stop

variable {ω : Type} {links before later : List Link} {link : Link}

theorem Image.get_put {image : Image} {value : Bytes} (size : value.length = link.size)
    (inside : link.stop ≤ image.size) : (image.put link.offset value).get link = value := by
  have fits : link.offset + value.length ≤ image.bytes.length := size ▸ inside
  rw [get, ← size]
  exact Bytes.slice_overlay fits

namespace Producer

variable {producer left : Producer} {objects : Objects} {state after : objects.State}

theorem run_copyLinks_cons (handler : Handler Host ω) (link : Link) (rest : List Link)
    (producer : Producer) (world : ω) :
    (copyLinks (link :: rest)).run handler producer world =
      let (reading, after) := handler (.readObject link.object link.size) world
      let next := { producer with
        image := producer.image.put link.offset (reading.moved.take link.size) }
      match reading.result with
      | .error code => ((.error (.error (.abort code)), next), after)
      | .ok () => (copyLinks rest).run handler next after := by
  have asked : (Host.readObject link.object link.size).run handler world =
      handler (.readObject link.object link.size) world := rfl
  simp only [copyLinks, Action.run_bind, Action.run_ask, Action.run_modify, asked]
  cases Host.Reading.result (handler (.readObject link.object link.size) world).1 with
  | error code => rfl
  | ok done => rfl

/-- What copying from a dictionary leaves alone. -/
structure Fills (links : List Link) (producer left : Producer) : Prop where
  buffer : left.buffer = producer.buffer
  table : left.image.links = producer.image.links
  size : left.image.size = producer.image.size
  outside : ∀ index, (∀ link ∈ links, ¬ link.Covers index) →
    left.image.bytes[index]? = producer.image.bytes[index]?

theorem fills_put {moved : Bytes} (short : moved.length ≤ link.size) :
    Fills (link :: links) producer
      { producer with image := producer.image.put link.offset moved } where
  buffer := rfl
  table := rfl
  size := Bytes.length_overlay _ _ _
  outside index uncovered := by
    apply Bytes.getElem?_overlay_of_apart
    have outside : ¬ (link.offset ≤ index ∧ index < link.offset + link.size) :=
      uncovered link List.mem_cons_self
    omega

theorem Fills.trans {between : Producer} (first : Fills (link :: links) producer between)
    (rest : Fills links between left) : Fills (link :: links) producer left where
  buffer := rest.buffer.trans first.buffer
  table := rest.table.trans first.table
  size := rest.size.trans first.size
  outside index uncovered :=
    (rest.outside index fun other member => uncovered other (List.mem_cons_of_mem _ member)).trans
      (first.outside index uncovered)

/-- Whatever the dictionary answers, and also if it refuses an object, copying stays in the ranges. -/
theorem copyLinks_fills (handler : Handler Host ω) (links : List Link) (producer : Producer)
    (world : ω) : Fills links producer ((copyLinks links).run handler producer world).1.2 := by
  induction links generalizing producer world with
  | nil => exact ⟨rfl, rfl, rfl, fun _ _ => rfl⟩
  | cons link rest ih =>
    rw [run_copyLinks_cons]
    generalize handler (.readObject link.object link.size) world = answer
    obtain ⟨reading, told⟩ := answer
    have put : Fills (link :: rest) producer { producer with
        image := producer.image.put link.offset (reading.moved.take link.size) } :=
      fills_put (List.length_take_le _ _)
    dsimp only
    split
    · exact put
    · exact put.trans (ih _ told)

/-- Copying the rest of a table leaves a range that it does not cover. -/
theorem Fills.get_eq (fills : Fills links producer left)
    (apart : ∀ other ∈ links, ∀ index, link.Covers index → ¬ other.Covers index) :
    left.image.get link = producer.image.get link := by
  apply Bytes.slice_congr
  intro index above below
  exact fills.outside index fun other member => apart other member index ⟨above, below⟩

/-- Copying succeeds by the value of the first object, and then by the rest of the table. -/
theorem copyLinks_cons_ok (faithful : objects.Faithful)
    (copied : (copyLinks (link :: links)).run objects.onHost producer state =
      ((.ok (), left), after)) :
    ∃ value, objects.value state link.object = some value ∧
      (copyLinks links).run objects.onHost
        { producer with image := producer.image.put link.offset (value.take link.size) } state =
          ((.ok (), left), after) := by
  rw [run_copyLinks_cons] at copied
  dsimp only [Objects.onHost] at copied
  cases result : (objects.read state link.object link.size).result with
  | error code =>
    rw [result] at copied
    cases copied
  | ok done =>
    rw [result] at copied
    exact ⟨_, faithful.reads state link.object link.size result, copied⟩

/-- An entry holds its object's value after copying, if no later entry covers its bytes. -/
theorem copyLinks_holds (faithful : objects.Faithful)
    (sized : ∀ link ∈ links, ∀ value, objects.value state link.object = some value →
      value.length = link.size)
    (inside : ∀ link ∈ links, link.stop ≤ producer.image.size)
    (copied : (copyLinks links).run objects.onHost producer state = ((.ok (), left), after))
    (split : links = before ++ link :: later)
    (apart : ∀ other ∈ later, ∀ index, link.Covers index → ¬ other.Covers index) :
    objects.value state link.object = some (left.image.get link) := by
  induction before generalizing links producer with
  | nil =>
    subst split
    obtain ⟨value, found, rest⟩ := copyLinks_cons_ok faithful copied
    have size : value.length = link.size := sized link List.mem_cons_self value found
    have fills := copyLinks_fills objects.onHost later
      { producer with image := producer.image.put link.offset (value.take link.size) } state
    rw [rest] at fills
    rw [found, fills.get_eq apart, List.take_of_length_le (Nat.le_of_eq size),
      Image.get_put size (inside link List.mem_cons_self)]
  | cons first before ih =>
    subst split
    obtain ⟨value, -, rest⟩ := copyLinks_cons_ok faithful copied
    apply ih (fun other member => sized other (List.mem_cons_of_mem _ member)) _ rest rfl
    intro other member
    rw [Image.size, Image.put, Bytes.length_overlay]
    exact inside other (List.mem_cons_of_mem _ member)

end Producer

namespace Consumer

variable {consumer left : Consumer} {objects : Objects} {state after : objects.State}

theorem run_copyLinks_cons (handler : Handler Host ω) (link : Link) (rest : List Link)
    (consumer : Consumer) (world : ω) :
    (copyLinks (link :: rest)).run handler consumer world =
      let (answer, after) := handler (.writeObject link.object (consumer.image.get link)) world
      match answer with
      | .error code => ((.error (.error (.abort code)), consumer), after)
      | .ok () => (copyLinks rest).run handler consumer after := by
  have asked : (Host.writeObject link.object (consumer.image.get link)).run handler world =
      handler (.writeObject link.object (consumer.image.get link)) world := rfl
  simp only [copyLinks, Action.run_bind, Action.run_ask, Action.run_get, asked]
  cases (handler (.writeObject link.object (consumer.image.get link)) world).1 with
  | error code => rfl
  | ok done => rfl

theorem copyLinks_keeps (handler : Handler Host ω) (links : List Link) (consumer : Consumer)
    (world : ω) : ((copyLinks links).run handler consumer world).1.2 = consumer := by
  induction links generalizing world with
  | nil => rfl
  | cons link rest ih =>
    rw [run_copyLinks_cons]
    dsimp only
    split
    · rfl
    · exact ih _

/-- Copying succeeds by a write to the first object, and then by the rest of the table. -/
theorem copyLinks_cons_ok
    (copied : (copyLinks (link :: links)).run objects.onHost consumer state =
      ((.ok (), left), after)) :
    let written := objects.write state link.object (consumer.image.get link)
    written.1 = .ok () ∧
      (copyLinks links).run objects.onHost consumer written.2 = ((.ok (), left), after) := by
  rw [run_copyLinks_cons] at copied
  dsimp only [Objects.onHost] at copied
  cases result : (objects.write state link.object (consumer.image.get link)).1 with
  | error code =>
    rw [result] at copied
    cases copied
  | ok done =>
    rw [result] at copied
    exact ⟨result, copied⟩

/-- Objects that no entry names keep their values. -/
theorem copyLinks_others (faithful : objects.Faithful)
    (copied : (copyLinks links).run objects.onHost consumer state = ((.ok (), left), after))
    {object : ObjectRef} (unnamed : ∀ link ∈ links, link.object ≠ object) :
    objects.value after object = objects.value state object := by
  induction links generalizing state with
  | nil =>
    cases copied
    rfl
  | cons first rest ih =>
    obtain ⟨written, copied⟩ := copyLinks_cons_ok copied
    have apart : object ≠ first.object := (unnamed first List.mem_cons_self).symm
    exact (ih copied fun link member => unnamed link (List.mem_cons_of_mem _ member)).trans
      (faithful.others state _ _ object written apart)

/-- An object has the bytes of its entry for its value after copying, if no later entry names it. -/
theorem copyLinks_stores (faithful : objects.Faithful)
    (copied : (copyLinks links).run objects.onHost consumer state = ((.ok (), left), after))
    (split : links = before ++ link :: later)
    (unnamed : ∀ other ∈ later, other.object ≠ link.object) :
    objects.value after link.object = some (consumer.image.get link) := by
  induction before generalizing links state with
  | nil =>
    subst split
    obtain ⟨written, copied⟩ := copyLinks_cons_ok copied
    exact (copyLinks_others faithful copied unnamed).trans (faithful.writes state _ _ written)
  | cons first before ih =>
    subst split
    obtain ⟨-, copied⟩ := copyLinks_cons_ok copied
    exact ih copied rfl

end Consumer

end ProcessData

end NodeLink

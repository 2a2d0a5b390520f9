import NodeLink.Channel.Receiver
import NodeLink.Proofs.Bounds.Decoders
import NodeLink.Proofs.TripleBuffer.Footprint

/-! Reading a buffer and polling a message with every range checked. The length that stands in a slot
is compared with the slot and with the space before anything is moved, and a header with the bytes that
were read; so whatever the words are, no range is missed. -/
namespace NodeLink

namespace Checked

variable {S : Signature} {σ α β : Type} {sound : (request : S.Request) → S.Answer request → Prop}
  {state : σ} {space : Bytes} {failed : σ → Bytes → Prop}

/-- Read a string, and fail if it is refused. -/
def ofDecoder (decoder : Decoder α) : Checked S σ α := fun state space =>
  .done (decoder.map fun result => (result.mapError Fault.error, state, space))

theorem Agrees.ofDecoder_then {γ : Type} {decoder : Decoder γ} {result : Except Error γ}
    {next : γ → Checked S σ α} {other : γ → Action S σ β} {ok : α → β → σ → Bytes → Prop}
    (gives : decoder.Gives result)
    (rest : ∀ value, (next value).Agrees sound (other value) state space ok failed)
    (fails : failed state space) :
    (ofDecoder decoder >>= next).Agrees sound (Action.ofExcept result >>= other) state space ok failed := by
  cases gives
  exact .ofExcept_then rest fails

end Checked

namespace TripleBuffer

/-- Load bytes into the space, from its start to its end. -/
def fill (address : TripleBuffer → Nat) : Checked Medium TripleBuffer (Option Error) := do
  let space ← .space
  let transfer ← .lift fun buffer => Action.ask (Medium.loadBytes (address buffer) space.length) buffer
  .setSpace (← .inside (space.put? 0 transfer.moved))
  return transfer.failure

def copySlotChecked (claimed : ControlWord) :
    Checked Medium TripleBuffer (Except Fault Snapshot) := do
  let last ← .lift (load (·.endAddress claimed.slot))
  let size := (← .lift (load (·.slotAddress claimed.slot + Layout.lengthOffset))).toNat
  if (← .lift Action.get).slotSize < size then .lift (Action.fail .busy)
  else if (← .space).length < size then .lift (Action.fail (.error .bufferTooSmall))
  else
    let failure ← .front size (fill fun buffer => buffer.slotAddress claimed.slot + Layout.dataOffset)
    .outcome do
      if let some error := failure then .lift (Action.fail (.error error))
      let first ← .lift (load (·.slotAddress claimed.slot + Layout.beginOffset))
      if first ≠ claimed.seq.toUInt32 ∨ last ≠ claimed.seq.toUInt32 then .lift (Action.fail .busy)
      .lift (observe claimed.seq size)

def tryReadChecked : Checked Medium TripleBuffer (Except Fault Snapshot) := do
  .lift (requireRole .consumer)
  let claimed ← .lift claimLatest
  if claimed.seq = 0 then return .ok ⟨0, 0, false⟩ else copySlotChecked claimed

def readChecked : Checked Medium TripleBuffer Snapshot := do
  .rethrow (← tryReadChecked)

/-- The bytes that a snapshot tells of lie in the slot, and stand at the start of the space. -/
structure Landed (slotSize room : Nat) (snapshot : Snapshot) (moved space : Bytes) : Prop where
  whole : space.length = room
  inside : snapshot.size ≤ slotSize
  fits : snapshot.size ≤ room
  moved : moved = space.take snapshot.size

/-- An attempt has ended alike, and if it has a snapshot, that landed. -/
structure Attempted (slotSize room : Nat) (result : Except Fault Snapshot) (attempt : ReadAttempt)
    (space : Bytes) : Prop where
  same : attempt.result = result
  whole : space.length = room
  landed : ∀ snapshot, result = .ok snapshot → Landed slotSize room snapshot attempt.moved space

variable {d : Descriptor} {buffer : TripleBuffer} {space : Bytes}

/-- The end is still one of its region, and the space is as long as it was. -/
def Stays (d : Descriptor) (room : Nat) (left : TripleBuffer) (space : Bytes) : Prop :=
  left.region = d ∧ space.length = room

theorem fill_agrees (address : TripleBuffer → Nat) {size : Nat} (fits : size ≤ space.length) :
    (Checked.front size (fill address)).Agrees Medium.Sound
      (fun buffer => Action.ask (Medium.loadBytes (address buffer) size) buffer) buffer space
      (fun failure transfer left after => failure = transfer.failure ∧ left = buffer ∧
        after.length = space.length ∧ (transfer.failure = none → transfer.moved = after.take size))
      fun _ _ => False := by
  have part : (space.take size).length = size := by
    rw [List.length_take]
    omega
  apply Checked.Agrees.front fits
  apply Checked.Agrees.space_then
  rw [part]
  refine Prog.Matches.ask _ fun transfer moves => ?_
  have put : Bytes.put? (space.take size) 0 transfer.moved =
      some (transfer.moved ++ (space.take size).drop transfer.moved.length) :=
    Bytes.put?_zero (part.symm ▸ moves.1)
  change ((do
    .setSpace (← .inside (Bytes.put? (space.take size) 0 transfer.moved))
    return transfer.failure) : Checked Medium TripleBuffer (Option Error)).Agrees Medium.Sound
      (pure transfer) buffer (space.take size) _ _
  apply Checked.Agrees.inside_then put
  apply Checked.Agrees.setSpace_then
  refine Checked.Agrees.done ⟨rfl, rfl, ?_, fun complete => ?_⟩
  · simp only [List.length_append, List.length_drop, part]
    have within := moves.1
    omega
  · have all := moves.2 complete
    rw [List.drop_of_length_le (by omega), List.append_nil, ← all, List.take_left]

theorem observe_agrees {seq : Sequence} {size : Nat} {ok : Snapshot → Snapshot → TripleBuffer → Bytes → Prop}
    {failed : TripleBuffer → Bytes → Prop} (region : buffer.region = d)
    (holds : ∀ snapshot left, snapshot.size = size → left.region = d → ok snapshot snapshot left space) :
    (Checked.lift (observe seq size)).Agrees Medium.Sound (observe seq size) buffer space ok failed := by
  unfold Checked.Agrees Checked.lift
  by_cases fresh : seq.isFresh buffer.lastSeen
  · have ended : observe seq size buffer = .done (.ok ⟨seq, size, seq.isFresh buffer.lastSeen⟩,
        { buffer with lastSeen := seq }) := congrFun (if_pos fresh) buffer
    rw [ended]
    exact .done (.ok (holds _ _ rfl region))
  · have ended : observe seq size buffer = .done (.ok ⟨seq, size, seq.isFresh buffer.lastSeen⟩,
        buffer) := congrFun (if_neg fresh) buffer
    rw [ended]
    exact .done (.ok (holds _ _ rfl region))

theorem copySlotChecked_agrees (claimed : ControlWord) (region : buffer.region = d) :
    (copySlotChecked claimed).Agrees Medium.Sound (copySlot claimed space.length) buffer space
      (fun result attempt left after => left.region = d ∧ Attempted d.size space.length result attempt after)
      (Stays d space.length) := by
  have loads (address : TripleBuffer → Nat) : (load address).AsksFrom (·.region = d) fun _ => True :=
    .load fun _ _ => trivial
  refine .lift_then (loads _) region (fun last buffer region => ?_) fun _ region => ⟨region, rfl⟩
  refine .lift_then (loads _) region (fun size buffer region => ?_) fun _ region => ⟨region, rfl⟩
  apply Checked.Agrees.get_then
  refine .ite (fun _ => .fail ⟨region, rfl⟩) fun inside => ?_
  apply Checked.Agrees.space_then
  refine .ite (fun _ => .fail ⟨region, rfl⟩) fun fits => ?_
  rw [Nat.not_lt] at inside fits
  have slot : buffer.slotSize = d.size := congrArg Descriptor.size region
  rw [slot] at inside
  apply Checked.Agrees.bind _ ((fill_agrees _ fits).mono (fun _ _ _ _ filled => filled) nofun)
  rintro _ transfer _ after ⟨rfl, rfl, whole, moved⟩
  apply Checked.Agrees.returning
  apply Checked.Agrees.outcome
  have undone {left : TripleBuffer} (region : left.region = d) (fault : Fault) :
      left.region = d ∧ Attempted d.size space.length (.error fault) ⟨transfer.moved, .error fault⟩ after :=
    ⟨region, rfl, whole, nofun⟩
  cases failed : transfer.failure with
  | some error => exact .fail_then (undone region)
  | none =>
    refine .lift_then (loads _) region (fun first left region => ?_) fun _ => undone
    refine .ite (fun _ => .fail_then (undone region)) fun _ => ?_
    refine observe_agrees region fun snapshot left same region => ⟨region, rfl, whole, ?_⟩
    rintro _ ⟨⟩
    rw [← same] at inside fits moved
    exact ⟨whole, inside, fits, moved failed⟩

theorem tryReadChecked_agrees (region : buffer.region = d) :
    tryReadChecked.Agrees Medium.Sound (tryRead space.length) buffer space
      (fun result attempt left after => left.region = d ∧ Attempted d.size space.length result attempt after)
      (Stays d space.length) := by
  have requires : (requireRole .consumer).AsksFrom (·.region = d) fun _ => True := .requireRole _
  refine .lift_then requires region (fun _ buffer region => ?_) fun _ region => ⟨region, rfl⟩
  refine .lift_then claimLatest_asks region (fun claimed buffer region => ?_) fun _ region => ⟨region, rfl⟩
  apply Checked.Agrees.ite
  · intro _
    refine .done ⟨region, rfl, rfl, ?_⟩
    rintro _ ⟨⟩
    exact ⟨rfl, Nat.zero_le _, Nat.zero_le _, rfl⟩
  · exact fun _ => copySlotChecked_agrees claimed region

/-- A read misses no range: what it tells of lies in the slot and in the space. -/
theorem readChecked_agrees {room : Nat} (stays : buffer.Stays d room space) :
    readChecked.Agrees Medium.Sound (read room) buffer space
      (fun snapshot found left after => left.region = d ∧ found.1 = snapshot ∧
        Landed d.size room snapshot found.2 after)
      (Stays d room) := by
  obtain ⟨region, rfl⟩ := stays
  apply Checked.Agrees.bind _ (tryReadChecked_agrees region)
  rintro result attempt left after ⟨region, same, whole, landed⟩
  apply Checked.Agrees.returning
  rw [same]
  exact .rethrow (fun snapshot found => ⟨region, rfl, landed snapshot found⟩) fun _ _ => ⟨region, whole⟩

end TripleBuffer

namespace Channel.Receiver

/-- A message, and the bytes that were read for it, if the bytes are those of a message. -/
def acceptChecked (snapshot : Snapshot) : Checked Medium Receiver (Message × Nat) := do
  let bytes ← .inside (Bytes.part? (← .space) 0 snapshot.size)
  match ← .inside (Header.decode? bytes) with
  | .error error =>
    .lift (onBuffer (TripleBuffer.acknowledge snapshot.seq))
    .lift (Action.fail (.error error))
  | .ok header =>
    let delivered := (← .lift Action.get).delivered
    let payload ← .inside (header.payload? (← .space))
    let message : Message := {
      header := header
      write := snapshot.seq
      duplicate := header.number == delivered
      payload := payload
    }
    return (message, snapshot.size)

def pollChecked : Checked Medium Receiver (Option (Message × Nat)) := do
  if ← .lift (onBuffer TripleBuffer.hasFresh) then
    let snapshot ← .part (·.buffer) (fun buffer receiver => { receiver with buffer })
      TripleBuffer.readChecked
    if snapshot.fresh then some <$> acceptChecked snapshot else return none
  else return none

/-- What a poll has found: the message lies among the bytes that were read, and these in the slot and in
the space. -/
inductive Found (slotSize room : Nat) : Option (Message × Nat) → Option Message → Bytes → Prop
  | nothing {space : Bytes} (whole : space.length = room) : Found slotSize room none none space
  | message {message : Message} {read : Nat} {space : Bytes} (whole : space.length = room)
    (fits : headerSize + message.header.size.toNat ≤ read) (inside : read ≤ slotSize)
    (within : read ≤ room) (there : message.header.payload? space = some message.payload) :
    Found slotSize room (some (message, read)) (some message) space

variable {d : Descriptor} {receiver : Receiver} {space : Bytes}

/-- The end is still one of its region, and the space is as long as it was. -/
def Stays (d : Descriptor) (room : Nat) (left : Receiver) (space : Bytes) : Prop :=
  left.buffer.Stays d room space

theorem onBuffer_asks {α : Type} {may : Medium.Request → Prop} {operation : TripleBuffer.Operation α}
    (asks : operation.AsksFrom (·.region = d) may) :
    (onBuffer operation).AsksFrom (·.buffer.region = d) may :=
  .part asks (fun _ region => region) fun _ _ region _ => region

theorem acknowledge_asks (message : Message) : (acknowledge message).AsksFrom (·.buffer.region = d)
    (Medium.Request.Wordwise (Words.Request.StoresWithin (· = d.consumerAddress))) :=
  .bind (.modify fun _ region => region) fun _ => onBuffer_asks (TripleBuffer.acknowledge_asks _)

theorem acknowledge_agrees {room : Nat} (message : Message) (stays : receiver.Stays d room space) :
    (Checked.lift (acknowledge message)).Agrees Medium.Sound (acknowledge message) receiver space
      (fun _ _ left after => left.Stays d room after ∧ after = space) fun left after =>
        left.Stays d room after ∧ after = space := by
  obtain ⟨region, rfl⟩ := stays
  exact .lift (acknowledge_asks message) region (fun _ _ region => ⟨⟨region, rfl⟩, rfl⟩)
    fun _ region => ⟨⟨region, rfl⟩, rfl⟩

theorem acceptChecked_agrees {snapshot : Snapshot} {bytes : Bytes} {room : Nat}
    (region : receiver.buffer.region = d)
    (landed : TripleBuffer.Landed d.size room snapshot bytes space) :
    (acceptChecked snapshot).Agrees Medium.Sound (accept snapshot.seq bytes) receiver space
      (fun found message left after => left.buffer.region = d ∧
        Found d.size room (some found) (some message) after)
      (Stays d room) := by
  have fits : snapshot.size ≤ space.length := landed.whole ▸ landed.fits
  apply Checked.Agrees.space_then
  apply Checked.Agrees.inside_then (Bytes.part?_zero fits)
  apply Checked.Agrees.inside_then (Header.decode?_gives _)
  rw [← landed.moved]
  unfold accept
  cases decoded : Header.decode bytes with
  | error error =>
    refine .lift_then (onBuffer_asks (TripleBuffer.acknowledge_asks _)) region
      (fun _ left region => ?_) fun _ region => ⟨region, landed.whole⟩
    exact .fail ⟨region, landed.whole⟩
  | ok header =>
    have length : bytes.length = snapshot.size := by
      rw [landed.moved, List.length_take, Nat.min_eq_left fits]
    have whole := Header.fits_of_decode decoded
    rw [length] at whole
    apply Checked.Agrees.get_then
    apply Checked.Agrees.space_then
    have there : header.payload? space = some (bytes.slice headerSize header.size.toNat) := by
      rw [Header.payload?, Bytes.part?_of_le (by omega) (by omega), Nat.add_sub_cancel_left,
        landed.moved, Bytes.slice_take whole]
    apply Checked.Agrees.inside_then there
    exact .done ⟨region, .message landed.whole whole landed.inside landed.fits there⟩

/-- A poll misses no range: the message that it finds lies among the bytes that were read. -/
theorem pollChecked_agrees {room : Nat} (stays : receiver.Stays d room space) :
    pollChecked.Agrees Medium.Sound (poll room) receiver space
      (fun found message left after => left.buffer.region = d ∧ Found d.size room found message after)
      (Stays d room) := by
  obtain ⟨region, rfl⟩ := stays
  refine .lift_then (onBuffer_asks TripleBuffer.hasFresh_asks) region (fun fresh receiver region => ?_)
    fun _ region => ⟨region, rfl⟩
  apply Checked.Agrees.ite
  · intro _
    apply Checked.Agrees.bind (fun snapshot found left after => left.buffer.region = d ∧
      found.1 = snapshot ∧ TripleBuffer.Landed d.size space.length snapshot found.2 after)
    · exact .part (TripleBuffer.readChecked_agrees ⟨region, rfl⟩)
    · rintro _ ⟨snapshot, bytes⟩ left after ⟨region, rfl, landed⟩
      refine .ite (fun _ => ?_) fun _ => .done ⟨region, .nothing landed.whole⟩
      exact .map (acceptChecked_agrees region landed)
  · exact fun _ => .done ⟨region, .nothing rfl⟩

end Channel.Receiver

end NodeLink

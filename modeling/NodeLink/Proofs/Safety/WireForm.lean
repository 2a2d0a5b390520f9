import NodeLink.Safety.Reader

/-! The wire form of safety frames. The reader accepts exactly the messages that the form allows: a
subframe stands for one byte string, a body for two subframes that agree, and a message for one frame,
up to the reserved flags and what follows the frame. -/
namespace NodeLink.Safety

open Channel (Format)

variable {check : Check} {copy : Copy} {subframe first second : Subframe} {bytes body : Bytes}
  {slim : Bool}

namespace Subframe

/-- The header is read back from its bytes, which it is made of. -/
theorem ofNat_two (number : UInt16) : ∃ low high, Bytes.ofNat 2 number.toNat = [low, high] ∧
    UInt16.ofNat (Bytes.toNat [low, high]) = number := by
  refine ⟨_, _, rfl, ?_⟩
  change UInt16.ofNat (Bytes.ofNat 2 number.toNat).toNat = number
  rw [Bytes.toNat_ofNat_of_lt number.toNat_lt, UInt16.ofNat_toNat]

theorem ofNat_two_toNat (low high : UInt8) :
    Bytes.ofNat 2 (UInt16.ofNat (Bytes.toNat [low, high])).toNat = [low, high] := by
  have small : Bytes.toNat [low, high] < 65536 := Bytes.toNat_lt [low, high]
  rw [UInt16.toNat_ofNat', Nat.mod_eq_of_lt small]
  exact Bytes.ofNat_toNat [low, high]

theorem length_covered (subframe : Subframe) :
    subframe.covered.length = subframeHeaderSize + subframe.data.length := by
  simp only [covered, List.length_append, List.length_cons, Bytes.length_ofNat, subframeHeaderSize]

/-- The address and the id take up the target between them. -/
theorem targetOf_eq (subframe : Subframe) : targetOf subframe.address subframe.id = subframe.target := by
  have small := subframe.target.toNat_lt
  apply UInt16.toNat_inj.mp
  simp only [targetOf, address, id, UInt16.toNat_ofNat', UInt8.toNat_ofNat']
  omega

theorem address_eq {subframe : Subframe} {address : UInt16} {id : UInt8}
    (target : subframe.target = targetOf address id) : subframe.address = address % 1024 := by
  apply UInt16.toNat_inj.mp
  simp only [Subframe.address, target, targetOf, UInt16.toNat_ofNat', UInt16.toNat_mod]
  change _ = address.toNat % 1024
  omega

theorem id_eq {subframe : Subframe} {address : UInt16} {id : UInt8}
    (target : subframe.target = targetOf address id) : subframe.id = id % 64 := by
  apply UInt8.toNat_inj.mp
  simp only [Subframe.id, target, targetOf, UInt16.toNat_ofNat', UInt8.toNat_ofNat', UInt8.toNat_mod]
  change _ = id.toNat % 64
  omega

end Subframe

theorem toNat_ofNat_length (short : subframe.data.length < 256) :
    (UInt8.ofNat subframe.data.length).toNat = subframe.data.length := by
  rw [UInt8.toNat_ofNat']
  exact Nat.mod_eq_of_lt short

theorem bind_eq_ok_iff {α β : Type} {result : Except Error α} {next : α → Except Error β} {value : β} :
    (result >>= next) = .ok value ↔ ∃ inner, result = .ok inner ∧ next inner = .ok value := by
  cases result with
  | error error => exact ⟨nofun, nofun⟩
  | ok inner => exact ⟨fun same => ⟨inner, rfl, same⟩, by rintro ⟨_, ⟨⟩, same⟩; exact same⟩

/-- What the shape of a slim body tells of it. -/
theorem slimShape_iff : slimShape check body = true ↔ ∃ size, body[slimPosition check + 2]? = some size ∧
    Check.ofSize size.toNat = check ∧
      body.length = slimPosition check + subframeHeaderSize + size.toNat + check.size := by
  unfold slimShape
  dsimp only
  cases body[slimPosition check + 2]? with
  | none => simp only [Bool.false_eq_true, reduceCtorEq, false_and, exists_false]
  | some size => simp only [Bool.and_eq_true, decide_eq_true_eq, beq_iff_eq, Option.some.injEq,
      exists_eq_left']

theorem ofSize_eq_crc8_iff {size : Nat} : Check.ofSize size = .crc8 ↔ size ≤ Check.shortData := by
  unfold Check.ofSize
  split
  · rename_i short
    exact iff_of_true rfl short
  · rename_i long
    exact iff_of_false nofun long

theorem ofSize_eq_crc16_iff {size : Nat} : Check.ofSize size = .crc16 ↔ Check.shortData < size := by
  unfold Check.ofSize
  split
  · rename_i short
    exact iff_of_false nofun (Nat.not_lt.mpr short)
  · rename_i long
    exact iff_of_true rfl (Nat.not_le.mp long)

/-- A body has the shape of a slim frame with one checksum at most: with the long one it is longer than
any with the short one. -/
theorem slimShape_unique {other : Check} (shape : slimShape check body = true)
    (shape' : slimShape other body = true) : check = other := by
  obtain ⟨size, _, checked, length⟩ := slimShape_iff.mp shape
  obtain ⟨size', _, checked', length'⟩ := slimShape_iff.mp shape'
  rw [length] at length'
  cases check <;> cases other <;>
    simp only [ofSize_eq_crc8_iff, ofSize_eq_crc16_iff, slimPosition, subframeHeaderSize, Check.size,
      Check.shortData] at checked checked' length' ⊢ <;> omega

/-- A message in the parts that the reader cuts it into. -/
def assembled (format flags : UInt8) (size time rest : Bytes) : Bytes :=
  format :: flags :: (size ++ (time ++ rest))

namespace Frame

variable {frame : Frame} {format flags : UInt8} {message size time rest trailing : Bytes}

theorem slice_assembled (format flags : UInt8) (rest : Bytes) (two : size.length = 2)
    (eight : time.length = 8) (count : Nat) :
    (assembled format flags size time rest).slice 2 2 = size ∧
      (assembled format flags size time rest).slice 4 8 = time ∧
      (assembled format flags size time rest).slice messageHeaderSize count = rest.take count := by
  have behind : (size ++ (time ++ rest)).drop 2 = time ++ rest := List.drop_left' two
  refine ⟨List.take_left' two, ?_, ?_⟩
  · change ((size ++ (time ++ rest)).drop 2).take 8 = time
    rw [behind, List.take_left' eight]
  · change ((size ++ (time ++ rest)).drop (2 + 8)).take count = rest.take count
    rw [← List.drop_drop, behind, List.drop_left' eight]

theorem length_assembled (two : size.length = 2) (eight : time.length = 8) :
    (assembled format flags size time rest).length = messageHeaderSize + rest.length := by
  simp only [assembled, List.length_cons, List.length_append, two, eight, messageHeaderSize]
  omega

theorem exists_assembled (long : messageHeaderSize ≤ message.length) :
    ∃ format flags size time rest, size.length = 2 ∧ time.length = 8 ∧
      message = assembled format flags size time rest := by
  match message with
  | format :: flags :: tail =>
    have enough : 10 ≤ tail.length := by
      simp only [messageHeaderSize, List.length_cons] at long
      omega
    refine ⟨format, flags, tail.take 2, (tail.drop 2).take 8, (tail.drop 2).drop 8, ?_, ?_, ?_⟩
    · rw [List.length_take]
      omega
    · rw [List.length_take, List.length_drop]
      omega
    · rw [assembled, List.take_append_drop, List.take_append_drop]

/-- What a frame that was read keeps to. -/
structure Legible (frame : Frame) : Prop where
  address : frame.address.toNat < 1024
  id : frame.id.toNat < 64
  data : frame.data.length < 256

theorem header_append (frame : Frame) (size : Nat) (rest : Bytes) : frame.header size ++ rest =
    assembled frame.format.toByte (if frame.slim then 1 else 0) (Bytes.ofNat 2 size)
      (Bytes.ofNat 8 frame.timebase.toNat) rest := by
  simp only [header, assembled, List.cons_append, List.append_assoc]

theorem ofByte_eq_ok {byte : UInt8} {format : Format} (known : Format.ofByte byte = .ok format) :
    byte = format.toByte := by
  unfold Format.ofByte at known
  split at known
  · rename_i same
    cases known
    exact same
  · split at known
    · rename_i same
      cases known
      exact same
    · contradiction

theorem ofNat_eight (time : Bytes) (eight : time.length = 8) :
    Bytes.ofNat 8 (UInt64.ofNat time.toNat).toNat = time := by
  have bound : time.toNat < 2 ^ 64 := by
    have bound := Bytes.toNat_lt time
    rwa [eight] at bound
  rw [UInt64.toNat_ofNat', Nat.mod_eq_of_lt bound, ← eight, Bytes.ofNat_toNat]

theorem toNat_eight (timebase : UInt64) :
    UInt64.ofNat (Bytes.ofNat 8 timebase.toNat).toNat = timebase := by
  rw [Bytes.toNat_ofNat_of_lt timebase.toNat_lt, UInt64.ofNat_toNat]

theorem Legible.address_mod (legible : frame.Legible) : frame.address % 1024 = frame.address := by
  apply UInt16.toNat_inj.mp
  rw [UInt16.toNat_mod]
  exact Nat.mod_eq_of_lt legible.address

theorem Legible.id_mod (legible : frame.Legible) : frame.id % 64 = frame.id := by
  apply UInt8.toNat_inj.mp
  rw [UInt8.toNat_mod]
  exact Nat.mod_eq_of_lt legible.id

end Frame

variable [Checksums]

theorem length_checksum (check : Check) (copy : Copy) (covered : Bytes) :
    (checksum check copy covered).length = check.size := by
  cases check with
  | crc8 => rfl
  | crc16 => exact Bytes.length_ofNat 2 _

namespace Subframe

theorem length_toBytes (subframe : Subframe) (check : Check) (copy : Copy) :
    (subframe.toBytes check copy).length =
      subframeHeaderSize + subframe.data.length + check.size := by
  rw [toBytes, List.length_append, length_covered, length_checksum]

theorem toBytes_size (subframe : Subframe) (check : Check) (copy : Copy) (rest : Bytes) :
    (subframe.toBytes check copy ++ rest)[2]? = some (UInt8.ofNat subframe.data.length) := rfl

theorem toBytes_of_read (accepted : read check copy bytes = .ok subframe) :
    subframe.data.length < 256 ∧ bytes = subframe.toBytes check copy := by
  unfold read at accepted
  split at accepted
  · rename_i low high size timeLow timeHigh rest
    split at accepted
    · contradiction
    rename_i length
    rw [Decidable.not_not] at length
    dsimp only at accepted
    split at accepted
    · rename_i valid
      cases accepted
      have taken : (rest.take size.toNat).length = size.toNat := by
        rw [List.length_take, length]
        omega
      refine ⟨Nat.lt_of_le_of_lt (Nat.le_of_eq taken) size.toNat_lt, ?_⟩
      rw [toBytes, valid, covered, ofNat_two_toNat, ofNat_two_toNat, taken, UInt8.ofNat_toNat]
      simp only [List.cons_append, List.nil_append, List.take_append_drop]
    · contradiction
  · contradiction

theorem read_toBytes (short : subframe.data.length < 256) :
    read check copy (subframe.toBytes check copy) = .ok subframe := by
  obtain ⟨low, high, target, told⟩ := ofNat_two subframe.target
  obtain ⟨timeLow, timeHigh, time, timed⟩ := ofNat_two subframe.time
  have form : subframe.toBytes check copy = low :: high :: UInt8.ofNat subframe.data.length ::
      timeLow :: timeHigh :: (subframe.data ++ checksum check copy subframe.covered) := by
    rw [toBytes]
    conv => lhs; lhs; rw [covered, target, time]
    rfl
  have size : (UInt8.ofNat subframe.data.length).toNat = subframe.data.length := by
    rw [UInt8.toNat_ofNat']
    exact Nat.mod_eq_of_lt short
  rw [form, read, size, List.length_append, length_checksum, if_neg (Decidable.not_not.mpr rfl)]
  simp only [told, timed, List.take_left, List.drop_left, if_true]

/-- A subframe is read from its bytes and from no others. -/
theorem read_eq_ok_iff : read check copy bytes = .ok subframe ↔
    subframe.data.length < 256 ∧ bytes = subframe.toBytes check copy := by
  refine ⟨toBytes_of_read, ?_⟩
  rintro ⟨short, rfl⟩
  exact read_toBytes short

end Subframe

/-- The body that two subframes make, with the checksums that the data of the first calls for. -/
def joined (slim : Bool) (first second : Subframe) : Bytes :=
  let check := Check.ofSize first.data.length
  if slim then second.toBytes check .second ++ first.toBytes check .first
  else first.toBytes check .first ++ second.toBytes check .second

/-- A full body is halved, and the size that stands in its first half tells the checksums. -/
theorem readFull_halves : readFull body = .ok (first, second) ↔
    ∃ size, body[2]? = some size ∧ body.length % 2 = 0 ∧ first.data = second.data ∧
      Subframe.read (Check.ofSize size.toNat) .first (body.take (body.length / 2)) = .ok first ∧
      Subframe.read (Check.ofSize size.toNat) .second (body.drop (body.length / 2)) = .ok second := by
  constructor
  · intro accepted
    unfold readFull at accepted
    split at accepted
    · rename_i low high size rest
      split at accepted
      · contradiction
      rename_i even
      obtain ⟨former, read, accepted⟩ := bind_eq_ok_iff.mp accepted
      obtain ⟨latter, read', accepted⟩ := bind_eq_ok_iff.mp accepted
      split at accepted
      · rename_i same
        cases accepted
        exact ⟨size, rfl, Decidable.not_not.mp even, same, read, read'⟩
      · contradiction
    · contradiction
  · rintro ⟨size, sized, even, same, read, read'⟩
    match body with
    | low :: high :: _ :: rest =>
      obtain rfl := Option.some.inj sized
      refine (if_neg (Decidable.not_not.mpr even)).trans ?_
      exact bind_eq_ok_iff.mpr ⟨_, read, bind_eq_ok_iff.mpr ⟨_, read', if_pos same⟩⟩

theorem readFull_eq_ok_iff : readFull body = .ok (first, second) ↔ first.data.length < 256 ∧
    second.data = first.data ∧ body = joined false first second := by
  rw [readFull_halves]
  constructor
  · rintro ⟨size, sized, even, same, read, read'⟩
    obtain ⟨short, front⟩ := Subframe.read_eq_ok_iff.mp read
    obtain ⟨_, back⟩ := Subframe.read_eq_ok_iff.mp read'
    have whole := (List.take_append_drop (body.length / 2) body).symm
    rw [front, back] at whole
    rw [whole, Subframe.toBytes_size, Option.some.injEq] at sized
    refine ⟨short, same.symm, whole.trans ?_⟩
    rw [← sized, toNat_ofNat_length short]
    rfl
  · rintro ⟨short, same, rfl⟩
    generalize checked : Check.ofSize first.data.length = check
    have length : (second.toBytes check .second).length = (first.toBytes check .first).length := by
      rw [Subframe.length_toBytes, Subframe.length_toBytes, same]
    have whole : joined false first second = first.toBytes check .first ++ second.toBytes check .second :=
      checked ▸ rfl
    have half : (joined false first second).length / 2 = (first.toBytes check .first).length := by
      rw [whole, List.length_append, length]
      omega
    refine ⟨UInt8.ofNat first.data.length, ?_, ?_, same.symm, ?_⟩
    · rw [whole, Subframe.toBytes_size]
    · rw [whole, List.length_append, length]
      omega
    · rw [half, whole, List.take_left, List.drop_left, toNat_ofNat_length short, checked]
      exact ⟨Subframe.read_eq_ok_iff.mpr ⟨short, rfl⟩, Subframe.read_eq_ok_iff.mpr ⟨same ▸ short, rfl⟩⟩

theorem readSlim_eq : readSlim body = .ok (first, second) ↔
    ∃ check, slimShape check body = true ∧ readSlimAs check body = .ok (first, second) := by
  unfold readSlim
  constructor
  · intro accepted
    split at accepted
    · exact ⟨_, ‹_›, accepted⟩
    · split at accepted
      · exact ⟨_, ‹_›, accepted⟩
      · contradiction
  · rintro ⟨check, shape, accepted⟩
    split
    · rename_i short
      exact slimShape_unique short shape ▸ accepted
    · rename_i long
      cases check with
      | crc8 => exact absurd shape long
      | crc16 => rwa [if_pos shape]

theorem length_empty (empty : subframe.data = []) :
    (subframe.toBytes check copy).length = slimPosition check := by
  rw [Subframe.length_toBytes, empty]
  rfl

theorem readSlimAs_eq_ok_iff : readSlimAs check body = .ok (first, second) ↔ second.data = [] ∧
    first.data.length < 256 ∧ body = second.toBytes check .second ++ first.toBytes check .first := by
  unfold readSlimAs
  constructor
  · intro accepted
    obtain ⟨latter, read, accepted⟩ := bind_eq_ok_iff.mp accepted
    split at accepted
    · contradiction
    rename_i empty
    obtain ⟨former, read', accepted⟩ := bind_eq_ok_iff.mp accepted
    cases accepted
    obtain ⟨_, front⟩ := Subframe.read_eq_ok_iff.mp read
    obtain ⟨short, back⟩ := Subframe.read_eq_ok_iff.mp read'
    refine ⟨Decidable.not_not.mp empty, short, ?_⟩
    rw [← front, ← back, List.take_append_drop]
  · rintro ⟨empty, short, rfl⟩
    have tiny : second.data.length < 256 := by rw [empty]; decide
    refine bind_eq_ok_iff.mpr ⟨second, ?_, ?_⟩
    · rw [List.take_left' (length_empty empty)]
      exact Subframe.read_eq_ok_iff.mpr ⟨tiny, rfl⟩
    · rw [if_neg (Decidable.not_not.mpr empty), List.drop_left' (length_empty empty)]
      exact bind_eq_ok_iff.mpr ⟨first, Subframe.read_eq_ok_iff.mpr ⟨short, rfl⟩, rfl⟩

theorem readSlim_eq_ok_iff : readSlim body = .ok (first, second) ↔ first.data.length < 256 ∧
    second.data = [] ∧ body = joined true first second := by
  rw [readSlim_eq]
  constructor
  · rintro ⟨check, shape, accepted⟩
    obtain ⟨empty, short, rfl⟩ := readSlimAs_eq_ok_iff.mp accepted
    obtain ⟨size, _, rfl, length⟩ := slimShape_iff.mp shape
    rw [List.length_append, length_empty empty, Subframe.length_toBytes] at length
    have sized : size.toNat = first.data.length := by omega
    refine ⟨short, empty, ?_⟩
    rw [sized]
    rfl
  · rintro ⟨short, empty, rfl⟩
    refine ⟨Check.ofSize first.data.length, slimShape_iff.mpr ⟨UInt8.ofNat first.data.length, ?_, ?_, ?_⟩,
      readSlimAs_eq_ok_iff.mpr ⟨empty, short, rfl⟩⟩
    · rw [joined, if_pos rfl, ← length_empty empty, List.getElem?_append_right (Nat.le_add_right _ _),
        Nat.add_sub_cancel_left]
      rfl
    · rw [toNat_ofNat_length short]
    · rw [joined, if_pos rfl, List.length_append, length_empty empty, Subframe.length_toBytes,
        toNat_ofNat_length short]
      omega

/-- A body is read as two subframes that make it, and as no others. -/
theorem readBody_eq_ok_iff : readBody slim body = .ok (first, second) ↔ first.data.length < 256 ∧
    second.data = (if slim then [] else first.data) ∧ body = joined slim first second := by
  cases slim with
  | true => exact readSlim_eq_ok_iff
  | false => exact readFull_eq_ok_iff

namespace Frame

variable {frame : Frame} {format flags : UInt8} {message size time rest trailing : Bytes}

theorem ofMessage_assembled (two : size.length = 2) (eight : time.length = 8) :
    ofMessage (assembled format flags size time rest) = .ok frame ↔
      Format.ofByte format = .ok frame.format ∧ (flags % 2 == 1) = frame.slim ∧
        UInt64.ofNat time.toNat = frame.timebase ∧ size.toNat ≤ rest.length ∧
        ∃ first second, readBody frame.slim (rest.take size.toNat) = .ok (first, second) ∧
          (first.target = second.target ∧ first.time = second.time ∧
            first.time = timeOf frame.timebase) ∧ first.address = frame.address ∧
          first.id = frame.id ∧ first.data = frame.data := by
  have fits : messageHeaderSize + rest.length < messageHeaderSize + size.toNat ↔
      ¬ size.toNat ≤ rest.length := by omega
  obtain ⟨sized, timed, cut⟩ := slice_assembled format flags rest two eight size.toNat
  unfold ofMessage
  rw [length_assembled two eight, if_neg (Nat.not_lt.mpr (Nat.le_add_right _ _))]
  simp only [sized, timed, cut, fits]
  rw [bind_eq_ok_iff]
  constructor
  · rintro ⟨known, formed, accepted⟩
    split at accepted
    · contradiction
    rename_i inside
    obtain ⟨⟨first, second⟩, read, accepted⟩ := bind_eq_ok_iff.mp accepted
    dsimp only at accepted
    split at accepted
    · rename_i agree
      cases accepted
      exact ⟨formed, rfl, rfl, Decidable.not_not.mp inside, first, second, read, agree, rfl, rfl, rfl⟩
    · contradiction
  · obtain ⟨known, slim, timebase, address, id, data⟩ := frame
    rintro ⟨formed, rfl, rfl, inside, first, second, read, agree, rfl, rfl, rfl⟩
    refine ⟨known, formed, ?_⟩
    rw [if_neg (Decidable.not_not.mpr inside)]
    exact bind_eq_ok_iff.mpr ⟨_, read, if_pos agree⟩

/-- The message of a frame with any flags. -/
def under (frame : Frame) (flags : UInt8) : Bytes :=
  assembled frame.format.toByte flags (Bytes.ofNat 2 frame.body.length)
    (Bytes.ofNat 8 frame.timebase.toNat) frame.body

theorem toMessage_eq (frame : Frame) : frame.toMessage = frame.under (if frame.slim then 1 else 0) :=
  header_append frame frame.body.length frame.body

theorem body_eq (frame : Frame) :
    frame.body = joined frame.slim (frame.subframe .first) (frame.subframe .second) := by
  unfold body chain joined copies
  cases frame.slim <;> simp only [if_true, Bool.false_eq_true, if_false, List.flatMap_cons,
    List.flatMap_nil, List.append_nil] <;> rfl

theorem length_body (frame : Frame) : frame.body.length =
    2 * (subframeHeaderSize + frame.check.size) + (if frame.slim then 1 else 2) * frame.data.length := by
  rw [body_eq]
  unfold joined subframe check
  cases frame.slim <;> simp only [if_true, Bool.false_eq_true, if_false, List.length_append,
    Subframe.length_toBytes, List.length_nil] <;> omega

theorem under_append (frame : Frame) (flags : UInt8) (trailing : Bytes) :
    frame.under flags ++ trailing = assembled frame.format.toByte flags
      (Bytes.ofNat 2 frame.body.length) (Bytes.ofNat 8 frame.timebase.toNat)
      (frame.body ++ trailing) := by
  simp only [under, assembled, List.cons_append, List.append_assoc]

theorem Legible.body_lt (legible : frame.Legible) : frame.body.length < 65536 := by
  have short := legible.data
  have width : frame.check.size ≤ 2 := by cases frame.check <;> decide
  rw [length_body, subframeHeaderSize]
  split <;> omega

theorem under_of_ofMessage (accepted : ofMessage message = .ok frame) : frame.Legible ∧
    ∃ flags trailing, (flags % 2 == 1) = frame.slim ∧ message = frame.under flags ++ trailing := by
  have long : messageHeaderSize ≤ message.length := by
    refine Nat.not_lt.mp fun short => ?_
    rw [ofMessage, if_pos short] at accepted
    contradiction
  obtain ⟨format, flags, size, time, rest, two, eight, rfl⟩ := exists_assembled long
  obtain ⟨known, slim, timebase, inside, first, second, read, ⟨target, same, now⟩, address, id, data⟩ :=
    (ofMessage_assembled two eight).mp accepted
  obtain ⟨short, echoed, taken⟩ := readBody_eq_ok_iff.mp read
  have front : frame.subframe .first = first := by
    unfold subframe
    rw [← address, ← id, Subframe.targetOf_eq, ← now, ← data]
  have back : frame.subframe .second = second := by
    unfold subframe
    rw [← address, ← id, Subframe.targetOf_eq, ← now, ← data, target, same, ← echoed]
  have body : rest.take size.toNat = frame.body := by
    rw [body_eq, front, back]
    exact taken
  have length : frame.body.length = size.toNat := by
    rw [← body, List.length_take, Nat.min_eq_left inside]
  have sized : Bytes.ofNat 2 frame.body.length = size := by
    rw [length, ← two, Bytes.ofNat_toNat]
  have timed : Bytes.ofNat 8 frame.timebase.toNat = time := by
    rw [← timebase, ofNat_eight time eight]
  refine ⟨⟨?_, ?_, data ▸ short⟩, flags, rest.drop size.toNat, slim, ?_⟩
  · rw [← address, Subframe.address, UInt16.toNat_ofNat']
    omega
  · have small := first.target.toNat_lt
    rw [← id, Subframe.id, UInt8.toNat_ofNat']
    omega
  · rw [under_append, sized, timed, ← ofByte_eq_ok known, ← body, List.take_append_drop]

theorem ofMessage_under (legible : frame.Legible) (slim : (flags % 2 == 1) = frame.slim)
    (trailing : Bytes) : ofMessage (frame.under flags ++ trailing) = .ok frame := by
  have size : (Bytes.ofNat 2 frame.body.length).toNat = frame.body.length :=
    Bytes.toNat_ofNat_of_lt legible.body_lt
  have whole : (frame.body ++ trailing).take frame.body.length = frame.body := List.take_left
  rw [under_append]
  refine (ofMessage_assembled (Bytes.length_ofNat _ _) (Bytes.length_ofNat _ _)).mpr
    ⟨Format.ofByte_toByte _, slim, toNat_eight _, ?_, frame.subframe .first, frame.subframe .second, ?_,
      ⟨rfl, rfl, rfl⟩, ?_, ?_, rfl⟩
  · rw [size, List.length_append]
    exact Nat.le_add_right _ _
  · rw [size, whole]
    exact readBody_eq_ok_iff.mpr ⟨legible.data, rfl, body_eq frame⟩
  · exact (Subframe.address_eq rfl).trans legible.address_mod
  · exact (Subframe.id_eq rfl).trans legible.id_mod

/-- The message of a frame is read whatever follows it and whatever the reserved flags are, and no other
message is read as that frame. -/
theorem ofMessage_eq_ok_iff : ofMessage message = .ok frame ↔ frame.Legible ∧
    ∃ flags trailing, (flags % 2 == 1) = frame.slim ∧ message = frame.under flags ++ trailing := by
  refine ⟨under_of_ofMessage, ?_⟩
  rintro ⟨legible, flags, trailing, slim, rfl⟩
  exact ofMessage_under legible slim trailing

end Frame

end NodeLink.Safety

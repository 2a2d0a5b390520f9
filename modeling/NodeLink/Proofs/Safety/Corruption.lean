import NodeLink.Proofs.Checksum
import NodeLink.Proofs.Safety.Builder
import NodeLink.Proofs.Safety.Reader

/-! What corruption the reader finds out. Subframes that say different things differ in two bytes: in
two of those that a checksum covers, or in one and the checksum. So no single byte makes one frame out
of another, as long as the header in front of the frame stands; and since the seeds of both checksums
differ, no body is that of a slim frame and of a full one. -/
namespace NodeLink.Safety

open Channel (Format)

variable {check : Check} {copy : Copy} {subframe other : Subframe} {frame read : Frame}

theorem ofNat_two_inj {number other : UInt16} (same : Bytes.ofNat 2 number.toNat = Bytes.ofNat 2 other.toNat) :
    number = other := by
  have numbers := congrArg Bytes.toNat same
  rw [Bytes.toNat_ofNat_of_lt number.toNat_lt, Bytes.toNat_ofNat_of_lt other.toNat_lt] at numbers
  exact UInt16.toNat_inj.mp numbers

theorem checksum_ne {covered changed : Bytes} (length : covered.length = changed.length)
    (one : covered.differences changed = 1) : checksum check copy covered ≠ checksum check copy changed := by
  intro same
  cases check with
  | crc8 => exact Checksum.crc8_ne length one copy.seed.toUInt8 (List.singleton_inj.mp same)
  | crc16 => exact Checksum.crc16_ne length one copy.seed (ofNat_two_inj same)

namespace Subframe

/-- What is covered tells all that a subframe says. -/
theorem covered_injective : Function.Injective covered := by
  intro subframe other same
  obtain ⟨target, time, data⟩ := subframe
  obtain ⟨otherTarget, otherTime, otherData⟩ := other
  obtain ⟨header, data⟩ := List.append_inj same rfl
  obtain ⟨targets, rest⟩ := List.append_inj header rfl
  rw [mk.injEq]
  exact ⟨ofNat_two_inj targets, ofNat_two_inj (List.cons.inj rest).2, data⟩

/-- Different subframes of one length differ in two bytes. -/
theorem two_differences (length : subframe.data.length = other.data.length) (different : subframe ≠ other) :
    2 ≤ (subframe.toBytes check copy).differences (other.toBytes check copy) := by
  have long : subframe.covered.length = other.covered.length := by
    rw [length_covered, length_covered, length]
  have some : 0 < subframe.covered.differences other.covered :=
    Bytes.differences_pos long fun same => different (covered_injective same)
  rw [toBytes, toBytes, Bytes.differences_append long]
  by_cases one : subframe.covered.differences other.covered = 1
  · have checksums : 0 < (checksum check copy subframe.covered).differences
        (checksum check copy other.covered) :=
      Bytes.differences_pos ((length_checksum _ _ _).trans (length_checksum _ _ _).symm)
        (checksum_ne long one)
    omega
  · omega

end Subframe

namespace Frame

theorem body_eq_toBytes (frame : Frame) : frame.body =
    if frame.slim then (frame.subframe .second).toBytes frame.check .second ++
      (frame.subframe .first).toBytes frame.check .first
    else (frame.subframe .first).toBytes frame.check .first ++
      (frame.subframe .second).toBytes frame.check .second :=
  body_eq frame

/-- The data's length stands in the body's. -/
theorem length_data_eq (slim : read.slim = frame.slim) (length : read.body.length = frame.body.length) :
    read.data.length = frame.data.length := by
  rw [length_body, length_body, slim, check, check] at length
  -- The wide checksum comes with more data, so that a body grows with its data in either width.
  unfold Check.ofSize Check.shortData at length
  split at length <;> split at length <;> split at length <;>
    simp only [Check.size] at length <;> omega

/-- The second subframe says nothing that the first does not say. -/
theorem body_congr (slim : read.slim = frame.slim) (same : read.subframe .first = frame.subframe .first) :
    read.body = frame.body := by
  obtain ⟨target, time, data⟩ := Subframe.mk.inj same
  have second : read.subframe .second = frame.subframe .second := by
    unfold subframe
    rw [target, time, slim]
    dsimp only at data
    rw [data]
  rw [body_eq, body_eq, slim, same, second]

/-- Different bodies of one length differ in two bytes. -/
theorem two_differences (slim : read.slim = frame.slim) (length : read.body.length = frame.body.length)
    (different : read.body ≠ frame.body) : 2 ≤ read.body.differences frame.body := by
  have data := length_data_eq slim length
  have checks : read.check = frame.check := congrArg Check.ofSize data
  have first : 2 ≤ ((read.subframe .first).toBytes frame.check .first).differences
      ((frame.subframe .first).toBytes frame.check .first) :=
    Subframe.two_differences data fun same => different (body_congr slim same)
  have sameLength (copy : Copy) : ((read.subframe copy).toBytes frame.check copy).length =
      ((frame.subframe copy).toBytes frame.check copy).length := by
    rw [Subframe.length_toBytes, Subframe.length_toBytes]
    cases copy with
    | first => exact congrArg (subframeHeaderSize + · + frame.check.size) data
    | second =>
      unfold subframe
      dsimp only
      rw [slim]
      split
      · rfl
      · rw [data]
  rw [body_eq_toBytes, body_eq_toBytes, slim, checks]
  split
  · rw [Bytes.differences_append (sameLength .second)]
    exact Nat.le_add_left_of_le first
  · rw [Bytes.differences_append (sameLength .first)]
    exact Nat.le_add_right_of_le first

/-- No bytes are a first subframe and a second one, since the seeds of their checksums differ. -/
theorem toBytes_ne : subframe.toBytes .crc8 .second ≠ other.toBytes .crc8 .first := by
  intro same
  obtain ⟨covered, checksums⟩ := List.append_inj' same rfl
  rw [checksum, checksum, covered] at checksums
  exact absurd (Checksum.crc8_injective other.covered (List.singleton_inj.mp checksums)) (by decide)

/-- No body is that of a slim frame and of a full one: it would be two subframes without data, and each
of them the first and the second one. -/
theorem body_ne (slim : read.slim = true) (full : frame.slim = false)
    (short : frame.data.length < 256) : read.body ≠ frame.body := by
  intro same
  have lengths := congrArg List.length same
  rw [length_body, length_body, slim, full] at lengths
  rw [body_eq_toBytes, body_eq_toBytes, slim, full, if_pos rfl, if_neg Bool.false_ne_true] at same
  have none : (read.subframe .second).data = [] := if_pos slim
  have empty : frame.data.length = 0 := by
    have sizes := congrArg (·[2]?) same
    simp only [Subframe.toBytes_size, none, Option.some.injEq] at sizes
    have size : (UInt8.ofNat (frame.subframe .first).data.length).toNat = frame.data.length :=
      toNat_ofNat_length short
    rw [← size, ← sizes]
    rfl
  -- The full body is then as short as a body can be, which leaves the slim frame no data either.
  have plain : frame.check = .crc8 := congrArg Check.ofSize empty
  have narrow : read.check = .crc8 := by
    rw [plain, empty] at lengths
    cases checked : read.check with
    | crc8 => rfl
    | crc16 =>
      have long : Check.shortData < read.data.length := ofSize_eq_crc16_iff.mp checked
      simp only [checked, if_true, Check.size] at lengths
      omega
  rw [plain, narrow] at same
  refine toBytes_ne (List.append_inj same ?_).1
  rw [length_empty none, length_empty (List.length_eq_zero_iff.mp empty)]

variable {format flags : UInt8} {time body : Bytes}

/-- Where the header announces just the body that stands there, what is read has that body. -/
theorem body_of_ofMessage (eight : time.length = 8) (short : body.length < 65536)
    (accepted : ofMessage (assembled format flags (Bytes.ofNat 2 body.length) time body) = .ok read) :
    read.Legible ∧ (flags % 2 == 1) = read.slim ∧ body = read.body := by
  obtain ⟨legible, flags', trailing, slim, same⟩ := ofMessage_eq_ok_iff.mp accepted
  rw [under_append] at same
  obtain ⟨_, rest⟩ := List.cons.inj same
  obtain ⟨rfl, fields⟩ := List.cons.inj rest
  obtain ⟨sizes, behind⟩ := List.append_inj fields rfl
  obtain ⟨_, bodies⟩ := List.append_inj behind (eight.trans (Bytes.length_ofNat _ _).symm)
  have lengths := congrArg Bytes.toNat sizes
  rw [Bytes.toNat_ofNat_of_lt short, Bytes.toNat_ofNat_of_lt legible.body_lt] at lengths
  exact ⟨legible, slim, (List.append_inj ((List.append_nil body).trans bodies) lengths).1⟩

end Frame

variable {message : Bytes}

theorem refused_of_not_read (refused : ∀ read, Frame.ofMessage message ≠ .ok read) :
    Frame.ofMessage message = .error .malformed ∨ Frame.ofMessage message = .error .checksum := by
  cases outcome : Frame.ofMessage message with
  | ok read => exact absurd outcome (refused read)
  | error error =>
    obtain rfl | rfl := Frame.ofMessage_refuses message error outcome
    · exact .inl rfl
    · exact .inr rfl

namespace Frame

/-- With one byte of the body changed, what is read would have a body that differs from the frame's in
that byte only. -/
theorem set_body_refused (legible : frame.Legible) {index : Nat} (inside : index < frame.body.length)
    {byte : UInt8} (changed : byte ≠ frame.body[index]) (read : Frame) :
    ofMessage (frame.header frame.body.length ++ frame.body.set index byte) ≠ .ok read := by
  intro accepted
  have length : (frame.body.set index byte).length = frame.body.length := List.length_set
  rw [header_append, ← length] at accepted
  obtain ⟨-, flag, body⟩ := body_of_ofMessage (Bytes.length_ofNat _ _) (length ▸ legible.body_lt) accepted
  have slim : frame.slim = read.slim := by
    rw [← flag]
    cases frame.slim <;> rfl
  by_cases same : frame.body = read.body
  · have kept : (frame.body.set index byte)[index]? = some byte := List.getElem?_set_self inside
    rw [body, ← same, List.getElem?_eq_getElem inside] at kept
    exact changed (Option.some.inj kept).symm
  · have two := two_differences slim (length.symm.trans (congrArg _ body)) same
    rw [← body] at two
    exact absurd (Nat.le_trans two (Bytes.differences_set_le _ _ _)) (by decide)

theorem set_refused (legible : frame.Legible) {offset : Nat} (behind : messageHeaderSize ≤ offset)
    (inside : offset < frame.toMessage.length) {byte : UInt8} (changed : byte ≠ frame.toMessage[offset])
    (read : Frame) : ofMessage (frame.toMessage.set offset byte) ≠ .ok read := by
  have header : (frame.header frame.body.length).length = messageHeaderSize := length_header _ _
  have within : offset - messageHeaderSize < frame.body.length := by
    rw [toMessage, List.length_append, header] at inside
    omega
  have stood : frame.toMessage[offset] = frame.body[offset - messageHeaderSize] := by
    simp only [toMessage, List.getElem_append_right (header ▸ behind), header]
  rw [toMessage, List.set_append_right _ _ (header ▸ behind), header]
  exact set_body_refused legible within (stood ▸ changed) read

/-- With the other flag, what is read would be slim where the frame is full, or full where it is slim,
with the same body. -/
theorem flip_refused (legible : frame.Legible) (read : Frame) :
    ofMessage (frame.toMessage.modify 1 (· ^^^ 1)) ≠ .ok read := by
  intro accepted
  rw [toMessage, header_append] at accepted
  obtain ⟨readable, flag, body⟩ := body_of_ofMessage (Bytes.length_ofNat _ _) legible.body_lt accepted
  cases slim : frame.slim with
  | true =>
    rw [slim] at flag
    exact body_ne slim flag.symm readable.data body
  | false =>
    rw [slim] at flag
    exact body_ne flag.symm slim legible.data body.symm

end Frame

variable {builder : Builder} {format : Format} {slim : Bool} {address : UInt16} {id : UInt8}
  {data : Bytes}

/-- Of a message that was built, the reader refuses whatever has one other byte in the frame behind its
header, and also the message with the other slim flag. -/
theorem altered_message_refused (built : (builder.build format slim address id data).1 = .ok message) :
    (∀ offset byte, messageHeaderSize ≤ offset → ∀ inside : offset < message.length,
      byte ≠ message[offset] → Frame.ofMessage (message.set offset byte) = .error .malformed ∨
        Frame.ofMessage (message.set offset byte) = .error .checksum) ∧
    (Frame.ofMessage (message.modify 1 (· ^^^ 1)) = .error .malformed ∨
      Frame.ofMessage (message.modify 1 (· ^^^ 1)) = .error .checksum) := by
  obtain ⟨short, timebase, -, rfl⟩ := Builder.build_eq_ok_iff.mp built
  have legible : (Frame.onWire ⟨format, slim, timebase, address, id, data⟩).Legible :=
    Frame.legible_onWire short
  rw [← Frame.toMessage_onWire]
  refine ⟨fun offset byte behind inside changed => ?_, ?_⟩
  · exact refused_of_not_read (Frame.set_refused legible behind inside changed)
  · exact refused_of_not_read (Frame.flip_refused legible)

set_option maxRecDepth 2000 in
/-- A slim frame with two bytes of data, of which the size in its second subframe says three, and the
same frame under the flags of a full one. -/
theorem altered_message_refused_size :
    ((Builder.new.withTimebase 0x1122334455667788).build .serviceData true 0x123 5 [170, 187]).1 =
      .ok [2, 1, 14, 0, 136, 119, 102, 85, 68, 51, 34, 17, 35, 21, 0, 136, 119, 202,
        35, 21, 2, 136, 119, 170, 187, 38] ∧
    (Frame.ofMessage [2, 1, 14, 0, 136, 119, 102, 85, 68, 51, 34, 17, 35, 21, 0, 136, 119, 202,
        35, 21, 3, 136, 119, 170, 187, 38] = .error .malformed ∨
      Frame.ofMessage [2, 1, 14, 0, 136, 119, 102, 85, 68, 51, 34, 17, 35, 21, 0, 136, 119, 202,
        35, 21, 3, 136, 119, 170, 187, 38] = .error .checksum) ∧
    (Frame.ofMessage [2, 0, 14, 0, 136, 119, 102, 85, 68, 51, 34, 17, 35, 21, 0, 136, 119, 202,
        35, 21, 2, 136, 119, 170, 187, 38] = .error .malformed ∨
      Frame.ofMessage [2, 0, 14, 0, 136, 119, 102, 85, 68, 51, 34, 17, 35, 21, 0, 136, 119, 202,
        35, 21, 2, 136, 119, 170, 187, 38] = .error .checksum) := by
  have built : ((Builder.new.withTimebase 0x1122334455667788).build .serviceData true 0x123 5
      [170, 187]).1 = .ok [2, 1, 14, 0, 136, 119, 102, 85, 68, 51, 34, 17, 35, 21, 0, 136, 119, 202,
        35, 21, 2, 136, 119, 170, 187, 38] :=
    Builder.build_eq_ok_iff.mpr ⟨by decide, 0x1122334455667788, rfl, by rfl⟩
  obtain ⟨changed, flipped⟩ := altered_message_refused built
  exact ⟨built, changed 20 3 (by decide) (by decide) (by decide), flipped⟩

end NodeLink.Safety

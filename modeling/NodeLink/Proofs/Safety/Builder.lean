import NodeLink.Proofs.Patching
import NodeLink.Proofs.Safety.WireForm

/-! Messages as a builder writes them. Whatever was built before in the same space, a frame is written
as its message, which fits; the reader finds in it what was built, and rebuilding what the reader found
gives the message again. -/
namespace NodeLink

namespace Safety

open Channel (Format)

theorem Frame.length_header (frame : Frame) (size : Nat) :
    (frame.header size).length = messageHeaderSize := by
  simp only [header, List.length_append, List.length_cons, Bytes.length_ofNat, messageHeaderSize]

namespace Builder

variable [Checksums] {frame : Frame} {check : Check} {copy : Copy} {copies : List Copy} {offset : Nat}
  {subframe : Subframe} {space : Bytes}

theorem take_writeSubframe
    (fits : offset + (subframe.toBytes check copy).length ≤ space.length) :
    (writeSubframe check copy offset subframe space).take
        (offset + (subframe.toBytes check copy).length) =
      space.take offset ++ subframe.toBytes check copy := by
  rw [Subframe.toBytes, List.length_append] at fits ⊢
  have standing : (space.overlay offset subframe.covered).slice offset subframe.covered.length =
      subframe.covered := Bytes.slice_overlay (by omega)
  have room : offset + subframe.covered.length + (checksum check copy subframe.covered).length ≤
      (space.overlay offset subframe.covered).length := by
    rw [Bytes.length_overlay]
    omega
  unfold writeSubframe
  simp only [← subframe.length_covered, standing]
  rw [← Nat.add_assoc, Bytes.take_overlay room, Bytes.take_overlay (by omega), List.append_assoc]

/-- The subframes stand behind what was there, where the space has room for them. -/
theorem writeSubframes_spec (fits : offset + (frame.chain copies).length ≤ space.length) :
    ∃ after, writeSubframes frame offset copies space = (offset + (frame.chain copies).length, after) ∧
      after.take (offset + (frame.chain copies).length) = space.take offset ++ frame.chain copies := by
  -- On the subframes: each is written behind the ones before it, and leaves them as they stand.
  induction copies generalizing offset space with
  | nil => exact ⟨space, rfl, (List.append_nil _).symm⟩
  | cons copy rest ih =>
    have split : frame.chain (copy :: rest) =
        (frame.subframe copy).toBytes frame.check copy ++ frame.chain rest := List.flatMap_cons
    have stop : offset + subframeHeaderSize + (frame.subframe copy).data.length + frame.check.size =
        offset + ((frame.subframe copy).toBytes frame.check copy).length := by
      rw [Subframe.length_toBytes]
      omega
    rw [split, List.length_append, ← Nat.add_assoc] at fits ⊢
    have front := take_writeSubframe (Nat.le_trans (Nat.le_add_right _ _) fits)
    have room : offset + ((frame.subframe copy).toBytes frame.check copy).length +
        (frame.chain rest).length ≤
          (writeSubframe frame.check copy offset (frame.subframe copy) space).length := by
      simpa only [writeSubframe, Bytes.length_overlay] using fits
    obtain ⟨after, written, stands⟩ := ih room
    refine ⟨after, ?_, ?_⟩
    · rw [writeSubframes, stop]
      exact written
    · rw [stands, front, List.append_assoc]

/-- A frame is written as its message, whatever the space held. -/
theorem writeFrame_spec (fits : frame.toMessage.length ≤ space.length) :
    (writeFrame frame space).2.take (writeFrame frame space).1 = frame.toMessage := by
  rw [Frame.toMessage, List.length_append, Frame.length_header] at fits
  have room : messageHeaderSize + (frame.chain frame.copies).length ≤ space.length := fits
  obtain ⟨after, written, stands⟩ := writeSubframes_spec room
  have length : after.length = space.length := by
    rw [← length_writeSubframes frame messageHeaderSize frame.copies space, written]
  have header : (frame.header frame.body.length).length = messageHeaderSize :=
    Frame.length_header _ _
  have headed : after.overlay 0 (frame.header frame.body.length) =
      frame.header frame.body.length ++ after.drop messageHeaderSize := by
    rw [Bytes.overlay_eq (by omega), List.take_zero, List.nil_append, Nat.zero_add, header]
  have behind : (after.drop messageHeaderSize).take frame.body.length = frame.body := by
    have front : (space.take messageHeaderSize).length = messageHeaderSize := by
      rw [List.length_take]
      omega
    have dropped := congrArg (List.drop messageHeaderSize) stands
    rwa [List.drop_take, Nat.add_sub_cancel_left, List.drop_left' front] at dropped
  unfold writeFrame
  rw [written]
  dsimp only
  rw [Nat.add_sub_cancel_left]
  change (after.overlay 0 (frame.header frame.body.length)).take (messageHeaderSize + frame.body.length) = _
  rw [headed, ← header, List.take_length_add_append, header, behind]
  rfl

end Builder

namespace Frame

variable {frame : Frame} {flags : UInt8}

/-- What is left of a frame on the wire: ten bits of the address and six of the id. -/
def onWire (frame : Frame) : Frame :=
  { frame with address := frame.address % 1024, id := frame.id % 64 }

theorem legible_onWire (short : frame.data.length ≤ maxData) : frame.onWire.Legible where
  address := by
    rw [onWire, UInt16.toNat_mod]
    exact Nat.mod_lt _ (by decide)
  id := by
    rw [onWire, UInt8.toNat_mod]
    exact Nat.mod_lt _ (by decide)
  data := Nat.lt_of_le_of_lt short (by decide)

theorem bit_eq (flags : UInt8) : flags % 2 = if flags % 2 == 1 then 1 else 0 := by
  have bit : (flags % 2).toNat < 2 := by
    rw [UInt8.toNat_mod]
    exact Nat.mod_lt _ (by decide)
  split
  · rename_i set
    exact eq_of_beq set
  · rename_i unset
    have other : (flags % 2).toNat ≠ 1 := fun one => unset (beq_iff_eq.mpr (UInt8.toNat_inj.mp one))
    apply UInt8.toNat_inj.mp
    change _ = 0
    omega

variable [Checksums]

theorem toMessage_onWire (frame : Frame) : frame.onWire.toMessage = frame.toMessage := by
  have target : Subframe.targetOf frame.onWire.address frame.onWire.id =
      Subframe.targetOf frame.address frame.id := by
    simp only [Subframe.targetOf, onWire, UInt16.toNat_mod, UInt8.toNat_mod]
    change UInt16.ofNat (frame.address.toNat % 1024 % 1024 + frame.id.toNat % 64 % 64 * 1024) = _
    rw [Nat.mod_mod, Nat.mod_mod]
  have same : frame.onWire.subframe = frame.subframe := by
    funext copy
    unfold subframe
    rw [target]
    rfl
  have body : frame.onWire.body = frame.body := by
    rw [Frame.body, chain, same]
    rfl
  rw [toMessage, body]
  rfl

theorem length_under (frame : Frame) (flags : UInt8) :
    (frame.under flags).length = messageHeaderSize + frame.body.length :=
  length_assembled (Bytes.length_ofNat _ _) (Bytes.length_ofNat _ _)

theorem length_toMessage_le (short : frame.data.length ≤ maxData) :
    frame.toMessage.length ≤ maxMessage := by
  have width : frame.check.size ≤ 2 := by cases frame.check <;> decide
  rw [toMessage_eq, length_under, length_body, maxMessage, subframeHeaderSize]
  split <;> omega

/-- The message of a frame is read as what is left of the frame on the wire, whatever follows it. -/
theorem ofMessage_toMessage (short : frame.data.length ≤ maxData) (trailing : Bytes) :
    ofMessage (frame.toMessage ++ trailing) = .ok frame.onWire := by
  rw [← toMessage_onWire, toMessage_eq]
  refine ofMessage_under (legible_onWire short) ?_ trailing
  cases frame.onWire.slim <;> rfl

/-- Of a message that is read as a frame, the frame's own message is what the header says the frame
takes up, but for the reserved flags. -/
theorem toMessage_eq_take (legible : frame.Legible) (slim : (flags % 2 == 1) = frame.slim)
    (trailing : Bytes) : frame.toMessage =
      ((frame.under flags ++ trailing).take (messageHeaderSize +
        ((frame.under flags ++ trailing).slice 2 2).toNat)).modify 1 (· % 2) := by
  have size : ((frame.under flags ++ trailing).slice 2 2).toNat = frame.body.length := by
    rw [under_append, (slice_assembled _ _ _ (Bytes.length_ofNat _ _) (Bytes.length_ofNat _ _) 0).1]
    exact Bytes.toNat_ofNat_of_lt legible.body_lt
  rw [size, List.take_left' (length_under _ _), toMessage_eq, ← slim, ← bit_eq flags]
  rfl

end Frame

namespace Builder

variable [Checksums] {builder : Builder} {format : Format} {slim : Bool} {address : UInt16} {id : UInt8}
  {data message : Bytes}

/-- A builder that has a timebase builds the message of what it is given, whatever it built before, and
no other one. -/
theorem build_eq_ok_iff : (builder.build format slim address id data).1 = .ok message ↔
    data.length ≤ maxData ∧ ∃ timebase, builder.timebase = some timebase ∧
      message = Frame.toMessage ⟨format, slim, timebase, address, id, data⟩ := by
  have spec (timebase : UInt64) (short : data.length ≤ maxData) :
      let written := writeFrame ⟨format, slim, timebase, address, id, data⟩ builder.space
      written.2.take written.1 = Frame.toMessage ⟨format, slim, timebase, address, id, data⟩ :=
    writeFrame_spec (builder.room ▸ Frame.length_toMessage_le short)
  unfold build
  constructor
  · intro built
    split at built
    · contradiction
    rename_i short
    split at built
    · contradiction
    rename_i timebase given
    cases built
    exact ⟨Nat.not_lt.mp short, timebase, given, spec timebase (Nat.not_lt.mp short)⟩
  · rintro ⟨short, timebase, given, rfl⟩
    rw [if_neg (Nat.not_lt.mpr short), given]
    exact congrArg Except.ok (spec timebase short)

end Builder

variable {format : Format} {slim : Bool} {data message : Bytes} {frame : Frame}

/-- A builder with a timebase builds any data that fits into a message that fits, whatever it built
before. The reader finds in it what was built, whatever follows it: ten bits of the address and six of
the id are on the wire. -/
theorem built_message_reads_back (builder : Builder) (timebase : UInt64) (format : Format) (slim : Bool)
    (address : UInt16) (id : UInt8) (short : data.length ≤ maxData) :
    ∃ message after,
      (builder.withTimebase timebase).build format slim address id data = (.ok message, after) ∧
        message.length ≤ maxMessage ∧
        ∀ trailing, Frame.ofMessage (message ++ trailing) =
          .ok ⟨format, slim, timebase, address % 1024, id % 64, data⟩ := by
  have built : ((builder.withTimebase timebase).build format slim address id data).1 =
      .ok (Frame.toMessage ⟨format, slim, timebase, address, id, data⟩) :=
    Builder.build_eq_ok_iff.mpr ⟨short, timebase, rfl, rfl⟩
  exact ⟨_, _, Prod.ext built rfl, Frame.length_toMessage_le short, Frame.ofMessage_toMessage short⟩

/-- The space still holds a full frame with the longest data, and the address and the id are too wide
for the wire. -/
theorem built_message_reads_back_over_longer :
    (List.replicate 20 7 : Bytes).length ≤ maxData ∧ ∃ message after,
      ((((Builder.new.withTimebase 1).build .processData false 0x3FF 63
          (List.replicate 254 255)).2).withTimebase 0x1122334455667788).build .serviceData true 0x923 0x45
            (List.replicate 20 7) = (.ok message, after) ∧
        message.length ≤ maxMessage ∧
        ∀ trailing, Frame.ofMessage (message ++ trailing) =
          .ok ⟨.serviceData, true, 0x1122334455667788, 0x123, 5, List.replicate 20 7⟩ :=
  ⟨by decide, built_message_reads_back
    ((Builder.new.withTimebase 1).build .processData false 0x3FF 63 (List.replicate 254 255)).2
    0x1122334455667788 .serviceData true 0x923 0x45 (by decide)⟩

/-- What the reader accepts is what a builder makes of it: given what was read, any builder gives the
part of the message that its header announces, with the reserved flags cleared. -/
theorem read_message_rebuilds (accepted : Frame.ofMessage message = .ok frame)
    (short : frame.data.length ≤ maxData) (builder : Builder) :
    ((builder.withTimebase frame.timebase).build frame.format frame.slim frame.address frame.id
        frame.data).1 =
      .ok ((message.take (messageHeaderSize + (message.slice 2 2).toNat)).modify 1 (· % 2)) := by
  obtain ⟨legible, flags, trailing, slim, rfl⟩ := Frame.ofMessage_eq_ok_iff.mp accepted
  refine Builder.build_eq_ok_iff.mpr ⟨short, frame.timebase, rfl, ?_⟩
  exact (Frame.toMessage_eq_take legible slim trailing).symm

set_option maxRecDepth 2000 in
/-- A slim frame with reserved flags set and two bytes behind it. -/
theorem read_message_rebuilds_without_flags :
    Frame.ofMessage [2, 0xFD, 14, 0, 136, 119, 102, 85, 68, 51, 34, 17, 35, 21, 0, 136, 119, 202,
        35, 21, 2, 136, 119, 170, 187, 38, 9, 9] =
      .ok ⟨.serviceData, true, 0x1122334455667788, 0x123, 5, [170, 187]⟩ ∧
    ((Builder.new.withTimebase 0x1122334455667788).build .serviceData true 0x123 5 [170, 187]).1 =
      .ok [2, 1, 14, 0, 136, 119, 102, 85, 68, 51, 34, 17, 35, 21, 0, 136, 119, 202,
        35, 21, 2, 136, 119, 170, 187, 38] := by
  have accepted : Frame.ofMessage [2, 0xFD, 14, 0, 136, 119, 102, 85, 68, 51, 34, 17, 35, 21, 0, 136, 119,
      202, 35, 21, 2, 136, 119, 170, 187, 38, 9, 9] =
        .ok ⟨.serviceData, true, 0x1122334455667788, 0x123, 5, [170, 187]⟩ := by rfl
  refine ⟨accepted, ?_⟩
  rw [read_message_rebuilds accepted (by decide) Builder.new]
  rfl

end Safety

end NodeLink

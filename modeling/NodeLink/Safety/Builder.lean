import NodeLink.Checksum
import NodeLink.Safety.Frame

/-! Building messages that carry safety frames. Each frame needs a timebase of its own: one that was
built from is used up, so no two frames of a builder carry the same one unless it is given twice. All
messages of a builder are written in one space, each over those before. -/

namespace NodeLink.Safety

variable [Checksums]

/-- The checksum of covered bytes, as it follows them. -/
def checksum (check : Check) (copy : Copy) (covered : Bytes) : Bytes :=
  match check with
  | .crc8 => [Checksums.crc8 copy.seed.toUInt8 covered]
  | .crc16 => Bytes.ofNat 2 (Checksums.crc16 copy.seed covered).toNat

def Subframe.toBytes (subframe : Subframe) (check : Check) (copy : Copy) : Bytes :=
  subframe.covered ++ checksum check copy subframe.covered

namespace Frame

/-- What each subframe of a frame says. In a slim frame only the first has the data. -/
def subframe (frame : Frame) (copy : Copy) : Subframe where
  target := Subframe.targetOf frame.address frame.id
  time := timeOf frame.timebase
  data :=
    match copy with
    | .first => frame.data
    | .second => if frame.slim then [] else frame.data

/-- The subframes as they follow each other. A slim frame has the second one in front of the first. -/
def copies (frame : Frame) : List Copy := if frame.slim then [.second, .first] else [.first, .second]

def check (frame : Frame) : Check := Check.ofSize frame.data.length

/-- Subframes one behind the other. -/
def chain (frame : Frame) (copies : List Copy) : Bytes :=
  copies.flatMap fun copy => (frame.subframe copy).toBytes frame.check copy

def body (frame : Frame) : Bytes := frame.chain frame.copies

/-- What stands in front of a body of that size. -/
def header (frame : Frame) (size : Nat) : Bytes :=
  frame.format.toByte :: (if frame.slim then 1 else 0) :: Bytes.ofNat 2 size ++
    Bytes.ofNat 8 frame.timebase.toNat

/-- The message that carries a frame. -/
def toMessage (frame : Frame) : Bytes := frame.header frame.body.length ++ frame.body

end Frame

/-- Builds one message after the other in the same space. -/
structure Builder where
  /-- The timebase of the next frame, until it is used. -/
  timebase : Option UInt64
  /-- Where a message is written, over what is left of those before. -/
  space : Bytes
  room : space.length = maxMessage
  deriving DecidableEq, Repr

namespace Builder

def new : Builder := ⟨none, Bytes.zeros maxMessage, List.length_replicate⟩

def withTimebase (timebase : UInt64) (builder : Builder) : Builder :=
  { builder with timebase := some timebase }

/-- Write a subframe at an offset. Its checksum is that of the bytes that then stand there. -/
def writeSubframe (check : Check) (copy : Copy) (offset : Nat) (subframe : Subframe)
    (space : Bytes) : Bytes :=
  let size := subframeHeaderSize + subframe.data.length
  let space := space.overlay offset subframe.covered
  space.overlay (offset + size) (checksum check copy (space.slice offset size))

/-- Write subframes one behind the other. Returns where the last one ends. -/
def writeSubframes (frame : Frame) (offset : Nat) : List Copy → Bytes → Nat × Bytes
  | [], space => (offset, space)
  | copy :: rest, space =>
    let subframe := frame.subframe copy
    let stop := offset + subframeHeaderSize + subframe.data.length + frame.check.size
    writeSubframes frame stop rest (writeSubframe frame.check copy offset subframe space)

/-- Write the message of a frame, its header last. Returns where it ends. -/
def writeFrame (frame : Frame) (space : Bytes) : Nat × Bytes :=
  let (stop, space) := writeSubframes frame messageHeaderSize frame.copies space
  (stop, space.overlay 0 (frame.header (stop - messageHeaderSize)))

theorem length_writeSubframes (frame : Frame) (offset : Nat) (copies : List Copy) (space : Bytes) :
    (writeSubframes frame offset copies space).2.length = space.length := by
  induction copies generalizing offset space with
  | nil => rfl
  | cons copy rest ih => simp only [writeSubframes, ih, writeSubframe, Bytes.length_overlay]

theorem length_writeFrame (frame : Frame) (space : Bytes) :
    (writeFrame frame space).2.length = space.length := by
  simp only [writeFrame, Bytes.length_overlay, length_writeSubframes]

/-- Build a message. Data that is too long leaves the timebase for the next frame. -/
def build (builder : Builder) (format : Channel.Format) (slim : Bool) (address : UInt16)
    (id : UInt8) (data : Bytes) : Except Error Bytes × Builder :=
  if maxData < data.length then (.error .payloadTooLarge, builder)
  else
    match builder.timebase with
    | none => (.error .staleTimebase, builder)
    | some timebase =>
      let written := writeFrame ⟨format, slim, timebase, address, id, data⟩ builder.space
      (.ok (written.2.take written.1),
        ⟨none, written.2, (length_writeFrame _ _).trans builder.room⟩)

end Builder

end NodeLink.Safety

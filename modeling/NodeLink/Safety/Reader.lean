import NodeLink.Safety.Builder

/-! Reading safety frames from messages. Both checksums and the agreement of both subframes are checked
before anything of the frame is used. -/

namespace NodeLink.Safety

open Channel (Format)

variable [Checksums]

/-- Read a subframe that fills the bytes given. -/
def Subframe.read (check : Check) (copy : Copy) (bytes : Bytes) : Except Error Subframe :=
  match bytes with
  | low :: high :: size :: timeLow :: timeHigh :: rest =>
    if rest.length ≠ size.toNat + check.size then .error .malformed
    else
      let subframe : Subframe := {
        target := UInt16.ofNat (Bytes.toNat [low, high])
        time := UInt16.ofNat (Bytes.toNat [timeLow, timeHigh])
        data := rest.take size.toNat
      }
      if checksum check copy subframe.covered = rest.drop size.toNat then .ok subframe
      else .error .checksum
  | _ => .error .malformed

/-- Read a body in which both subframes carry the data. -/
def readFull (body : Bytes) : Except Error (Subframe × Subframe) :=
  match body with
  | _ :: _ :: size :: _ =>
    if body.length % 2 ≠ 0 then .error .malformed
    else do
      let check := Check.ofSize size.toNat
      let half := body.length / 2
      let first ← Subframe.read check .first (body.take half)
      let second ← Subframe.read check .second (body.drop half)
      if first.data = second.data then .ok (first, second) else .error .malformed
  | _ => .error .malformed

/-- Whether a body has the form of a slim frame with this checksum: the data length that stands in the
first subframe accounts for the whole length. -/
def slimShape (check : Check) (body : Bytes) : Bool :=
  let position := slimPosition check
  match body[position + 2]? with
  | none => false
  | some size =>
    Check.ofSize size.toNat = check &&
      body.length == position + subframeHeaderSize + size.toNat + check.size

def readSlimAs (check : Check) (body : Bytes) : Except Error (Subframe × Subframe) := do
  let position := slimPosition check
  let second ← Subframe.read check .second (body.take position)
  if second.data ≠ [] then .error .malformed
  else
    let first ← Subframe.read check .first (body.drop position)
    .ok (first, second)

/-- Read a body whose second subframe stands first and is empty. -/
def readSlim (body : Bytes) : Except Error (Subframe × Subframe) :=
  if slimShape .crc8 body then readSlimAs .crc8 body
  else if slimShape .crc16 body then readSlimAs .crc16 body
  else .error .malformed

def readBody (slim : Bool) (body : Bytes) : Except Error (Subframe × Subframe) :=
  if slim then readSlim body else readFull body

/-- Read the frame in a message. Bytes after the frame are left alone. -/
def Frame.ofMessage (message : Bytes) : Except Error Frame :=
  if message.length < messageHeaderSize then .error .malformed
  else do
    let format ← Format.ofByte (message.getD 0 0)
    let slim := message.getD 1 0 % 2 == 1
    let size := (message.slice 2 2).toNat
    let timebase := UInt64.ofNat (message.slice 4 8).toNat
    if message.length < messageHeaderSize + size then .error .malformed
    else
      let (first, second) ← readBody slim (message.slice messageHeaderSize size)
      if first.target = second.target ∧ first.time = second.time ∧ first.time = timeOf timebase then
        .ok ⟨format, slim, timebase, first.address, first.id, first.data⟩
      else .error .malformed

end NodeLink.Safety

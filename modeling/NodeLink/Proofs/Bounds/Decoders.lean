import NodeLink.ConfigurationChannel.ObjectWrite
import NodeLink.Logbook.Entry
import NodeLink.Proofs.Bounds.Checked
import NodeLink.Proofs.Safety.WireForm
import NodeLink.Status

/-! Reading what came from the other side, byte by byte and range by range. Each decoder checks the
length it was given, and lengths that it finds, before it uses them: it misses no byte of any string. -/
namespace NodeLink

/-- Reads a string that it may refuse. Without an outcome it has missed the string. -/
def Decoder (α : Type) : Type := Option (Except Error α)

namespace Decoder

variable {α β : Type}

def inside (found : Option α) : Decoder α := found.map Except.ok

def ofExcept (result : Except Error α) : Decoder α := some result

def refuse (error : Error) : Decoder α := ofExcept (.error error)

def bind (first : Decoder α) (next : α → Decoder β) : Decoder β :=
  match first with
  | none => none
  | some (.error error) => some (.error error)
  | some (.ok value) => next value

instance : Monad Decoder where
  pure value := some (.ok value)
  bind := bind

/-- It misses nothing, and ends so. -/
def Gives (decoder : Decoder α) (result : Except Error α) : Prop := decoder = some result

namespace Gives

variable {decoder first : Decoder α} {result : Except Error α} {next : α → Decoder β}

theorem done (value : α) : Gives (pure value) (.ok value) := rfl

theorem ofExcept (result : Except Error α) : (Decoder.ofExcept result).Gives result := rfl

theorem refuse (error : Error) : Gives (Decoder.refuse error : Decoder α) (.error error) := rfl

theorem bind {other : α → Except Error β} (begun : first.Gives result)
    (rest : ∀ value, result = .ok value → (next value).Gives (other value)) :
    (first >>= next).Gives (result >>= other) := by
  cases begun
  cases result with
  | error error => rfl
  | ok value => exact rest value rfl

theorem inside_then {found : Option α} {value : α} {result : Except Error β} (there : found = some value)
    (rest : (next value).Gives result) : (inside found >>= next).Gives result := by
  cases there
  exact rest

theorem ite {condition : Prop} [Decidable condition] {other : Decoder α} {former latter : Except Error α}
    (first : condition → decoder.Gives former) (second : ¬ condition → other.Gives latter) :
    Gives (if condition then decoder else other) (if condition then former else latter) := by
  split
  · exact first ‹_›
  · exact second ‹_›

end Gives

end Decoder

namespace Channel.Header

def decode? (bytes : Bytes) : Decoder Header := do
  if bytes.length < headerSize then .refuse .malformed
  else
    let flags ← .inside bytes[0]?
    let format ← .inside bytes[1]?
    let channel ← .inside bytes[2]?
    let low ← .inside bytes[4]?
    let high ← .inside bytes[5]?
    let header : Header := {
      number := .ofByte flags
      retry := 128 ≤ flags
      format := format
      channel := channel
      size := UInt16.ofNat (Bytes.toNat [low, high])
    }
    if header.number = MessageNumber.none ∨ bytes.length < headerSize + header.size.toNat then
      .refuse .malformed
    else return header

/-- The payload, where the header says that it is. -/
def payload? (header : Header) (space : Bytes) : Option Bytes :=
  space.part? headerSize (headerSize + header.size.toNat)

theorem decode?_gives (bytes : Bytes) : (decode? bytes).Gives (decode bytes) := by
  match bytes with
  | flags :: format :: channel :: reserved :: low :: high :: payload =>
    have long : (flags :: format :: channel :: reserved :: low :: high :: payload).length =
        headerSize + payload.length := Nat.add_comm payload.length 6
    unfold decode?
    rw [long, if_neg (by omega)]
    simp only [Nat.add_lt_add_iff_left]
    exact .ite (fun _ => .refuse _) fun _ => .done _
  | [] | [_] | [_, _] | [_, _, _] | [_, _, _, _] | [_, _, _, _, _] => rfl

theorem fits_of_decode {bytes : Bytes} {header : Header} (decoded : decode bytes = .ok header) :
    headerSize + header.size.toNat ≤ bytes.length := by
  unfold decode at decoded
  split at decoded
  · rename_i flags format channel reserved low high payload
    dsimp only at decoded
    split at decoded
    · contradiction
    · rename_i valid
      cases decoded
      have fits : (UInt16.ofNat (Bytes.toNat [low, high])).toNat ≤ payload.length :=
        Nat.not_lt.mp (not_or.mp valid).2
      simp only [List.length_cons, headerSize]
      omega
  · contradiction

end Channel.Header

namespace Status.Record

def decode? (bytes : Bytes) : Decoder Record := do
  if bytes.length < recordSize then .refuse .malformed
  else
    let timestamp ← .inside (bytes.part? 0 8)
    let cycles ← .inside (bytes.part? 8 12)
    let state ← .inside bytes[12]?
    return ⟨UInt64.ofNat timestamp.toNat, UInt32.ofNat cycles.toNat, state⟩

theorem decode?_gives (bytes : Bytes) : (decode? bytes).Gives (decode bytes) := by
  apply Decoder.Gives.ite
  · exact fun _ => .refuse _
  · intro long
    have whole : 16 ≤ bytes.length := Nat.not_lt.mp long
    apply Decoder.Gives.inside_then (Bytes.part?_of_le (by decide) (by omega))
    apply Decoder.Gives.inside_then (Bytes.part?_of_le (by decide) (by omega))
    apply Decoder.Gives.inside_then (Bytes.getElem?_of_lt (by omega))
    exact .done _

end Status.Record

namespace ConfigurationChannel.ObjectWrite

def decode? (bytes : Bytes) : Decoder ObjectWrite := do
  if bytes.length < 4 then .refuse .malformed
  else
    let size := (← .inside bytes[3]?).toNat
    if maxData < size ∨ bytes.length < 4 + size then .refuse .malformed
    else
      let low ← .inside bytes[0]?
      let high ← .inside bytes[1]?
      let subindex ← .inside bytes[2]?
      let data ← .inside (bytes.part? 4 (4 + size))
      .ofExcept (new ⟨UInt16.ofNat (Bytes.toNat [low, high]), subindex⟩ data)

theorem decode?_gives (bytes : Bytes) : (decode? bytes).Gives (decode bytes) := by
  match bytes with
  | low :: high :: subindex :: size :: rest =>
    have long : (low :: high :: subindex :: size :: rest).length = 4 + rest.length :=
      Nat.add_comm rest.length 4
    by_cases valid : size.toNat ≤ maxData ∧ size.toNat ≤ rest.length
    · have made : decode (low :: high :: subindex :: size :: rest) =
          new ⟨UInt16.ofNat (Bytes.toNat [low, high]), subindex⟩ (rest.take size.toNat) := by
        rw [new, dif_pos (Nat.le_trans (List.length_take_le _ _) valid.1)]
        exact dif_pos valid
      have there : Bytes.part? (low :: high :: subindex :: size :: rest) 4 (4 + size.toNat) =
          some (rest.take size.toNat) := by
        rw [Bytes.part?_of_le (by omega) (by omega), Nat.add_sub_cancel_left]
        rfl
      rw [made, decode?, if_neg (by omega)]
      apply Decoder.Gives.inside_then rfl
      rw [if_neg (by omega)]
      apply Decoder.Gives.inside_then rfl
      apply Decoder.Gives.inside_then rfl
      apply Decoder.Gives.inside_then rfl
      apply Decoder.Gives.inside_then there
      exact .ofExcept _
    · have refused : decode (low :: high :: subindex :: size :: rest) = .error .malformed :=
        dif_neg valid
      rw [refused, decode?, if_neg (by omega)]
      apply Decoder.Gives.inside_then rfl
      rw [if_pos (by omega)]
      exact .refuse _
  | [] | [_] | [_, _] | [_, _, _] => rfl

end ConfigurationChannel.ObjectWrite

namespace Logbook.Entry

def decode? (bytes : Bytes) : Decoder Entry := do
  if bytes.length ≠ entrySize then .refuse .malformed
  else
    let level ← .inside bytes[0]?
    let source ← .inside bytes[1]?
    let code := [← .inside bytes[2]?, ← .inside bytes[3]?]
    let info := [← .inside bytes[4]?, ← .inside bytes[5]?, ← .inside bytes[6]?, ← .inside bytes[7]?]
    return ⟨level, source, UInt16.ofNat (Bytes.toNat code), Bytes.toWord info⟩

theorem decode?_gives (bytes : Bytes) : (decode? bytes).Gives (decode bytes) := by
  by_cases whole : bytes.length = entrySize
  · match bytes, whole with
    | [_, _, _, _, _, _, _, _], _ => rfl
  · have refused : decode bytes = .error .malformed := by
      unfold decode
      split
      · exact absurd rfl whole
      · rfl
    rw [decode?, if_pos whole, refused]
    exact .refuse _

end Logbook.Entry

namespace Safety

open Channel (Format)

/-- The checksum that stands at a position. -/
def Check.sum? (check : Check) (bytes : Bytes) (position : Nat) : Option Bytes :=
  match check with
  | .crc8 => do return [← bytes[position]?]
  | .crc16 => do return [← bytes[position]?, ← bytes[position + 1]?]

theorem Check.sum?_append (check : Check) (front : Bytes) {sum : Bytes} (whole : sum.length = check.size) :
    check.sum? (front ++ sum) front.length = some sum := by
  have here : (front ++ sum)[front.length]? = sum[0]? := by
    rw [List.getElem?_append_right (Nat.le_refl _), Nat.sub_self]
  have next : (front ++ sum)[front.length + 1]? = sum[1]? := by
    rw [List.getElem?_append_right (Nat.le_add_right _ _), Nat.add_sub_cancel_left]
  cases check with
  | crc8 =>
    match sum, whole with
    | [_], _ => simp only [sum?, here, List.getElem?_cons_zero]; rfl
  | crc16 =>
    match sum, whole with
    | [_, _], _ => simp only [sum?, here, next, List.getElem?_cons_zero, List.getElem?_cons_succ]; rfl

namespace Subframe

/-- The bytes of a subframe are those that its checksum covers, and the checksum. -/
theorem covered_append {low high size timeLow timeHigh : UInt8} {rest : Bytes} {subframe : Subframe}
    (read : subframe = ⟨UInt16.ofNat (Bytes.toNat [low, high]),
      UInt16.ofNat (Bytes.toNat [timeLow, timeHigh]), rest.take size.toNat⟩)
    (long : size.toNat ≤ rest.length) :
    low :: high :: size :: timeLow :: timeHigh :: rest = subframe.covered ++ rest.drop size.toNat ∧
      subframe.covered.length = subframeHeaderSize + size.toNat := by
  have data : (rest.take size.toNat).length = size.toNat := by rw [List.length_take, Nat.min_eq_left long]
  have front : subframe.covered = low :: high :: size :: timeLow :: timeHigh ::
      rest.take size.toNat := by
    rw [read, covered, ofNat_two_toNat, ofNat_two_toNat, data, UInt8.ofNat_toNat]
    rfl
  constructor
  · rw [front]
    simp only [List.cons_append, List.take_append_drop]
  · rw [length_covered, read, data]

end Subframe

variable [Checksums]

namespace Subframe

def read? (check : Check) (copy : Copy) (bytes : Bytes) : Decoder Subframe := do
  if bytes.length < subframeHeaderSize + check.size then .refuse .malformed
  else
    let covered := subframeHeaderSize + (← .inside bytes[2]?).toNat
    if bytes.length ≠ covered + check.size then .refuse .malformed
    else
      let front ← .inside (bytes.part? 0 covered)
      let sum ← .inside (check.sum? bytes covered)
      if checksum check copy front = sum then
        let target := [← .inside bytes[0]?, ← .inside bytes[1]?]
        let time := [← .inside bytes[3]?, ← .inside bytes[4]?]
        let data ← .inside (bytes.part? subframeHeaderSize covered)
        return ⟨UInt16.ofNat (Bytes.toNat target), UInt16.ofNat (Bytes.toNat time), data⟩
      else .refuse .checksum

theorem read?_gives (check : Check) (copy : Copy) (bytes : Bytes) :
    (read? check copy bytes).Gives (read check copy bytes) := by
  match bytes with
  | low :: high :: size :: timeLow :: timeHigh :: rest =>
    have long : (low :: high :: size :: timeLow :: timeHigh :: rest).length =
        subframeHeaderSize + rest.length := Nat.add_comm rest.length 5
    by_cases whole : rest.length = size.toNat + check.size
    · let subframe : Subframe := ⟨UInt16.ofNat (Bytes.toNat [low, high]),
        UInt16.ofNat (Bytes.toNat [timeLow, timeHigh]), rest.take size.toNat⟩
      obtain ⟨split, covers⟩ := covered_append (rfl : subframe = _) (Nat.le.intro whole.symm)
      have sum : (rest.drop size.toNat).length = check.size := by
        rw [List.length_drop]
        omega
      have running : read check copy (low :: high :: size :: timeLow :: timeHigh :: rest) =
          if checksum check copy subframe.covered = rest.drop size.toNat then .ok subframe
          else .error .checksum := if_neg (Decidable.not_not.mpr whole)
      rw [running, read?, if_neg (by omega)]
      apply Decoder.Gives.inside_then rfl
      rw [if_neg (by omega)]
      apply Decoder.Gives.inside_then (Bytes.part?_zero (by omega))
      rw [split, ← covers]
      apply Decoder.Gives.inside_then (check.sum?_append _ sum)
      rw [List.take_left]
      apply Decoder.Gives.ite
      · intro _
        rw [← split, covers]
        apply Decoder.Gives.inside_then rfl
        apply Decoder.Gives.inside_then rfl
        apply Decoder.Gives.inside_then rfl
        apply Decoder.Gives.inside_then rfl
        apply Decoder.Gives.inside_then (Bytes.part?_of_le (by omega) (by omega))
        rw [Nat.add_sub_cancel_left]
        exact .done subframe
      · exact fun _ => .refuse _
    · have running : read check copy (low :: high :: size :: timeLow :: timeHigh :: rest) =
          .error .malformed := if_pos whole
      rw [running, read?]
      by_cases short : rest.length < check.size
      · rw [if_pos (by omega)]
        exact .refuse _
      · rw [if_neg (by omega)]
        apply Decoder.Gives.inside_then rfl
        rw [if_pos (by omega)]
        exact .refuse _
  | [] | [_] | [_, _] | [_, _, _] | [_, _, _, _] => cases check <;> rfl

end Subframe

def readFull? (body : Bytes) : Decoder (Subframe × Subframe) := do
  if body.length < 3 then .refuse .malformed
  else
    let check := Check.ofSize (← .inside body[2]?).toNat
    let half := body.length / 2
    if body.length % 2 ≠ 0 then .refuse .malformed
    else
      let first ← Subframe.read? check .first (← .inside (body.part? 0 half))
      let second ← Subframe.read? check .second (← .inside (body.part? half body.length))
      if first.data = second.data then return (first, second) else .refuse .malformed

theorem readFull?_gives (body : Bytes) : (readFull? body).Gives (readFull body) := by
  match body with
  | low :: high :: size :: rest =>
    rw [readFull?, if_neg (by simp only [List.length_cons]; omega)]
    apply Decoder.Gives.inside_then rfl
    apply Decoder.Gives.ite
    · exact fun _ => .refuse _
    · intro _
      apply Decoder.Gives.inside_then (Bytes.part?_zero (Nat.div_le_self _ 2))
      apply Decoder.Gives.bind (Subframe.read?_gives _ _ _)
      intro first _
      apply Decoder.Gives.inside_then (Bytes.part?_drop (Nat.div_le_self _ 2))
      apply Decoder.Gives.bind (Subframe.read?_gives _ _ _)
      intro second _
      exact .ite (fun _ => .done _) fun _ => .refuse _
  | [] | [_] | [_, _] => rfl

def readSlimAs? (check : Check) (body : Bytes) : Decoder (Subframe × Subframe) := do
  let position := slimPosition check
  let second ← Subframe.read? check .second (← .inside (body.part? 0 position))
  if second.data ≠ [] then .refuse .malformed
  else
    let first ← Subframe.read? check .first (← .inside (body.part? position body.length))
    return (first, second)

/-- The shape of a slim body tells that both subframes are there. -/
theorem readSlimAs?_gives {check : Check} {body : Bytes} (shape : slimShape check body = true) :
    (readSlimAs? check body).Gives (readSlimAs check body) := by
  obtain ⟨size, -, -, length⟩ := slimShape_iff.mp shape
  have fits : slimPosition check ≤ body.length := by omega
  apply Decoder.Gives.inside_then (Bytes.part?_zero fits)
  apply Decoder.Gives.bind (Subframe.read?_gives _ _ _)
  intro second _
  apply Decoder.Gives.ite
  · exact fun _ => .refuse _
  · intro _
    apply Decoder.Gives.inside_then (Bytes.part?_drop fits)
    apply Decoder.Gives.bind (Subframe.read?_gives _ _ _)
    exact fun first _ => .done _

def readSlim? (body : Bytes) : Decoder (Subframe × Subframe) :=
  if slimShape .crc8 body then readSlimAs? .crc8 body
  else if slimShape .crc16 body then readSlimAs? .crc16 body
  else .refuse .malformed

def readBody? (slim : Bool) (body : Bytes) : Decoder (Subframe × Subframe) :=
  if slim then readSlim? body else readFull? body

theorem readBody?_gives (slim : Bool) (body : Bytes) : (readBody? slim body).Gives (readBody slim body) :=
  .ite (fun _ => .ite readSlimAs?_gives fun _ => .ite readSlimAs?_gives fun _ => .refuse _)
    fun _ => readFull?_gives body

/-- A range for the body that is not there is refused, not missed. -/
def Frame.ofMessage? (message : Bytes) : Decoder Frame := do
  if message.length < messageHeaderSize then .refuse .malformed
  else
    let format ← .ofExcept (Format.ofByte (← .inside message[0]?))
    let slim := (← .inside message[1]?) % 2 == 1
    let size := Bytes.toNat [← .inside message[2]?, ← .inside message[3]?]
    let timebase := UInt64.ofNat (← .inside (message.part? 4 12)).toNat
    match message.part? messageHeaderSize (messageHeaderSize + size) with
    | none => .refuse .malformed
    | some body =>
      let (first, second) ← readBody? slim body
      if first.target = second.target ∧ first.time = second.time ∧ first.time = timeOf timebase then
        return ⟨format, slim, timebase, first.address, first.id, first.data⟩
      else .refuse .malformed

theorem Frame.ofMessage?_gives (message : Bytes) : (ofMessage? message).Gives (ofMessage message) := by
  apply Decoder.Gives.ite
  · exact fun _ => .refuse _
  · intro long
    rw [Nat.not_lt, messageHeaderSize] at long
    have size : [message.getD 2 0, message.getD 3 0] = message.slice 2 2 :=
      (Bytes.slice_two (by omega)).symm
    apply Decoder.Gives.inside_then (Bytes.getElem?_of_lt (by omega))
    apply Decoder.Gives.bind (.ofExcept _)
    intro format _
    apply Decoder.Gives.inside_then (Bytes.getElem?_of_lt (by omega))
    apply Decoder.Gives.inside_then (Bytes.getElem?_of_lt (by omega))
    apply Decoder.Gives.inside_then (Bytes.getElem?_of_lt (by omega))
    apply Decoder.Gives.inside_then (Bytes.part?_of_le (by decide) (by omega))
    rw [size]
    by_cases short : message.length < messageHeaderSize + (message.slice 2 2).toNat
    · rw [Bytes.part?, if_neg (by omega), if_pos short]
      exact .refuse _
    · rw [Bytes.part?_of_le (by omega) (by omega), if_neg short, Nat.add_sub_cancel_left]
      apply Decoder.Gives.bind (readBody?_gives _ _)
      rintro ⟨first, second⟩ _
      exact .ite (fun _ => .done _) fun _ => .refuse _

end Safety

end NodeLink

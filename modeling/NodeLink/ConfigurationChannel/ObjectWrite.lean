import NodeLink.Bytes
import NodeLink.Error

/-! Object writes as the configuration channel carries them: index, subindex, size, and eight bytes of
which the first `size` are the value. -/

namespace NodeLink.ConfigurationChannel

def maxData : Nat := 8

/-- Every write takes the same space in a message. -/
def objectSize : Nat := 4 + maxData

structure ObjectWrite where
  object : ObjectRef
  data : Bytes
  short : data.length ≤ maxData
  deriving DecidableEq

namespace ObjectWrite

def new (object : ObjectRef) (data : Bytes) : Except Error ObjectWrite :=
  if short : data.length ≤ maxData then .ok ⟨object, data, short⟩ else .error .payloadTooLarge

def toBytes (write : ObjectWrite) : Bytes :=
  Bytes.ofNat 2 write.object.index.toNat ++ write.object.subindex :: UInt8.ofNat write.data.length ::
    write.data ++ Bytes.zeros (maxData - write.data.length)

/-- Read a write from a payload that may be shorter or longer than usual. -/
def decode : Bytes → Except Error ObjectWrite
  | low :: high :: subindex :: size :: rest =>
    if valid : size.toNat ≤ maxData ∧ size.toNat ≤ rest.length then .ok {
      object := ⟨UInt16.ofNat (Bytes.toNat [low, high]), subindex⟩
      data := rest.take size.toNat
      short := by rw [List.length_take]; omega
    }
    else .error .malformed
  | _ => .error .malformed

@[simp] theorem length_toBytes (write : ObjectWrite) : write.toBytes.length = objectSize := by
  have short := write.short
  simp only [toBytes, Bytes.zeros, List.length_append, List.length_cons, Bytes.length_ofNat,
    List.length_replicate, objectSize]
  omega

theorem decode_toBytes (write : ObjectWrite) : decode write.toBytes = .ok write := by
  obtain ⟨⟨index, subindex⟩, data, short⟩ := write
  have size : (UInt8.ofNat data.length).toNat = data.length := by
    rw [UInt8.toNat_ofNat']
    exact Nat.mod_eq_of_lt (Nat.lt_of_le_of_lt short (by decide))
  have number : UInt16.ofNat (Bytes.ofNat 2 index.toNat).toNat = index := by
    rw [Bytes.toNat_ofNat_of_lt index.toNat_lt, UInt16.ofNat_toNat]
  have valid : (UInt8.ofNat data.length).toNat ≤ maxData ∧ (UInt8.ofNat data.length).toNat ≤
      (data ++ Bytes.zeros (maxData - data.length)).length := by
    rw [size, List.length_append]
    omega
  have value : (data ++ Bytes.zeros (maxData - data.length)).take (UInt8.ofNat data.length).toNat =
      data := by rw [size, List.take_left]
  have taken : decode (toBytes ⟨⟨index, subindex⟩, data, short⟩) = .ok
      ⟨⟨UInt16.ofNat (Bytes.ofNat 2 index.toNat).toNat, subindex⟩,
        (data ++ Bytes.zeros (maxData - data.length)).take (UInt8.ofNat data.length).toNat,
        by rw [value]; exact short⟩ := dif_pos valid
  rw [taken]
  simp only [number, value]

end ObjectWrite

/-- An object that the communication processor accepts writes of. -/
structure Link where
  object : ObjectRef
  size : Nat
  deriving DecidableEq, Repr

def Link.accepts (link : Link) (write : ObjectWrite) : Bool :=
  link.object = write.object && link.size == write.data.length

end NodeLink.ConfigurationChannel

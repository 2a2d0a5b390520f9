/-! Objects of the object dictionary, as the channels name them. -/

namespace NodeLink

structure ObjectRef where
  index : UInt16
  subindex : UInt8
  deriving DecidableEq, Repr

/-- The reason a dictionary gives for refusing an access. -/
structure AbortCode where
  value : UInt32
  deriving DecidableEq, Repr

namespace AbortCode

def noObject : AbortCode := ⟨0x06020000⟩
def noSubindex : AbortCode := ⟨0x06090011⟩
def lengthMismatch : AbortCode := ⟨0x06070010⟩
def readOnly : AbortCode := ⟨0x06010002⟩
def general : AbortCode := ⟨0x08000000⟩

end AbortCode

end NodeLink

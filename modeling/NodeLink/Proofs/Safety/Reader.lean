import NodeLink.Safety.Reader

/-! Why the reader refuses a message: for its form, or for its checksums. -/
namespace NodeLink.Safety

/-- It fails for the form of what is read, or for a checksum in it, if it fails. -/
def Refuses {α : Type} (result : Except Error α) : Prop :=
  ∀ error, result = .error error → error = .malformed ∨ error = .checksum

namespace Refuses

variable {α β : Type} {result first second : Except Error α} {condition : Prop}

theorem ok (value : α) : Refuses (.ok value) := nofun

theorem malformed : Refuses (.error .malformed : Except Error α) := by
  intro error same
  cases same
  exact .inl rfl

theorem checksum : Refuses (.error .checksum : Except Error α) := by
  intro error same
  cases same
  exact .inr rfl

theorem bind {next : α → Except Error β} (refuses : Refuses result)
    (rest : ∀ value, Refuses (next value)) : Refuses (result >>= next) := by
  cases result with
  | error other =>
    intro error same
    cases same
    exact refuses other rfl
  | ok value => exact rest value

theorem ite [Decidable condition] (holds : Refuses first) (fails : Refuses second) :
    Refuses (if condition then first else second) := by
  split
  · exact holds
  · exact fails

end Refuses

theorem format_refuses (byte : UInt8) : Refuses (Channel.Format.ofByte byte) :=
  .ite (.ok _) (.ite (.ok _) .malformed)

variable [Checksums]

theorem Subframe.read_refuses (check : Check) (copy : Copy) (bytes : Bytes) :
    Refuses (Subframe.read check copy bytes) := by
  unfold Subframe.read
  split
  · exact .ite .malformed (.ite (.ok _) .checksum)
  · exact .malformed

theorem readFull_refuses (body : Bytes) : Refuses (readFull body) := by
  unfold readFull
  split
  · apply Refuses.ite .malformed
    apply Refuses.bind (Subframe.read_refuses _ _ _)
    intro first
    apply Refuses.bind (Subframe.read_refuses _ _ _)
    intro second
    exact .ite (.ok _) .malformed
  · exact .malformed

theorem readSlimAs_refuses (check : Check) (body : Bytes) : Refuses (readSlimAs check body) := by
  apply Refuses.bind (Subframe.read_refuses _ _ _)
  intro second
  apply Refuses.ite .malformed
  apply Refuses.bind (Subframe.read_refuses _ _ _)
  intro first
  exact .ok _

theorem readBody_refuses (slim : Bool) (body : Bytes) : Refuses (readBody slim body) := by
  unfold readBody readSlim
  apply Refuses.ite
  · exact .ite (readSlimAs_refuses _ _) (.ite (readSlimAs_refuses _ _) .malformed)
  · exact readFull_refuses body

/-- A message that is no frame is refused for its form or a checksum. -/
theorem Frame.ofMessage_refuses (message : Bytes) : Refuses (Frame.ofMessage message) := by
  unfold Frame.ofMessage
  apply Refuses.ite .malformed
  apply Refuses.bind (format_refuses _)
  intro format
  apply Refuses.ite .malformed
  apply Refuses.bind (readBody_refuses _ _)
  intro subframes
  exact .ite (.ok _) .malformed

end NodeLink.Safety

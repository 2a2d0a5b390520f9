import NodeLink.Bytes

/-! Bytes that are replaced in place: the patch is found where it was put, and all other bytes stay. -/
namespace NodeLink.Bytes

variable {bytes patch after : Bytes} {offset size index : Nat}

theorem overlay_eq (fits : offset + patch.length ≤ bytes.length) :
    bytes.overlay offset patch = bytes.take offset ++ (patch ++ bytes.drop (offset + patch.length)) := by
  rw [overlay, List.append_assoc]
  apply List.take_of_length_le
  simp only [List.length_append, List.length_take, List.length_drop]
  omega

theorem take_overlay (fits : offset + patch.length ≤ bytes.length) :
    (bytes.overlay offset patch).take (offset + patch.length) = bytes.take offset ++ patch := by
  rw [overlay_eq fits, ← List.append_assoc]
  apply List.take_left'
  rw [List.length_append, List.length_take]
  omega

theorem slice_overlay (fits : offset + patch.length ≤ bytes.length) :
    (bytes.overlay offset patch).slice offset patch.length = patch := by
  rw [slice, overlay_eq fits, List.drop_left', List.take_left]
  rw [List.length_take]
  omega

/-- Bytes that replace all others. -/
theorem overlay_whole (same : patch.length = bytes.length) : bytes.overlay 0 patch = patch := by
  rw [overlay, List.take_zero, List.nil_append, Nat.zero_add, same, List.drop_length, List.append_nil,
    ← same, List.take_length]

theorem getElem?_overlay_of_apart (apart : index < offset ∨ offset + patch.length ≤ index) :
    (bytes.overlay offset patch)[index]? = bytes[index]? := by
  by_cases inside : index < bytes.length
  · rw [overlay, List.getElem?_take_of_lt inside]
    rcases apart with before | behind
    · have front : index < (bytes.take offset).length := by
        rw [List.length_take]
        omega
      rw [List.append_assoc, List.getElem?_append_left front, List.getElem?_take_of_lt before]
    · have front : (bytes.take offset ++ patch).length = offset + patch.length := by
        rw [List.length_append, List.length_take]
        omega
      rw [List.getElem?_append_right (by omega), List.getElem?_drop, front,
        Nat.add_sub_of_le behind]
  · rw [List.getElem?_eq_none (by rw [length_overlay]; omega), List.getElem?_eq_none (by omega)]

theorem slice_congr
    (same : ∀ index, offset ≤ index → index < offset + size → after[index]? = bytes[index]?) :
    after.slice offset size = bytes.slice offset size := by
  apply List.ext_getElem?
  intro index
  simp only [slice, List.getElem?_take, List.getElem?_drop]
  split
  · exact same (offset + index) (by omega) (by omega)
  · rfl

end NodeLink.Bytes

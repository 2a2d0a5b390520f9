import NodeLink.Proofs.Bounds.Checked
import NodeLink.Proofs.Safety.Builder

/-! The copy of loaded words into a space, with every range checked: chunk by chunk at first, then word
by word, of the last word as many bytes as there is space for. -/
namespace NodeLink

namespace Bytes

variable {bytes first second patch : Bytes} {offset : Nat}

theorem overlay_nil : bytes.overlay offset [] = bytes := by
  rw [overlay, List.append_nil, List.length_nil, Nat.add_zero, List.take_append_drop, List.take_length]

/-- What does not fit is cut off. -/
theorem overlay_take (inside : offset ≤ bytes.length) :
    bytes.overlay offset (patch.take (bytes.length - offset)) = bytes.overlay offset patch := by
  by_cases fits : patch.length ≤ bytes.length - offset
  · rw [List.take_of_length_le fits]
  · have cut : (patch.take (bytes.length - offset)).length = bytes.length - offset := by
      rw [List.length_take]
      omega
    have start : (bytes.take offset).length = offset := by
      rw [List.length_take, Nat.min_eq_left inside]
    have whole : (bytes.take offset).take bytes.length = bytes.take offset :=
      List.take_of_length_le (by omega)
    rw [overlay_eq (by omega), cut, Nat.add_sub_cancel' inside, List.drop_length, List.append_nil,
      overlay, List.drop_of_length_le (by omega), List.append_nil, List.take_append, start, whole]

theorem overlay_overlay (fits : offset + first.length ≤ bytes.length) :
    (bytes.overlay offset first).overlay (offset + first.length) second =
      bytes.overlay offset (first ++ second) := by
  have behind : (bytes.overlay offset first).drop (offset + first.length + second.length) =
      bytes.drop (offset + (first ++ second).length) := by
    have start : (bytes.take offset ++ first).length = offset + first.length := by
      rw [List.length_append, List.length_take]
      omega
    rw [overlay_eq fits, ← List.append_assoc, ← List.drop_drop, ← start, List.drop_left, start,
      List.drop_drop, List.length_append, Nat.add_assoc]
  rw [overlay, take_overlay fits, behind, length_overlay, overlay, List.append_assoc _ first second]

end Bytes

namespace Bus

/-- Copy so many words to an offset of the space. -/
def copyWords : (count address offset : Nat) → Checked Bus Unit (Option Error)
  | 0, _, _ => return none
  | count + 1, address, offset => do
    match ← .lift (Action.ask (load address)) with
    | .error error => return some error
    | .ok word =>
      let space ← .space
      let bytes ← .inside ((Bytes.ofWord word).part? 0 (min 4 (space.length - offset)))
      .setSpace (← .inside (space.put? offset bytes))
      copyWords count (address + 4) (offset + 4)

/-- Copy so many chunks to an offset of the space, then words to the rest of it. -/
def copyChunks : (chunks address offset : Nat) → Checked Bus Unit (Option Error)
  | 0, address, offset => do
    copyWords (Bytes.wordCount ((← .space).length - offset)) address offset
  | chunks + 1, address, offset => do
    match ← .lift (Action.ask (loadChunk address)) with
    | .error error => return some error
    | .ok chunk =>
      .setSpace (← .inside ((← .space).put? offset chunk.toBytes))
      copyChunks chunks (address + chunkBytes) (offset + chunkBytes)

/-- Fill the space. -/
def copyBytes (address : Nat) : Checked Bus Unit (Option Error) := do
  copyChunks ((← .space).length / chunkBytes) address 0

/-- Any answer. -/
def Anything (request : Bus.Request) (_ : Bus.Answer request) : Prop := True

variable {space : Bytes} {offset : Nat}

theorem ask_form {S : Signature} {σ α β : Type} (program : Prog S α) (form : α → β) :
    (Action.ask (program.bind fun value => .done (form value)) : Action S σ β) =
      (Action.ask program >>= fun value => pure (form value)) := by
  funext state
  change (program.bind _).bind _ = (program.bind _).bind _
  rw [Prog.bind_assoc, Prog.bind_assoc]
  rfl

theorem copyWords_agrees (count address : Nat) (inside : offset ≤ space.length)
    (all : count = Bytes.wordCount (space.length - offset)) :
    (copyWords count address offset).Agrees Anything (Action.ask (Words.loadEach load address count)) ()
      space (fun failure run _ after => failure = run.failure ∧
        after = space.overlay offset (run.moved.flatMap Bytes.ofWord)) fun _ _ => False := by
  induction count generalizing address offset space with
  | zero => exact .done ⟨rfl, Bytes.overlay_nil.symm⟩
  | succ count ih =>
    refine Prog.Matches.ask (S := Bus) (.load address) fun answer _ => ?_
    cases answer with
    | error error => exact Prog.Matches.done (.ok ⟨rfl, Bytes.overlay_nil.symm⟩)
    | ok word =>
      have left : 0 < space.length - offset := by
        rw [Bytes.wordCount] at all
        omega
      have room : min 4 (space.length - offset) ≤ (Bytes.ofWord word).length := by
        rw [Bytes.length_ofWord]
        exact Nat.min_le_left _ _
      have put : Bytes.put? space offset ((Bytes.ofWord word).take (min 4 (space.length - offset))) =
          some (space.overlay offset (Bytes.ofWord word)) := by
        have cut : (Bytes.ofWord word).take (min 4 (space.length - offset)) =
            (Bytes.ofWord word).take (space.length - offset) := by
          rw [List.take_eq_take_iff, Bytes.length_ofWord]
          omega
        rw [cut, Bytes.put?, if_pos (by rw [List.length_take]; omega), Bytes.overlay_take inside]
      change Checked.Agrees Anything (do
        let space ← .space
        let bytes ← .inside (Bytes.part? (Bytes.ofWord word) 0 (min 4 (space.length - offset)))
        .setSpace (← .inside (Bytes.put? space offset bytes))
        copyWords count (address + 4) (offset + 4))
        (Action.ask ((Words.loadEach load (address + 4) count).bind fun run =>
          .done { run with moved := word :: run.moved })) () space _ _
      rw [ask_form]
      apply Checked.Agrees.space_then
      apply Checked.Agrees.inside_then (Bytes.part?_zero room)
      apply Checked.Agrees.inside_then put
      apply Checked.Agrees.setSpace_then
      apply Checked.Agrees.returning
      have joined (moved : List UInt32) : space.overlay offset ((word :: moved).flatMap Bytes.ofWord) =
          space.overlay offset (Bytes.ofWord word ++ moved.flatMap Bytes.ofWord) := rfl
      by_cases further : offset + 4 ≤ space.length
      · apply (ih (address + 4) (by rwa [Bytes.length_overlay]) ?_).mono
        · rintro failure run _ after ⟨same, rfl⟩
          rw [joined, ← Bytes.overlay_overlay further]
          exact ⟨same, rfl⟩
        · exact fun _ _ missed => missed.elim
        · rw [Bytes.length_overlay]
          rw [Bytes.wordCount] at *
          omega
      · have last : count = 0 := by
          rw [Bytes.wordCount] at all
          omega
        subst last
        exact .done ⟨rfl, by rw [joined, List.flatMap_nil, List.append_nil]⟩

theorem copyChunks_agrees (chunks address : Nat) (fits : offset + chunkBytes * chunks ≤ space.length) :
    (copyChunks chunks address offset).Agrees Anything
      (Action.ask (loadChunks chunks address (space.length - (offset + chunkBytes * chunks)))) () space
      (fun failure transfer _ after => failure = transfer.failure ∧
        after = space.overlay offset transfer.moved) fun _ _ => False := by
  induction chunks generalizing address offset space with
  | zero =>
    apply Checked.Agrees.space_then
    change Checked.Agrees Anything _ (Action.ask ((Words.loadEach load address
      (Bytes.wordCount (space.length - offset))).bind fun run =>
        .done (Transfer.ofWords (space.length - offset) run))) () space _ _
    rw [ask_form]
    apply Checked.Agrees.returning
    apply (copyWords_agrees _ address fits rfl).mono
    · rintro failure run _ after ⟨same, rfl⟩
      exact ⟨same, (Bytes.overlay_take fits).symm⟩
    · exact nofun
  | succ chunks ih =>
    refine Prog.Matches.ask (S := Bus) (.loadChunk address) fun answer _ => ?_
    cases answer with
    | error error => exact Prog.Matches.done (.ok ⟨rfl, Bytes.overlay_nil.symm⟩)
    | ok chunk =>
      have next : offset + chunkBytes * (chunks + 1) = offset + chunkBytes + chunkBytes * chunks := by
        rw [Nat.mul_succ, Nat.add_assoc, Nat.add_comm (chunkBytes * chunks)]
      rw [next] at fits ⊢
      have within : offset + chunk.toBytes.length ≤ space.length := by
        rw [chunk.length_toBytes]
        exact Nat.le_trans (Nat.le_add_right _ _) fits
      rw [← Bytes.length_overlay space offset chunk.toBytes] at fits ⊢
      change Checked.Agrees Anything (do
        .setSpace (← .inside (Bytes.put? (← .space) offset chunk.toBytes))
        copyChunks chunks (address + chunkBytes) (offset + chunkBytes))
        (Action.ask ((loadChunks chunks (address + chunkBytes) _).bind fun rest =>
          .done { rest with moved := chunk.toBytes ++ rest.moved })) () space _ _
      rw [ask_form]
      apply Checked.Agrees.space_then
      apply Checked.Agrees.inside_then (if_pos within)
      apply Checked.Agrees.setSpace_then
      apply Checked.Agrees.returning
      apply (ih (address + chunkBytes) fits).mono
      · rintro failure transfer _ after ⟨same, rfl⟩
        rw [← Bytes.overlay_overlay within, chunk.length_toBytes]
        exact ⟨same, rfl⟩
      · exact nofun

/-- The words of a load go where they belong, and no further. -/
theorem copyBytes_agrees (address : Nat) :
    (copyBytes address).Agrees Anything (Action.ask (Bus.answer (.loadBytes address space.length))) ()
      space (fun failure transfer _ after => failure = transfer.failure ∧
        after = space.overlay 0 transfer.moved) fun _ _ => False := by
  have fits : 0 + chunkBytes * (space.length / chunkBytes) ≤ space.length := by
    rw [Nat.zero_add]
    exact Nat.mul_div_le _ _
  have rest : space.length - (0 + chunkBytes * (space.length / chunkBytes)) = space.length % chunkBytes := by
    have whole := Nat.div_add_mod space.length chunkBytes
    omega
  have copied := copyChunks_agrees (space.length / chunkBytes) address fits
  rw [rest] at copied
  exact .space_then copied

end Bus

end NodeLink

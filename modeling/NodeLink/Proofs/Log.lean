import Mathlib.Data.List.Basic

/-! Logs that grow event by event. -/
namespace NodeLink

variable {α : Type} {log before after : List α} {last here : α}

/-- Where a log is split, its last event is the one there, or one that comes later. -/
theorem split_last (split : log ++ [last] = before ++ here :: after) :
    (log = before ∧ last = here ∧ after = []) ∨
      ∃ rest, after = rest ++ [last] ∧ log = before ++ here :: rest := by
  rcases List.eq_nil_or_concat after with rfl | ⟨rest, final, rfl⟩
  · obtain ⟨same, ends⟩ := List.append_inj' split rfl
    exact .inl ⟨same, List.singleton_inj.mp ends, rfl⟩
  · rw [List.concat_eq_append, ← List.cons_append, ← List.append_assoc] at split
    obtain ⟨same, ends⟩ := List.append_inj' split rfl
    rw [List.singleton_inj.mp ends, List.concat_eq_append]
    exact .inr ⟨rest, rfl, same⟩

/-- Each event is one that may follow the events before it. -/
def Throughout (follows : List α → α → Prop) (log : List α) : Prop :=
  ∀ before here after, log = before ++ here :: after → follows before here

variable {follows : List α → α → Prop}

theorem throughout_nil : Throughout follows [] := fun _ _ _ split => absurd split.symm (by simp)

theorem Throughout.append (throughout : Throughout follows log) (next : follows log last) :
    Throughout follows (log ++ [last]) := by
  intro before here after split
  rcases split_last split with ⟨rfl, rfl, _⟩ | ⟨rest, _, earlier⟩
  · exact next
  · exact throughout before here rest earlier

end NodeLink

import NodeLink.Proofs.Surroundings

/-! Single operations whose accesses fail as listed, counted from the first one. What such an operation
returns depends on the words that it loads and on nothing else: from memories that agree on these, the
same accesses fail, and it ends the same. -/
namespace NodeLink

namespace SharedMemory

variable {inside : Nat → Prop} {first second : SharedMemory}

/-- The same words are mapped, and those inside hold the same. -/
structure Agree (inside : Nat → Prop) (first second : SharedMemory) : Prop where
  mapped : ∀ address, second.Mapped address ↔ first.Mapped address
  loads : ∀ address, inside address → second.load address = first.load address

/-- The same word stored in both leaves them agreeing. -/
theorem Agree.store (agree : Agree inside first second) (address : Nat) (word : UInt32) :
    (second.store address word).1 = (first.store address word).1 ∧
      Agree inside (first.store address word).2 (second.store address word).2 := by
  have both := agree.mapped address
  by_cases mapped : first.Mapped address
  · constructor
    · rw [store_result_of_mapped mapped, store_result_of_mapped (both.mpr mapped)]
    · constructor
      · intro other
        rw [mapped_store, mapped_store]
        exact agree.mapped other
      · intro other chosen
        by_cases equal : other = address
        · rw [equal, load_store_self mapped, load_store_self (both.mpr mapped)]
        · rw [load_store_of_ne equal, load_store_of_ne equal]
          exact agree.loads other chosen
  · rw [store_of_not_mapped mapped, store_of_not_mapped (both.not.mpr mapped)]
    exact ⟨rfl, agree⟩

end SharedMemory

namespace Surroundings

variable {surroundings : Surroundings} {inside : Nat → Prop} {first second : SharedMemory}

theorem onWords_agree (surroundings : Surroundings) {request : Words.Request}
    (permitted : LoadsFrom inside request)
    (agree : SharedMemory.Agree inside first second) (count : Nat) :
    (surroundings.onWords request (second, count)).1 =
        (surroundings.onWords request (first, count)).1 ∧
      (surroundings.onWords request (second, count)).2.2 =
        (surroundings.onWords request (first, count)).2.2 ∧
      SharedMemory.Agree inside (surroundings.onWords request (first, count)).2.1
        (surroundings.onWords request (second, count)).2.1 := by
  cases request with
  | load address =>
    simp only [onWords, agree.loads address permitted, true_and]
    exact agree
  | store address word =>
    unfold onWords
    by_cases fails : surroundings.fails count = true
    · simp only [if_pos fails, true_and]
      exact agree
    · obtain ⟨same, agree⟩ := agree.store address word
      simp only [if_neg fails, true_and]
      exact ⟨same, agree⟩

/-- Memories that agree where a program loads make it run alike. -/
theorem run_agree {α : Type} {program : Prog Words α} {post : α → SharedMemory → Prop}
    (holds : program.Ensures (SharedMemory.Answers surroundings.Faulty) (LoadsFrom inside) first post)
    (agree : SharedMemory.Agree inside first second) (count : Nat) :
    (program.run surroundings.onWords (second, count)).1 =
        (program.run surroundings.onWords (first, count)).1 ∧
      SharedMemory.Agree inside (program.run surroundings.onWords (first, count)).2.1
        (program.run surroundings.onWords (second, count)).2.1 := by
  induction program generalizing first second count with
  | done value => exact ⟨rfl, agree⟩
  | ask request next ih =>
    obtain ⟨answered, counted, agree⟩ := surroundings.onWords_agree holds.1 agree count
    have listed := surroundings.onWords_listed request (first, count)
    have state : (surroundings.onWords request (second, count)).2 =
        ((surroundings.onWords request (second, count)).2.1,
          (surroundings.onWords request (first, count)).2.2) := Prod.ext rfl counted
    simp only [Prog.run_ask]
    rw [answered, state]
    exact ih _ (holds.2 _ _ listed) agree _

/-- Accesses fail as listed, and nobody else is asked anything. -/
def failing (fails : Nat → Bool) : Surroundings := ⟨fails, fun _ => plainAnswer⟩

end Surroundings

namespace Action

variable {σ α : Type} {fails : Nat → Bool} {action : Action Medium σ α} {state : σ}
  {memory other : SharedMemory} {may : Words.Request → Prop}
  {ok : α → σ → SharedMemory → Prop} {failed : Fault → σ → SharedMemory → Prop}

/-- Some access may fail. -/
abbrev Fails (fails : Nat → Bool) : Prop := (Surroundings.failing fails).Faulty

theorem not_fails : ¬ Fails fun _ => false := by
  intro faulty
  obtain ⟨_, fails⟩ := faulty
  contradiction

/-- An operation run on a memory whose accesses fail as listed, counted from its first access. -/
def runFailing (fails : Nat → Bool) (action : Action Medium σ α) (state : σ)
    (memory : SharedMemory) : (Except Fault α × σ) × SharedMemory :=
  let ended := (action state).inWords.run (Surroundings.failing fails).onWords (memory, 0)
  (ended.1, ended.2.1)

theorem Ensures.runFailing (holds : action.Ensures (Fails fails) may state memory ok failed) :
    Ended ok failed (action.runFailing fails state memory).1
      (action.runFailing fails state memory).2 :=
  Prog.Ensures.run (Surroundings.failing fails).onWords Prod.fst
    (Surroundings.failing fails).onWords_listed (memory, 0) holds

theorem Ensures.runFailing_agree {inside : Nat → Prop}
    (holds : action.Ensures (Fails fails) (LoadsFrom inside) state memory ok failed)
    (agree : SharedMemory.Agree inside memory other) :
    (action.runFailing fails state other).1 = (action.runFailing fails state memory).1 :=
  (Surroundings.run_agree holds agree 0).1

/-- No operation moves a word to another place. -/
theorem Ensures.mapped_runFailing
    (holds : action.Ensures (Fails fails) may state memory ok failed) (address : Nat) :
    (action.runFailing fails state memory).2.Mapped address ↔ memory.Mapped address := by
  have kept := Prog.Ensures.keeps (SharedMemory.SameOutside fun _ => True)
    (SharedMemory.SameOutside.refl _) SharedMemory.SameOutside.trans ?_ holds
  · have ended := kept.run (Surroundings.failing fails).onWords Prod.fst
      (Surroundings.failing fails).onWords_listed (memory, 0)
    exact ended.2.1 address
  · intro request before answer after _ given
    cases request with
    | load address =>
      rw [given.2]
      exact SharedMemory.SameOutside.refl _ _
    | store address word => exact given.store_same.mono fun _ _ => trivial

end Action

end NodeLink

import NodeLink.Bus

/-! Bytes packed into words. Unpacking gives the bytes back, and whole words pack separately. -/
namespace NodeLink.Bytes

/-- What is left when no whole word is. -/
theorem short_of_no_word {last : Bytes} (nonempty : last = [] → False)
    (short : ∀ a b c d rest, last = a :: b :: c :: d :: rest → False) :
    0 < last.length ∧ last.length < 4 := by
  match last with
  | [] => exact (nonempty rfl).elim
  | [_] | [_, _] | [_, _, _] => simp only [List.length_cons, List.length_nil, Nat.reduceAdd,
      Nat.reduceLT, and_self]
  | a :: b :: c :: d :: rest => exact absurd rfl (short a b c d rest)

theorem length_words (bytes : Bytes) : bytes.words.length = wordCount bytes.length := by
  fun_induction Bytes.words bytes with
  | case1 => rfl
  | case2 a b c d rest ih =>
    simp only [List.length_cons, ih, wordCount]
    omega
  | case3 last nonempty short =>
    have bounds := short_of_no_word nonempty short
    simp only [List.length_singleton, wordCount]
    omega

theorem words_append (first second : Bytes) (whole : first.length % 4 = 0) :
    (first ++ second).words = first.words ++ second.words := by
  fun_induction Bytes.words first with
  | case1 => rfl
  | case2 a b c d rest ih =>
    simp only [List.length_cons] at whole
    simp only [List.cons_append, words, ih (by omega)]
  | case3 last nonempty short =>
    have bounds := short_of_no_word nonempty short
    omega

theorem toNat_append_zeros (bytes : Bytes) (count : Nat) :
    (bytes ++ zeros count).toNat = bytes.toNat := by
  induction bytes with
  | nil =>
    induction count with
    | zero => rfl
    | succ count ih =>
      simp only [List.nil_append, zeros, List.replicate_succ, toNat] at ih ⊢
      rw [ih]
      rfl
  | cons byte rest ih => simp only [List.cons_append, toNat, ih]

/-- Unpacking a padded word. -/
theorem take_ofWord_toWord (bytes : Bytes) (short : bytes.length ≤ 4) :
    (ofWord bytes.toWord).take bytes.length = bytes := by
  have four : (bytes ++ zeros (4 - bytes.length)).length = 4 := by
    simp only [List.length_append, zeros, List.length_replicate]
    omega
  have same : bytes.toWord = (bytes ++ zeros (4 - bytes.length)).toWord := by
    rw [toWord, toWord, toNat_append_zeros]
  rw [same, ofWord_toWord _ four, List.take_left]

theorem flatMap_words (bytes : Bytes) (whole : bytes.length % 4 = 0) :
    bytes.words.flatMap ofWord = bytes := by
  fun_induction Bytes.words bytes with
  | case1 => rfl
  | case2 a b c d rest ih =>
    simp only [List.length_cons] at whole
    have packed : ofWord (toWord [a, b, c, d]) = [a, b, c, d] := ofWord_toWord _ rfl
    simp only [List.flatMap_cons, packed, ih (by omega), List.cons_append, List.nil_append]
  | case3 last nonempty short =>
    have bounds := short_of_no_word nonempty short
    omega

theorem take_flatMap_words (bytes : Bytes) :
    (bytes.words.flatMap ofWord).take bytes.length = bytes := by
  fun_induction Bytes.words bytes with
  | case1 => rfl
  | case2 a b c d rest ih =>
    have packed : ofWord (toWord [a, b, c, d]) = [a, b, c, d] := ofWord_toWord _ rfl
    simp only [List.flatMap_cons, packed, List.cons_append, List.nil_append, List.length_cons,
      List.take_succ_cons, ih]
  | case3 last nonempty short =>
    have bounds := short_of_no_word nonempty short
    simp only [List.flatMap_cons, List.flatMap_nil, List.append_nil]
    exact take_ofWord_toWord last (by omega)

end NodeLink.Bytes

namespace NodeLink.Bus.Chunk

theorem toList_ofWords (words : List UInt32) (eight : words.length = 8) :
    (ofWords words).toList = words := by
  apply List.ext_getElem
  · rw [Vector.length_toList, eight]
  · intro index inside found
    simp only [ofWords, Vector.getElem_toList, Vector.getElem_ofFn, List.getD_eq_getElem?_getD,
      List.getElem?_eq_getElem found, Option.getD_some]

end NodeLink.Bus.Chunk

/-
This file develops first-occurrence search in a list. A position-based search,
as a string library offers it, is tied to the text that follows the occurrence:
`afterFirst` is the suffix a search leaves behind, and every later argument
reads the suffix instead of the position.

The two rules that carry the weight say what appending does to a search. A
needle found in the first part is found at the same place in the whole
(`afterFirst_append_of_some`); a needle missing from the first part cannot
straddle a separator it does not contain, so the search resumes behind the
separator (`afterFirst_append_cons_of_none`).
-/

import Mathlib.Data.List.Basic
import Mathlib.Data.List.Infix

namespace ListSearch

variable {α : Type*} [DecidableEq α]

/-! ### Positions -/

/-- The position of the first occurrence of a nonempty needle. -/
def indexOf (needle : List α) : List α → Option Nat
  | [] => none
  | head :: tail =>
    if needle.isPrefixOf (head :: tail) then some 0 else (indexOf needle tail).map (· + 1)

/-- The first occurrence at or after a position. -/
def find (text needle : List α) (position : Nat) : Option Nat :=
  (indexOf needle (text.drop position)).map (position + ·)

/-- The first element at or after a position that is not in the given set. -/
def findNotOf (text skipped : List α) (position : Nat) : Option Nat :=
  ((text.drop position).findIdx? fun element => !skipped.contains element).map (position + ·)

/-- The position of the last occurrence of one element. -/
def lastIndexOf (element : α) : List α → Option Nat
  | [] => none
  | head :: tail =>
    match lastIndexOf element tail with
    | some position => some (position + 1)
    | none => if head = element then some 0 else none

/-- Insert a text before a position. -/
def insertAt (text : List α) (position : Nat) (inserted : List α) : List α :=
  text.take position ++ inserted ++ text.drop position

/-! ### The text behind the first occurrence -/

/-- The text behind the first occurrence of a nonempty needle. -/
def afterFirst (needle : List α) : List α → Option (List α)
  | [] => none
  | head :: tail =>
    if needle.isPrefixOf (head :: tail) then some ((head :: tail).drop needle.length)
    else afterFirst needle tail

/-- The text from the first element outside the skipped set on. -/
def skipOver (skipped text : List α) : Option (List α) :=
  match text.dropWhile skipped.contains with
  | [] => none
  | head :: tail => some (head :: tail)

@[simp]
theorem afterFirst_nil (needle : List α) : afterFirst needle [] = none := rfl

theorem afterFirst_cons_of_occurs {needle : List α} {head : α} {tail : List α}
    (occurs : needle <+: head :: tail) :
    afterFirst needle (head :: tail) = some ((head :: tail).drop needle.length) := by
  rw [afterFirst, if_pos (List.isPrefixOf_iff_prefix.mpr occurs)]

theorem afterFirst_cons_of_absent {needle : List α} {head : α} {tail : List α}
    (absent : ¬ needle <+: head :: tail) :
    afterFirst needle (head :: tail) = afterFirst needle tail := by
  rw [afterFirst, if_neg fun occurs => absent (List.isPrefixOf_iff_prefix.mp occurs)]

/-- A search by position and a search by suffix find the same occurrence. -/
theorem indexOf_map_drop (needle text : List α) :
    (indexOf needle text).map (fun position => text.drop (position + needle.length)) =
      afterFirst needle text := by
  induction text with
  | nil => rfl
  | cons head tail inductionHypothesis =>
    rw [indexOf, afterFirst]
    split
    · rw [Option.map_some, Nat.zero_add]
    · rw [Option.map_map, ← inductionHypothesis]
      refine congrArg (fun step => Option.map step (indexOf needle tail))
        (funext fun position => ?_)
      show (head :: tail).drop (position + 1 + needle.length) = _
      rw [Nat.add_right_comm, List.drop_succ_cons]

theorem find_map_drop (text needle : List α) (position : Nat) :
    (find text needle position).map (fun found => text.drop (found + needle.length)) =
      afterFirst needle (text.drop position) := by
  rw [find, Option.map_map, ← indexOf_map_drop]
  refine congrArg (fun step => Option.map step _) (funext fun offset => ?_)
  show text.drop (position + offset + needle.length) = _
  rw [List.drop_drop, Nat.add_assoc]

theorem findNotOf_map_drop (text skipped : List α) (position : Nat) :
    (findNotOf text skipped position).map text.drop = skipOver skipped (text.drop position) := by
  rw [findNotOf, Option.map_map]
  have behind : (text.drop ∘ fun offset => position + offset) =
      fun offset => (text.drop position).drop offset := by
    funext offset
    rw [Function.comp_apply, List.drop_drop]
  rw [behind]
  induction text.drop position with
  | nil => rfl
  | cons head tail inductionHypothesis =>
    by_cases blank : skipped.contains head
    · rw [List.findIdx?_cons, blank, skipOver, List.dropWhile_cons_of_pos blank, ← skipOver,
        ← inductionHypothesis]
      simp only [Bool.not_true, Bool.false_eq_true, if_false, Option.map_map]
      rfl
    · simp only [Bool.not_eq_true] at blank
      rw [List.findIdx?_cons, blank, skipOver, List.dropWhile_cons_of_neg (by rw [blank]; simp)]
      rfl

/-! ### Searching one element -/

theorem indexOf_singleton_cons (element head : α) (tail : List α) :
    indexOf [element] (head :: tail) =
      if element = head then some 0 else (indexOf [element] tail).map (· + 1) := by
  have occurs : [element].isPrefixOf (head :: tail) = true ↔ element = head := by
    rw [List.isPrefixOf_iff_prefix, List.cons_prefix_cons]
    exact and_iff_left List.nil_prefix
  rw [indexOf]
  exact if_congr occurs rfl rfl

theorem indexOf_singleton_eq_none {element : α} {text : List α} :
    indexOf [element] text = none ↔ element ∉ text := by
  induction text with
  | nil => simp [indexOf]
  | cons head tail inductionHypothesis =>
    rw [indexOf_singleton_cons, List.mem_cons, not_or, ← inductionHypothesis]
    split
    · rename_i same
      simp [same]
    · rename_i different
      simp [different]

/-- The first occurrence splits the text at an element the front does not hold. -/
theorem indexOf_singleton_eq_some {element : α} {text : List α} {position : Nat}
    (found : indexOf [element] text = some position) :
    ∃ before after, text = before ++ element :: after ∧ before.length = position ∧
      element ∉ before := by
  induction text generalizing position with
  | nil => cases found
  | cons head tail inductionHypothesis =>
    rw [indexOf_singleton_cons] at found
    split at found
    · rename_i same
      rw [Option.some_inj] at found
      exact ⟨[], tail, by rw [same]; rfl, found, List.not_mem_nil⟩
    · rename_i different
      obtain ⟨offset, later, rfl⟩ := Option.map_eq_some_iff.mp found
      obtain ⟨before, after, whole, length, missing⟩ := inductionHypothesis later
      refine ⟨head :: before, after, by rw [whole]; rfl, by rw [List.length_cons, length], ?_⟩
      rw [List.mem_cons, not_or]
      exact ⟨different, missing⟩

/-- An element that the front does not hold is found behind it. -/
theorem indexOf_singleton_append_cons {element : α} {before : List α} (missing : element ∉ before)
    (after : List α) : indexOf [element] (before ++ element :: after) = some before.length := by
  induction before with
  | nil => simp [indexOf_singleton_cons]
  | cons head tail inductionHypothesis =>
    rw [List.mem_cons, not_or] at missing
    rw [List.cons_append, indexOf_singleton_cons, if_neg missing.1, inductionHypothesis missing.2]
    rfl

theorem find_zero (text needle : List α) : find text needle 0 = indexOf needle text := by
  rw [find, List.drop_zero]
  simp

/-- What is found is there. -/
theorem prefix_of_indexOf {needle text : List α} {position : Nat}
    (found : indexOf needle text = some position) : needle <+: text.drop position := by
  induction text generalizing position with
  | nil => cases found
  | cons head tail inductionHypothesis =>
    rw [indexOf] at found
    split at found
    · rename_i occurs
      rw [← Option.some_inj.mp found]
      exact List.isPrefixOf_iff_prefix.mp occurs
    · obtain ⟨offset, later, rfl⟩ := Option.map_eq_some_iff.mp found
      exact inductionHypothesis later

/-- A search succeeds on exactly the texts that contain the needle. -/
theorem isSome_indexOf {needle : List α} (nonempty : needle ≠ []) (text : List α) :
    (indexOf needle text).isSome ↔ needle <:+: text := by
  induction text with
  | nil => exact iff_of_false Bool.false_ne_true fun inside =>
      nonempty (List.infix_nil.mp inside)
  | cons head tail inductionHypothesis =>
    rw [indexOf, List.infix_cons_iff]
    split
    · rename_i occurs
      exact iff_of_true rfl (Or.inl (List.isPrefixOf_iff_prefix.mp occurs))
    · rename_i absent
      rw [Option.isSome_map, inductionHypothesis]
      exact (or_iff_right fun occurs => absent (List.isPrefixOf_iff_prefix.mpr occurs)).symm

theorem prefix_of_find {text needle : List α} {position start : Nat}
    (found : find text needle start = some position) : needle <+: text.drop position := by
  obtain ⟨offset, there, rfl⟩ := Option.map_eq_some_iff.mp found
  rw [← List.drop_drop]
  exact prefix_of_indexOf there

/-! ### The text behind an occurrence -/

/-- The text behind an occurrence is a proper part of the text. -/
theorem afterFirst_eq_some {needle text rest : List α}
    (found : afterFirst needle text = some rest) :
    ∃ before, text = before ++ needle ++ rest := by
  induction text with
  | nil => cases found
  | cons head tail inductionHypothesis =>
    by_cases occurs : needle <+: head :: tail
    · rw [afterFirst_cons_of_occurs occurs, Option.some_inj] at found
      obtain ⟨behind, whole⟩ := occurs
      refine ⟨[], ?_⟩
      rw [← found, ← whole, List.drop_left, List.nil_append]
    · rw [afterFirst_cons_of_absent occurs] at found
      obtain ⟨before, whole⟩ := inductionHypothesis found
      exact ⟨head :: before, by rw [whole]; rfl⟩

/-! ### Searching through an append -/

/-- A needle found in the first part is found there in the whole. -/
theorem afterFirst_append_of_some {needle text rest : List α} (more : List α)
    (found : afterFirst needle text = some rest) :
    afterFirst needle (text ++ more) = some (rest ++ more) := by
  induction text with
  | nil => cases found
  | cons head tail inductionHypothesis =>
    by_cases occurs : needle <+: head :: tail
    · rw [afterFirst_cons_of_occurs occurs, Option.some_inj] at found
      have extended : needle <+: head :: (tail ++ more) := occurs.trans (List.prefix_append _ _)
      rw [List.cons_append, afterFirst_cons_of_occurs extended, ← found, ← List.cons_append,
        List.drop_append_of_le_length occurs.length_le]
    · rw [afterFirst_cons_of_absent occurs] at found
      have absent : ¬ needle <+: head :: (tail ++ more) := by
        obtain ⟨before, whole⟩ := afterFirst_eq_some found
        have room : needle.length ≤ (head :: tail).length := by
          rw [whole]
          simp only [List.length_cons, List.length_append]
          omega
        exact fun extended => occurs
          (List.prefix_of_prefix_length_le extended (List.prefix_append (head :: tail) more) room)
      rw [List.cons_append, afterFirst_cons_of_absent absent, inductionHypothesis found]

omit [DecidableEq α] in
/-- A needle without the separator cannot reach across it. -/
theorem prefix_of_prefix_append_cons {needle more : List α} {separator : α} (text : List α)
    (missing : separator ∉ needle) (occurs : needle <+: text ++ separator :: more) :
    needle <+: text := by
  refine List.prefix_of_prefix_length_le occurs (List.prefix_append _ _) ?_
  by_contra longer
  obtain ⟨behind, whole⟩ := occurs
  have inside : (needle ++ behind)[text.length]? = some separator := by
    rw [whole, List.getElem?_append_right (Nat.le_refl _), Nat.sub_self]
    rfl
  rw [List.getElem?_append_left (by omega)] at inside
  exact missing (List.mem_of_getElem? inside)

/-- A needle missing before a separator it does not contain is searched behind it. -/
theorem afterFirst_append_cons_of_none {needle text more : List α} {separator : α}
    (nonempty : needle ≠ []) (missing : separator ∉ needle)
    (absent : afterFirst needle text = none) :
    afterFirst needle (text ++ separator :: more) = afterFirst needle more := by
  induction text with
  | nil =>
    refine afterFirst_cons_of_absent fun occurs => nonempty ?_
    exact List.prefix_nil.mp (prefix_of_prefix_append_cons [] missing occurs)
  | cons head tail inductionHypothesis =>
    by_cases occurs : needle <+: head :: tail
    · rw [afterFirst_cons_of_occurs occurs] at absent
      cases absent
    · rw [afterFirst_cons_of_absent occurs] at absent
      have beyond : ¬ needle <+: head :: (tail ++ separator :: more) := fun reaches =>
        occurs (prefix_of_prefix_append_cons (head :: tail) missing reaches)
      rw [List.cons_append, afterFirst_cons_of_absent beyond, inductionHypothesis absent]

/-- Elements other than the needle's first are passed over. -/
theorem afterFirst_append_of_notMem {first : α} {needle text : List α} (more : List α)
    (missing : first ∉ text) :
    afterFirst (first :: needle) (text ++ more) = afterFirst (first :: needle) more := by
  induction text with
  | nil => rfl
  | cons head tail inductionHypothesis =>
    rw [List.mem_cons, not_or] at missing
    have absent : ¬ first :: needle <+: head :: (tail ++ more) := fun occurs =>
      missing.1 (List.cons_prefix_cons.mp occurs).1
    rw [List.cons_append, afterFirst_cons_of_absent absent, inductionHypothesis missing.2]

theorem afterFirst_eq_none_of_notMem {first : α} {needle text : List α} (missing : first ∉ text) :
    afterFirst (first :: needle) text = none := by
  rw [← List.append_nil text, afterFirst_append_of_notMem [] missing, afterFirst_nil]

/-- Searching one element stops at its first occurrence. -/
theorem afterFirst_singleton {element : α} {before : List α} (rest : List α)
    (missing : element ∉ before) :
    afterFirst [element] (before ++ element :: rest) = some rest := by
  rw [afterFirst_append_of_notMem _ missing,
    afterFirst_cons_of_occurs (List.cons_prefix_cons.mpr ⟨rfl, List.nil_prefix⟩)]
  rfl

/-- Skipping through an append: the first part, or the second when nothing of the first is
left. -/
theorem skipOver_append (skipped text more : List α) :
    skipOver skipped (text ++ more) =
      match skipOver skipped text with
      | some rest => some (rest ++ more)
      | none => skipOver skipped more := by
  induction text with
  | nil => rfl
  | cons head tail inductionHypothesis =>
    by_cases blank : skipped.contains head = true
    · have passed (rest : List α) : skipOver skipped (head :: rest) = skipOver skipped rest := by
        rw [skipOver, List.dropWhile_cons_of_pos blank, ← skipOver]
      rw [List.cons_append, passed, passed]
      exact inductionHypothesis
    · have stops (rest : List α) : skipOver skipped (head :: rest) = some (head :: rest) := by
        rw [skipOver, List.dropWhile_cons_of_neg blank]
      rw [List.cons_append, stops, stops]
      rfl

theorem skipOver_cons_of_notMem {skipped : List α} {head : α} (visible : head ∉ skipped)
    (tail : List α) : skipOver skipped (head :: tail) = some (head :: tail) := by
  rw [skipOver, List.dropWhile_cons_of_neg (by simpa using visible)]

/-! ### The last occurrence -/

theorem lastIndexOf_eq_none {element : α} {text : List α} :
    lastIndexOf element text = none ↔ element ∉ text := by
  induction text with
  | nil => simp [lastIndexOf]
  | cons head tail inductionHypothesis =>
    rw [lastIndexOf, List.mem_cons, not_or, ← inductionHypothesis]
    cases lastIndexOf element tail with
    | some position => simp
    | none => simp [eq_comm]

/-- The last occurrence splits the text at an element the rest does not hold. -/
theorem lastIndexOf_eq_some {element : α} {text : List α} {position : Nat}
    (found : lastIndexOf element text = some position) :
    ∃ before after, text = before ++ element :: after ∧ before.length = position ∧
      element ∉ after := by
  induction text generalizing position with
  | nil => cases found
  | cons head tail inductionHypothesis =>
    rw [lastIndexOf] at found
    cases later : lastIndexOf element tail with
    | some offset =>
      rw [later, Option.some_inj] at found
      obtain ⟨before, after, whole, length, last⟩ := inductionHypothesis later
      exact ⟨head :: before, after, by rw [whole]; rfl,
        by rw [List.length_cons, length, found], last⟩
    | none =>
      simp only [later] at found
      split at found
      · rename_i same
        rw [Option.some_inj] at found
        exact ⟨[], tail, by rw [same]; rfl, found, lastIndexOf_eq_none.mp later⟩
      · cases found

theorem lastIndexOf_append_cons {element : α} (before : List α) {after : List α}
    (last : element ∉ after) :
    lastIndexOf element (before ++ element :: after) = some before.length := by
  induction before with
  | nil =>
    rw [List.nil_append, lastIndexOf, lastIndexOf_eq_none.mpr last]
    exact if_pos rfl
  | cons head tail inductionHypothesis =>
    rw [List.cons_append, lastIndexOf, inductionHypothesis, List.length_cons]

/-- Two splits at a last occurrence are the same split. -/
theorem append_cons_inj_of_notMem {element : α} {before after before' after' : List α}
    (last : element ∉ after) (last' : element ∉ after')
    (same : before ++ element :: after = before' ++ element :: after') :
    before = before' ∧ after = after' := by
  have position := lastIndexOf_append_cons before last
  rw [same, lastIndexOf_append_cons before' last', Option.some_inj] at position
  obtain ⟨heads, tails⟩ := List.append_inj same position.symm
  exact ⟨heads, (List.cons.inj tails).2⟩

omit [DecidableEq α] in
theorem insertAt_append (before after inserted : List α) :
    insertAt (before ++ after) before.length inserted = before ++ inserted ++ after := by
  rw [insertAt, List.take_left, List.drop_left]

end ListSearch

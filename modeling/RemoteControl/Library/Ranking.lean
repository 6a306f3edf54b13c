/-
This file develops two ways to rank the elements of a list by a key. A stable sort
takes a comparison that says which of two elements is less; when the comparison
reads the keys, the sorted list is ordered by them, and the elements of one key
stay in the order they had. The first element of the greatest key is what a scan
finds that moves on only to greater keys.
-/

import Mathlib.Data.List.Induction
import Mathlib.Data.List.Sort

namespace Ranking

/-! ### Stable sorting -/

variable {Element Key : Type*} [LinearOrder Key]

/-- Sort by a comparison; elements of which neither is less keep their order. -/
def stableSort (less : Element → Element → Bool) (list : List Element) : List Element :=
  list.insertionSort fun first second => less second first = false

theorem perm_stableSort (less : Element → Element → Bool) (list : List Element) :
    (stableSort less list).Perm list := List.perm_insertionSort _ list

section

variable (key : Element → Key) (list : List Element)

/-- With a key in hand, the order of the sort is that of the keys. -/
theorem stableSort_eq_insertionSort :
    stableSort (fun first second => key first < key second) list =
      list.insertionSort fun first second => key first ≤ key second := by
  rw [stableSort]
  congr! 1
  simp only [decide_eq_false_iff_not, not_lt]

theorem pairwise_stableSort :
    (stableSort (fun first second => key first < key second) list).Pairwise
      fun first second => key first ≤ key second := by
  have : Std.Total fun first second : Element => key first ≤ key second :=
    ⟨fun first second => le_total (key first) (key second)⟩
  have : IsTrans Element fun first second => key first ≤ key second :=
    ⟨fun _ _ _ => le_trans⟩
  rw [stableSort_eq_insertionSort]
  exact List.pairwise_insertionSort _ list

/-- The elements of one key keep their order. -/
theorem filter_stableSort (value : Key) :
    (stableSort (fun first second => key first < key second) list).filter
        (fun element => key element = value) =
      list.filter fun element => key element = value := by
  have : Std.Total fun first second : Element => key first ≤ key second :=
    ⟨fun first second => le_total (key first) (key second)⟩
  have : IsTrans Element fun first second => key first ≤ key second :=
    ⟨fun _ _ _ => le_trans⟩
  have perm := (perm_stableSort (fun first second => key first < key second) list).filter
    fun element => key element = value
  rw [stableSort_eq_insertionSort] at perm ⊢
  -- they are in order already, so the sort keeps them as a sublist
  have ordered : (list.filter fun element => key element = value).Pairwise
      fun first second => key first ≤ key second := by
    refine List.pairwise_of_forall_mem_list fun first among second among' => ?_
    rw [List.mem_filter, decide_eq_true_iff] at among among'
    rw [among.2, among'.2]
  have kept := (List.sublist_insertionSort ordered List.filter_sublist).filter
    fun element => key element = value
  rw [List.filter_filter] at kept
  simp only [Bool.and_self] at kept
  exact (kept.eq_of_length perm.length_eq.symm).symm

end

/-! ### The first of the greatest -/

section

variable {key : Element → Int} {list : List Element} {element best : Element}

/-- The first element that no element of the list has a greater key than. -/
def firstGreatest (key : Element → Int) (list : List Element) : Option Element :=
  list.find? fun element => list.all fun other => key other ≤ key element

theorem firstGreatest_eq_some_iff :
    firstGreatest key list = some best ↔
      ∃ before after, list = before ++ best :: after ∧
        (∀ other ∈ before, key other < key best) ∧ ∀ other ∈ after, key other ≤ key best := by
  rw [firstGreatest, List.find?_eq_some_iff_append]
  simp only [List.all_eq_true, decide_eq_true_iff, Bool.not_eq_true', List.all_eq_false]
  constructor
  · rintro ⟨greatest, before, after, rfl, beaten⟩
    refine ⟨before, after, rfl, fun other among => ?_, fun other among => ?_⟩
    · obtain ⟨greater, amongAll, notLe⟩ := beaten other among
      exact lt_of_lt_of_le (not_le.mp notLe) (greatest greater amongAll)
    · exact greatest other (List.mem_append_right _ (List.mem_cons_of_mem _ among))
  · rintro ⟨before, after, rfl, less, lessEqual⟩
    refine ⟨fun other among => ?_, before, after, rfl, fun other among => ?_⟩
    · rw [List.mem_append, List.mem_cons] at among
      obtain early | rfl | late := among
      · exact (less other early).le
      · exact le_refl _
      · exact lessEqual other late
    · exact ⟨best, List.mem_append_right _ List.mem_cons_self, not_le.mpr (less other among)⟩

theorem mem_of_firstGreatest (found : firstGreatest key list = some best) : best ∈ list :=
  List.mem_of_find?_eq_some found

theorem le_of_firstGreatest (found : firstGreatest key list = some best) :
    ∀ other ∈ list, key other ≤ key best := by
  have greatest := List.find?_some found
  simpa only [List.all_eq_true, decide_eq_true_iff] using greatest

/-- A scan moves on to a greater key. -/
theorem firstGreatest_concat_of_lt (less : ∀ other ∈ list, key other < key element) :
    firstGreatest key (list ++ [element]) = some element :=
  firstGreatest_eq_some_iff.mpr
    ⟨list, [], rfl, less, fun _ absent => absurd absent List.not_mem_nil⟩

/-- It stays where no greater key comes. -/
theorem firstGreatest_concat_of_le (found : firstGreatest key list = some best)
    (lessEqual : key element ≤ key best) :
    firstGreatest key (list ++ [element]) = some best := by
  obtain ⟨before, after, rfl, less, rest⟩ := firstGreatest_eq_some_iff.mp found
  refine firstGreatest_eq_some_iff.mpr ⟨before, after ++ [element], ?_, less, ?_⟩
  · rw [List.append_assoc, List.cons_append]
  · intro other among
    rw [List.mem_append, List.mem_singleton] at among
    obtain early | rfl := among
    · exact rest other early
    · exact lessEqual

theorem firstGreatest_eq_none_iff : firstGreatest key list = none ↔ list = [] := by
  refine ⟨fun absent => ?_, fun empty => by rw [empty]; rfl⟩
  induction list using List.reverseRecOn with
  | nil => rfl
  | append_singleton rest element ih =>
    exfalso
    cases found : firstGreatest key rest with
    | none =>
      rw [ih found] at absent
      have alone : firstGreatest key ([] ++ [element]) = some element :=
        firstGreatest_concat_of_lt fun _ absent => absurd absent List.not_mem_nil
      exact Option.some_ne_none _ (alone.symm.trans absent)
    | some best =>
      rcases le_or_gt (key element) (key best) with lessEqual | greater
      · have stays := firstGreatest_concat_of_le found lessEqual
        exact Option.some_ne_none _ (stays.symm.trans absent)
      · have moves := firstGreatest_concat_of_lt fun other among =>
          (le_of_firstGreatest found other among).trans_lt greater
        exact Option.some_ne_none _ (moves.symm.trans absent)

end

end Ranking

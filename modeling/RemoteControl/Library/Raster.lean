/-
This file develops loops that fill an array. A counter runs from zero to a bound
in steps, nested loops are one loop over pairs of counters, and each round writes
one value at one index. When all rounds that write an index write the same value
there, the array holds it after the loop, and an index no round writes keeps what
it held. Rounds that may fail are loops too; a loop whose writes fail at a place
that was written before succeeds when its rounds write different places.
-/

import Mathlib.Data.List.ProdSigma
import Mathlib.Tactic.Ring

namespace Raster

/-! ### Counters -/

/-- The values of `for (counter = 0; counter < bound; counter += step)`. -/
def counters (bound : Int) (step : Nat) : List Nat :=
  List.range' 0 ((bound.toNat + step - 1) / step) step

theorem mem_counters {bound : Int} {step counter : Nat} (positive : 0 < step) :
    counter ∈ counters bound step ↔ step ∣ counter ∧ (counter : Int) < bound := by
  rw [counters, List.mem_range']
  simp only [Nat.lt_div_iff_mul_lt positive, Nat.zero_add]
  constructor
  · rintro ⟨round, below, rfl⟩
    rw [Nat.mul_comm] at below
    exact ⟨Nat.dvd_mul_right step round, by omega⟩
  · rintro ⟨⟨round, rfl⟩, below⟩
    refine ⟨round, ?_, rfl⟩
    rw [Nat.mul_comm]
    omega

theorem mem_counters_one {bound : Int} {counter : Nat} :
    counter ∈ counters bound 1 ↔ (counter : Int) < bound := by
  rw [mem_counters Nat.one_pos]
  exact and_iff_right (one_dvd counter)

theorem nodup_counters (bound : Int) {step : Nat} (positive : 0 < step) :
    (counters bound step).Nodup := List.nodup_range' step positive

section

variable {Outer Inner State : Type*}

/-- Nested loops are one loop over the pairs of their counters. -/
theorem foldl_foldl (round : State → Outer → Inner → State) (outer : List Outer)
    (inner : List Inner) (start : State) :
    outer.foldl (fun state row => inner.foldl (fun state column => round state row column) state)
        start =
      (outer ×ˢ inner).foldl (fun state cell => round state cell.1 cell.2) start := by
  change _ = (outer.flatMap fun row => inner.map (Prod.mk row)).foldl _ start
  simp only [List.foldl_flatMap, List.foldl_map]

end

/-! ### Writes -/

section

variable {Round Value : Type*} {index : Round → Nat} {value : Round → Value}
  {rounds : List Round} {array : Array Value}

/-- One write in each round: the value at the index, and nothing outside the array. -/
def writes (index : Round → Nat) (value : Round → Value) (rounds : List Round)
    (array : Array Value) : Array Value :=
  rounds.foldl (fun array round => array.setIfInBounds (index round) (value round)) array

@[simp] theorem writes_cons {round : Round} :
    writes index value (round :: rounds) array =
      writes index value rounds (array.setIfInBounds (index round) (value round)) := rfl

@[simp] theorem size_writes : (writes index value rounds array).size = array.size := by
  induction rounds generalizing array with
  | nil => rfl
  | cons round rest ih => rw [writes_cons, ih, Array.size_setIfInBounds]

/-- A loop that writes two arrays writes each as a loop of its own would. -/
theorem foldl_writes {index' : Round → Nat} {value' : Round → Value} (rounds : List Round)
    (arrays : Array Value × Array Value) :
    rounds.foldl (fun arrays round => (arrays.1.setIfInBounds (index round) (value round),
        arrays.2.setIfInBounds (index' round) (value' round))) arrays =
      (writes index value rounds arrays.1, writes index' value' rounds arrays.2) := by
  induction rounds generalizing arrays with
  | nil => rfl
  | cons round rest ih =>
    rw [List.foldl_cons, ih]
    rfl

/-- What no round writes stays. -/
theorem writes_of_notWritten {position : Nat}
    (notWritten : ∀ round ∈ rounds, index round ≠ position) :
    (writes index value rounds array)[position]? = array[position]? := by
  induction rounds generalizing array with
  | nil => rfl
  | cons round rest ih =>
    rw [writes_cons, ih fun other among => notWritten other (List.mem_cons_of_mem _ among)]
    exact Array.getElem?_setIfInBounds_ne (notWritten round List.mem_cons_self)

/-- What all its writers agree on is there after the loop. -/
theorem writes_of_agree {round : Round} (among : round ∈ rounds)
    (inside : index round < array.size)
    (agree : ∀ other ∈ rounds, index other = index round → value other = value round) :
    (writes index value rounds array)[index round]? = some (value round) := by
  induction rounds generalizing array round with
  | nil => exact absurd among List.not_mem_nil
  | cons first rest ih =>
    rw [writes_cons]
    by_cases written : ∃ other ∈ rest, index other = index round
    · -- a later round writes the index, and what it writes is the value
      obtain ⟨other, amongRest, same⟩ := written
      rw [← same, ← agree other (List.mem_cons_of_mem first amongRest) same]
      refine ih amongRest ?_ fun another amongRest' same' => ?_
      · rw [Array.size_setIfInBounds, same]
        exact inside
      · rw [agree another (List.mem_cons_of_mem first amongRest') (same'.trans same),
          agree other (List.mem_cons_of_mem first amongRest) same]
    · push Not at written
      rw [writes_of_notWritten written]
      obtain rfl | amongRest := List.mem_cons.mp among
      · exact Array.getElem?_setIfInBounds_self_of_lt inside
      · exact absurd rfl (written round amongRest)

/-- A loop that writes every place does not depend on what the array held before. -/
theorem writes_congr {array' : Array Value} (sameSize : array.size = array'.size)
    (covers : ∀ position < array.size, ∃ round ∈ rounds, index round = position) :
    writes index value rounds array = writes index value rounds array' := by
  have same : ∀ {rounds : List Round} {array array' : Array Value} {position : Nat},
      array.size = array'.size → (array[position]? = array'[position]? ∨
        ∃ round ∈ rounds, index round = position) →
          (writes index value rounds array)[position]? =
            (writes index value rounds array')[position]? := by
    intro rounds
    induction rounds with
    | nil =>
      rintro array array' position - (held | ⟨round, among, -⟩)
      · exact held
      · exact absurd among List.not_mem_nil
    | cons first rest ih =>
      intro array array' position sameSize written
      refine ih (by rw [Array.size_setIfInBounds, Array.size_setIfInBounds, sameSize]) ?_
      rw [Array.getElem?_setIfInBounds, Array.getElem?_setIfInBounds, sameSize]
      by_cases here : index first = position
      · exact Or.inl (by rw [if_pos here, if_pos here])
      · rw [if_neg here, if_neg here]
        refine written.imp_right ?_
        rintro ⟨round, among, at_⟩
        obtain rfl | amongRest := List.mem_cons.mp among
        · exact absurd at_ here
        · exact ⟨round, amongRest, at_⟩
  refine Array.ext_getElem? fun position => ?_
  by_cases inside : position < array.size
  · exact same sameSize (Or.inr (covers position inside))
  · rw [Array.getElem?_eq_none, Array.getElem?_eq_none] <;> rw [size_writes] <;> omega

end

/-! ### Loops that may fail -/

section

variable {Outer Inner State : Type*}

/-- A loop that may fail, as far as it runs, is the loop of what its rounds do. -/
theorem foldlM_congr {round round' : State → Outer → Option State} {rounds : List Outer}
    (same : ∀ state, ∀ counter ∈ rounds, round state counter = round' state counter)
    (start : State) : rounds.foldlM round start = rounds.foldlM round' start := by
  induction rounds generalizing start with
  | nil => rfl
  | cons counter rest ih =>
    rw [List.foldlM_cons, List.foldlM_cons, same start counter List.mem_cons_self]
    refine congrArg (round' start counter).bind (funext fun state => ?_)
    exact ih (fun state other among => same state other (List.mem_cons_of_mem _ among)) state

/-- A loop none of whose rounds fails. -/
theorem foldlM_some {round : State → Outer → State} (rounds : List Outer) (start : State) :
    rounds.foldlM (fun state counter => some (round state counter)) start =
      some (rounds.foldl round start) := by
  induction rounds generalizing start with
  | nil => rfl
  | cons counter rest ih =>
    rw [List.foldlM_cons, List.foldl_cons, ← ih]
    rfl

/-- Nested loops that may fail are one loop over the pairs of their counters. -/
theorem foldlM_foldlM (round : State → Outer → Inner → Option State) (outer : List Outer)
    (inner : List Inner) (start : State) :
    outer.foldlM (fun state row => inner.foldlM (fun state column => round state row column) state)
        start =
      (outer ×ˢ inner).foldlM (fun state cell => round state cell.1 cell.2) start := by
  induction outer generalizing start with
  | nil => rfl
  | cons row rest ih =>
    rw [List.foldlM_cons, List.product_cons, List.foldlM_append, List.foldlM_map]
    exact congrArg (Option.bind _) (funext fun state => ih state)

end

/-! ### Writes that happen once -/

section

variable {Round Value : Type*} {index : Round → Nat} {value : Round → Value}
  {rounds : List Round}

/-- Write a place of an array, which must be there and must not have been written before. -/
def writeOnce (array : Array (Option Value)) (position : Nat) (value : Value) :
    Option (Array (Option Value)) :=
  array[position]?.bind fun held =>
    if held.isNone then some (array.setIfInBounds position (some value)) else none

theorem writeOnce_of_unwritten {array : Array (Option Value)} {position : Nat}
    (unwritten : array[position]? = some none) (value : Value) :
    writeOnce array position value = some (array.setIfInBounds position (some value)) := by
  rw [writeOnce, unwritten]
  rfl

/-- A write leaves the other places unwritten. -/
theorem unwritten_of_ne {array : Array (Option Value)} {position other : Nat}
    (different : position ≠ other) (unwritten : array[other]? = some none) (value : Value) :
    (array.setIfInBounds position (some value))[other]? = some none := by
  rwa [Array.getElem?_setIfInBounds_ne different]

/-- Rounds that write different places of an unwritten array write each once. -/
theorem foldlM_writeOnce {array : Array (Option Value)}
    (unwritten : ∀ round ∈ rounds, array[index round]? = some none)
    (distinct : rounds.Pairwise fun first second => index first ≠ index second) :
    rounds.foldlM (fun array round => writeOnce array (index round) (value round)) array =
      some (writes index (fun round => some (value round)) rounds array) := by
  induction rounds generalizing array with
  | nil => rfl
  | cons round rest ih =>
    obtain ⟨apart, distinct⟩ := List.pairwise_cons.mp distinct
    rw [List.foldlM_cons, writeOnce_of_unwritten (unwritten round List.mem_cons_self), writes_cons]
    exact ih (fun other among => unwritten_of_ne (apart other among)
      (unwritten other (List.mem_cons_of_mem _ among)) (value round)) distinct

/-- Two arrays that are written at the same places. -/
theorem foldlM_writeOnce_pair {value' : Round → Value}
    {arrays : Array (Option Value) × Array (Option Value)}
    (unwritten : ∀ round ∈ rounds, arrays.1[index round]? = some none ∧
      arrays.2[index round]? = some none)
    (distinct : rounds.Pairwise fun first second => index first ≠ index second) :
    (rounds.foldlM (fun arrays round =>
        (writeOnce arrays.1 (index round) (value round)).bind fun first =>
          (writeOnce arrays.2 (index round) (value' round)).map fun second => (first, second))
        arrays) =
      some (writes index (fun round => some (value round)) rounds arrays.1,
        writes index (fun round => some (value' round)) rounds arrays.2) := by
  induction rounds generalizing arrays with
  | nil => rfl
  | cons round rest ih =>
    obtain ⟨apart, distinct⟩ := List.pairwise_cons.mp distinct
    obtain ⟨first, second⟩ := unwritten round List.mem_cons_self
    rw [List.foldlM_cons, writeOnce_of_unwritten first, Option.bind_some,
      writeOnce_of_unwritten second, writes_cons, writes_cons]
    refine ih (fun other among => ?_) distinct
    obtain ⟨first, second⟩ := unwritten other (List.mem_cons_of_mem _ among)
    exact ⟨unwritten_of_ne (apart other among) first (value round),
      unwritten_of_ne (apart other among) second (value' round)⟩

/-- Marking what is written as written changes nothing else. -/
theorem writes_map_some (rounds : List Round) (array : Array Value) :
    writes index (fun round => some (value round)) rounds (array.map some) =
      (writes index value rounds array).map some := by
  induction rounds generalizing array with
  | nil => rfl
  | cons round rest ih => rw [writes_cons, writes_cons, ← Array.map_setIfInBounds, ih]

/-- Where every place is written, an unwritten array ends up like any other. -/
theorem writes_replicate_none {array : Array Value} {size : Nat} (sameSize : array.size = size)
    (covers : ∀ position < size, ∃ round ∈ rounds, index round = position) :
    writes index (fun round => some (value round)) rounds (Array.replicate size none) =
      (writes index value rounds array).map some := by
  rw [← writes_map_some]
  refine writes_congr ?_ fun position inside => covers position ?_
  · rw [Array.size_replicate, Array.size_map, sameSize]
  · rwa [Array.size_replicate] at inside

end

/-! ### Rows -/

section

variable {width height row column row' column' : Nat}

/-- In an array of rows each place belongs to one row and column. -/
theorem row_column_eq (within : column < width) (within' : column' < width)
    (same : row * width + column = row' * width + column') : row = row' ∧ column = column' := by
  have positive : 0 < width := Nat.zero_lt_of_lt within
  have quotient := congrArg (· / width) same
  have remainder := congrArg (· % width) same
  simp only [Nat.mul_comm _ width, Nat.mul_add_div positive,
    Nat.div_eq_of_lt within, Nat.div_eq_of_lt within', Nat.mul_add_mod, Nat.mod_eq_of_lt within,
    Nat.mod_eq_of_lt within'] at quotient remainder
  exact ⟨quotient, remainder⟩

/-- Each place of an array of rows has a row and column. -/
theorem exists_row_column {position : Nat} (inside : position < width * height) :
    position / width < height ∧ position % width < width ∧
      position / width * width + position % width = position := by
  have positive : 0 < width := Nat.pos_of_mul_pos_right (Nat.zero_lt_of_lt inside)
  exact ⟨Nat.div_lt_of_lt_mul inside, Nat.mod_lt _ positive, Nat.div_add_mod' position width⟩

theorem row_column_lt (below : row < height) (within : column < width) :
    row * width + column < width * height := by
  have rows : (row + 1) * width ≤ height * width := Nat.mul_le_mul_right width below
  rw [Nat.add_mul, Nat.one_mul] at rows
  rw [Nat.mul_comm width height]
  omega

end

end Raster

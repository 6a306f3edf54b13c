/-
This file develops replicas of a finite set: a party that never sees the set
itself, but a snapshot of it and then one update for every element that joins
or leaves. A stream of updates is coherent when each one changes the replica it
meets; the rules below say which update of the original set keeps a replica that
leaves out one element, its owner.
-/

import Mathlib.Data.Finset.Basic
import Mathlib.Data.Finset.Insert

namespace Replica

variable {α : Type*} [DecidableEq α]

/-- What a replica is told. -/
inductive Update (α : Type*) where
  | snapshot (elements : List α)
  | join (element : α)
  | leave (element : α)

/-- The replica behind an update. -/
def Update.apply (replica : Finset α) : Update α → Finset α
  | .snapshot elements => elements.toFinset
  | .join element => insert element replica
  | .leave element => replica.erase element

/-- An update that changes the replica as it says: who joins was absent, who leaves was there. -/
def Update.Fits (replica : Finset α) : Update α → Prop
  | .snapshot _ => True
  | .join element => element ∉ replica
  | .leave element => element ∈ replica

instance (replica : Finset α) : ∀ update : Update α, Decidable (update.Fits replica)
  | .snapshot _ => isTrue trivial
  | .join element => inferInstanceAs (Decidable (element ∉ replica))
  | .leave element => inferInstanceAs (Decidable (element ∈ replica))

/-- The replica behind a stream of updates. -/
def view (updates : List (Update α)) : Finset α := updates.foldl Update.apply ∅

/-- Every update of the stream fits the replica it meets. -/
def Coherent (updates : List (Update α)) : Prop :=
  ∀ before update after, updates = before ++ update :: after → update.Fits (view before)

@[simp]
theorem view_append_singleton (updates : List (Update α)) (update : Update α) :
    view (updates ++ [update]) = update.apply (view updates) := by
  rw [view, List.foldl_append]
  rfl

theorem coherent_nil : Coherent ([] : List (Update α)) := by
  intro before update after whole
  cases before <;> cases whole

theorem Coherent.append_singleton {updates : List (Update α)} (coherent : Coherent updates)
    {update : Update α} (fits : update.Fits (view updates)) : Coherent (updates ++ [update]) := by
  intro before last after whole
  rcases List.eq_nil_or_concat after with rfl | ⟨front, final, rfl⟩
  · obtain ⟨same, sameLast⟩ := List.append_inj' whole rfl
    rw [← same, ← (List.cons.inj sameLast).1]
    exact fits
  · rw [List.concat_eq_append, ← List.cons_append, ← List.append_assoc] at whole
    exact coherent before last front (List.append_inj' whole rfl).1

/-! ### Following the original set -/

/-- Somebody else joins. -/
theorem join_erase {original : Finset α} {owner element : α} (other : element ≠ owner) :
    (Update.join element).apply (original.erase owner) = (insert element original).erase owner :=
  (Finset.erase_insert_of_ne other).symm

theorem join_fits {original : Finset α} {element : α} (owner : α) (absent : element ∉ original) :
    (Update.join element).Fits (original.erase owner) :=
  fun member => absent (Finset.mem_of_mem_erase member)

/-- Somebody else leaves. -/
theorem leave_erase (original : Finset α) (owner element : α) :
    (Update.leave element).apply (original.erase owner) = (original.erase element).erase owner :=
  Finset.erase_right_comm

theorem leave_fits {original : Finset α} {owner element : α} (other : element ≠ owner)
    (member : element ∈ original) : (Update.leave element).Fits (original.erase owner) :=
  Finset.mem_erase.mpr ⟨other, member⟩

end Replica

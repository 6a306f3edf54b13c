/-
This file is about two parties that each keep a value which ought to be the same,
and tell each other by messages that replace it. What counts is the value a party
will have once the messages under way to it have arrived. A party may also have a
value that it is still to tell; as long as one has, the two may differ.
-/

import Mathlib.Data.List.Basic

namespace Settlement

/-- One party: its value, the values under way to it in their order, and whether its value is
still to be told to the other. -/
structure Copy (Value : Type*) where
  value : Value
  inbox : List Value
  untold : Bool

variable {Value : Type*} {own after other : Copy Value}

/-- The value a party will have once everything under way to it has arrived. -/
def Copy.settled (copy : Copy Value) : Value := copy.inbox.getLast?.getD copy.value

/-- A value is under way to the party. -/
def Copy.hear (copy : Copy Value) (value : Value) : Copy Value :=
  { copy with inbox := copy.inbox ++ [value] }

/-- The party will tell the other a value that nothing under way replaces. -/
def Copy.Leads (copy : Copy Value) : Prop := copy.inbox = [] ∧ copy.untold = true

/-- The two will have the same value, or one of them is still to tell its own. -/
def Balanced (own other : Copy Value) : Prop :=
  own.settled = other.settled ∨ own.Leads ∨ other.Leads

instance [DecidableEq Value] (copy : Copy Value) : Decidable copy.Leads :=
  inferInstanceAs (Decidable (copy.inbox = [] ∧ copy.untold = true))

instance [DecidableEq Value] (own other : Copy Value) : Decidable (Balanced own other) :=
  inferInstanceAs (Decidable (own.settled = other.settled ∨ own.Leads ∨ other.Leads))

theorem Balanced.symm (balanced : Balanced own other) : Balanced other own := by
  rcases balanced with same | leads | leads
  · exact Or.inl same.symm
  · exact Or.inr (Or.inr leads)
  · exact Or.inr (Or.inl leads)

theorem Copy.settled_hear (copy : Copy Value) (value : Value) :
    (copy.hear value).settled = value := by
  rw [settled, hear, List.getLast?_concat]
  rfl

theorem Copy.settled_of_empty {copy : Copy Value} (empty : copy.inbox = []) :
    copy.settled = copy.value := by
  rw [settled, empty]
  rfl

/-- The last value under way decides, whatever the value is now. -/
theorem settled_of_last (filled : own.inbox ≠ [])
    (last : after.inbox.getLast? = own.inbox.getLast?) : after.settled = own.settled := by
  rw [Copy.settled, Copy.settled, last, List.getLast?_eq_some_getLast filled]
  rfl

/-- The arrival of the first value changes nothing when it is taken over, or when another one
follows. -/
theorem settled_of_arrival {value : Value} {rest : List Value} (first : own.inbox = value :: rest)
    (popped : after.inbox = rest) (takes : after.value = value ∨ rest ≠ []) :
    after.settled = own.settled := by
  rw [Copy.settled, Copy.settled, first, popped]
  cases rest with
  | nil => exact takes.resolve_right fun filled => filled rfl
  | cons next rest =>
    rw [List.getLast?_cons_cons, List.getLast?_eq_some_getLast (List.cons_ne_nil _ _)]
    rfl

/-- A party with something under way that changes in a way that leaves open what it will have. -/
theorem Balanced.of_settled (balanced : Balanced own other) (filled : own.inbox ≠ [])
    (same : after.settled = own.settled) : Balanced after other := by
  rcases balanced with equal | leads | leads
  · exact Or.inl (same.trans equal)
  · exact absurd leads.1 filled
  · exact Or.inr (Or.inr leads)

/-- A party may change as it likes while something is under way to it; with nothing under way it
ought to match the other, unless one of them is still to tell. -/
theorem Balanced.changed (balanced : Balanced own other) (same : after.inbox = own.inbox)
    (matched : own.inbox = [] → after.untold = true ∨ after.value = other.settled ∨ other.Leads) :
    Balanced after other := by
  by_cases empty : own.inbox = []
  · rcases matched empty with untold | equal | leads
    · exact Or.inr (Or.inl ⟨same.trans empty, untold⟩)
    · exact Or.inl ((Copy.settled_of_empty (same.trans empty)).trans equal)
    · exact Or.inr (Or.inr leads)
  · exact balanced.of_settled empty (settled_of_last empty (congrArg List.getLast? same))

/-- The first value under way arrives. -/
theorem Balanced.arrived {value : Value} {rest : List Value} (balanced : Balanced own other)
    (first : own.inbox = value :: rest) (popped : after.inbox = rest)
    (takes : after.value = value ∨ rest ≠ []) : Balanced after other :=
  balanced.of_settled (by rw [first]; exact List.cons_ne_nil _ _)
    (settled_of_arrival first popped takes)

/-- A value under way is lost, but not the last one. -/
theorem Balanced.lost {value : Value} {front rest : List Value} (balanced : Balanced own other)
    (before : own.inbox = front ++ value :: rest) (popped : after.inbox = front ++ rest)
    (follows : rest ≠ []) : Balanced after other := by
  have filled : own.inbox ≠ [] := by
    rw [before]
    exact List.append_ne_nil_of_right_ne_nil _ (List.cons_ne_nil _ _)
  refine balanced.of_settled filled (settled_of_last filled ?_)
  obtain ⟨next, more, rfl⟩ := List.exists_cons_of_ne_nil follows
  rw [before, popped, List.getLast?_append_cons, List.getLast?_append_cons,
    List.getLast?_cons_cons]

/-- A party that tells what it will have settles the matter. -/
theorem balanced_hear {value : Value} (tells : own.settled = value) (other : Copy Value) :
    Balanced own (other.hear value) :=
  Or.inl (tells.trans (other.settled_hear value).symm)

/-- Two parties that have nothing to tell and to hear have the same value. -/
theorem Balanced.value_eq (balanced : Balanced own other) (ownEmpty : own.inbox = [])
    (otherEmpty : other.inbox = []) (ownTold : own.untold = false)
    (otherTold : other.untold = false) : own.value = other.value := by
  rcases balanced with same | ⟨-, untold⟩ | ⟨-, untold⟩
  · rwa [Copy.settled_of_empty ownEmpty, Copy.settled_of_empty otherEmpty] at same
  · cases ownTold.symm.trans untold
  · cases otherTold.symm.trans untold

end Settlement

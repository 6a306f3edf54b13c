/-
This file develops conveyors: places that receive items, may lose some of them,
and deliver what is left in the order in which it came. Both ends keep a record,
and a mark in each record tells what has passed since a moment at which the
conveyor was empty.
-/

import Mathlib.Data.List.Basic

namespace Conveying

variable {Item : Type*}

/-- What lies on the conveyor, oldest first, and what it has received and delivered so far. -/
structure Conveyor (Item : Type*) where
  content : List Item
  received : List Item
  delivered : List Item

/-- Between two moments the conveyor takes items, gives items away and loses items, and no item
overtakes another. -/
def Passes (before after : Conveyor Item) : Prop :=
  ∃ taken given, after.received = before.received ++ taken ∧
    after.delivered = before.delivered ++ given ∧
    (given ++ after.content).Sublist (before.content ++ taken)

/-! ### Moves -/

theorem Passes.refl (conveyor : Conveyor Item) : Passes conveyor conveyor :=
  ⟨[], [], (List.append_nil _).symm, (List.append_nil _).symm, by
    rw [List.nil_append, List.append_nil]⟩

theorem Passes.trans {first second third : Conveyor Item} (left : Passes first second)
    (right : Passes second third) : Passes first third := by
  obtain ⟨takenLeft, givenLeft, receivedLeft, deliveredLeft, keptLeft⟩ := left
  obtain ⟨takenRight, givenRight, receivedRight, deliveredRight, keptRight⟩ := right
  refine ⟨takenLeft ++ takenRight, givenLeft ++ givenRight, ?_, ?_, ?_⟩
  · rw [receivedRight, receivedLeft, List.append_assoc]
  · rw [deliveredRight, deliveredLeft, List.append_assoc]
  · have middle := (keptRight.append_left givenLeft).trans
      (List.append_assoc givenLeft second.content takenRight ▸ keptLeft.append_right takenRight)
    rwa [← List.append_assoc, List.append_assoc first.content] at middle

/-- An item is put at the end. -/
theorem Passes.receive (content received delivered : List Item) (item : Item) :
    Passes ⟨content, received, delivered⟩ ⟨content ++ [item], received ++ [item], delivered⟩ :=
  ⟨[item], [], rfl, (List.append_nil _).symm, by rw [List.nil_append]⟩

/-- The oldest item is given away. -/
theorem Passes.deliver (item : Item) (rest received delivered : List Item) :
    Passes ⟨item :: rest, received, delivered⟩ ⟨rest, received, delivered ++ [item]⟩ :=
  ⟨[], [item], (List.append_nil _).symm, rfl, by
    rw [List.append_nil, List.singleton_append]⟩

/-- Some items are lost. -/
theorem Passes.lose {content kept : List Item} (sublist : kept.Sublist content)
    (received delivered : List Item) :
    Passes ⟨content, received, delivered⟩ ⟨kept, received, delivered⟩ :=
  ⟨[], [], (List.append_nil _).symm, (List.append_nil _).symm, by
    rwa [List.nil_append, List.append_nil]⟩

/-! ### Since a mark -/

/-- Since the records had the given lengths, what was delivered and what still lies on the conveyor
came, in this order, out of what was received. -/
structure KeepsOrderSince (received delivered : Nat) (conveyor : Conveyor Item) : Prop where
  received_le : received ≤ conveyor.received.length
  delivered_le : delivered ≤ conveyor.delivered.length
  kept : (conveyor.delivered.drop delivered ++ conveyor.content).Sublist
    (conveyor.received.drop received)

/-- An empty conveyor may be marked at any moment. -/
theorem keepsOrderSince_now (conveyor : Conveyor Item) (empty : conveyor.content = []) :
    KeepsOrderSince conveyor.received.length conveyor.delivered.length conveyor where
  received_le := Nat.le_refl _
  delivered_le := Nat.le_refl _
  kept := by
    rw [List.drop_length, List.drop_length, empty, List.append_nil]

theorem KeepsOrderSince.passes {received delivered : Nat} {before after : Conveyor Item}
    (keeps : KeepsOrderSince received delivered before) (passes : Passes before after) :
    KeepsOrderSince received delivered after := by
  obtain ⟨taken, given, receivedEq, deliveredEq, kept⟩ := passes
  refine ⟨?_, ?_, ?_⟩
  · rw [receivedEq, List.length_append]
    exact Nat.le_add_right_of_le keeps.received_le
  · rw [deliveredEq, List.length_append]
    exact Nat.le_add_right_of_le keeps.delivered_le
  · rw [receivedEq, deliveredEq, List.drop_append_of_le_length keeps.received_le,
      List.drop_append_of_le_length keeps.delivered_le, List.append_assoc]
    have middle := (kept.append_left (before.delivered.drop delivered))
    rw [← List.append_assoc (before.delivered.drop delivered) before.content] at middle
    exact middle.trans (keeps.kept.append_right taken)

/-- What was delivered since the mark was received since the mark. -/
theorem KeepsOrderSince.delivered_sublist {received delivered : Nat} {conveyor : Conveyor Item}
    (keeps : KeepsOrderSince received delivered conveyor) :
    (conveyor.delivered.drop delivered).Sublist (conveyor.received.drop received) :=
  (List.sublist_append_left _ _).trans keeps.kept

/-- When no item is received twice, what was received before a moment at which the conveyor was
empty is not delivered after it. -/
theorem Passes.not_mem_delivered {before after : Conveyor Item} (passes : Passes before after)
    (empty : before.content = []) (nodup : after.received.Nodup) {item : Item}
    (old : item ∈ before.received) : item ∉ after.delivered.drop before.delivered.length := by
  obtain ⟨taken, given, receivedEq, deliveredEq, kept⟩ := passes
  rw [empty, List.nil_append] at kept
  rw [deliveredEq, List.drop_left]
  intro again
  have recent := kept.subset (List.mem_append_left _ again)
  rw [receivedEq] at nodup
  exact (List.nodup_append.mp nodup).2.2 item old item recent rfl

end Conveying

/-
This file develops an account of items that are created one by one. Items are
numbered in the order of their creation; every one is held in exactly one place
until it is gone. The rules below say how the account goes on when an item is
created, when items change their places and when some of them go.
-/

import Mathlib.Data.List.Range
import Mathlib.Data.List.Perm.Basic

namespace Ledger

/-- Every item created so far is gone or held, and only once. -/
def Balanced (created : Nat) (gone held : List Nat) : Prop :=
  (gone ++ held).Perm (List.range created)

variable {created : Nat} {gone held held' dropped : List Nat}

theorem balanced_zero : Balanced 0 [] [] := List.Perm.refl _

theorem Balanced.create (balanced : Balanced created gone held) :
    Balanced (created + 1) gone (held ++ [created]) := by
  rw [Balanced, List.range_succ, ← List.append_assoc]
  exact balanced.append_right _

/-- Items change their places. -/
theorem Balanced.move (balanced : Balanced created gone held) (same : held'.Perm held) :
    Balanced created gone held' := (same.append_left gone).trans balanced

/-- Some items go. -/
theorem Balanced.drop (balanced : Balanced created gone held)
    (split : (dropped ++ held').Perm held) : Balanced created (gone ++ dropped) held' := by
  rw [Balanced, List.append_assoc]
  exact (split.append_left gone).trans balanced

/-- Nothing is held twice, gone twice, or held although it is gone. -/
theorem Balanced.nodup (balanced : Balanced created gone held) : (gone ++ held).Nodup :=
  balanced.nodup_iff.mpr List.nodup_range

/-- Nothing is forgotten. -/
theorem Balanced.mem_iff (balanced : Balanced created gone held) {item : Nat} :
    item ∈ gone ∨ item ∈ held ↔ item < created := by
  rw [← List.mem_append, List.Perm.mem_iff balanced, List.mem_range]

end Ledger

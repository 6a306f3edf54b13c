/-
This file develops numbers written as a fixed number of bytes, least significant
byte first, which is how a packed structure lies in memory on a little-endian
machine.
-/

import Mathlib.Algebra.Group.Nat.Defs
import Mathlib.Data.List.Basic

namespace LittleEndian

/-- The number the bytes stand for. -/
def ofBytes : List UInt8 → Nat
  | [] => 0
  | byte :: rest => byte.toNat + 256 * ofBytes rest

/-- The lowest bytes of a number. -/
def toBytes : Nat → Nat → List UInt8
  | 0, _ => []
  | width + 1, number => UInt8.ofNat number :: toBytes width (number / 256)

@[simp]
theorem length_toBytes (width number : Nat) : (toBytes width number).length = width := by
  induction width generalizing number with
  | zero => rfl
  | succ width inductionHypothesis =>
    rw [toBytes, List.length_cons, inductionHypothesis]

/-- A number is read back up to the bytes that were written. -/
theorem ofBytes_toBytes (width number : Nat) :
    ofBytes (toBytes width number) = number % 256 ^ width := by
  induction width generalizing number with
  | zero => rw [toBytes, ofBytes, Nat.pow_zero, Nat.mod_one]
  | succ width inductionHypothesis =>
    have lowest : (UInt8.ofNat number).toNat = number % 256 := UInt8.toNat_ofNat'
    rw [toBytes, ofBytes, inductionHypothesis, lowest, Nat.pow_succ', Nat.mod_mul]

theorem ofBytes_toBytes_of_lt {width number : Nat} (fits : number < 256 ^ width) :
    ofBytes (toBytes width number) = number := by
  rw [ofBytes_toBytes, Nat.mod_eq_of_lt fits]

end LittleEndian

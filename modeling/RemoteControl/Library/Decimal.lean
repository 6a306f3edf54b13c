/-
This file develops the decimal text of a bounded integer: the text a number is
printed as, the C parser that reads a number from the front of a text, and the
round trip between the two when the text behind the number does not begin with
a digit.
-/

import Mathlib.Data.Int.Basic
import Mathlib.Data.List.TakeWhile
import Mathlib.Order.MinMax
import Mathlib.Tactic.Ring

namespace Decimal

/-! ### Printing and parsing -/

def minus : UInt8 := 0x2D
def plus : UInt8 := 0x2B

/-- The printed decimal of an integer. -/
def print (number : Int) : List UInt8 :=
  (if number < 0 then [minus] else []) ++ (Nat.toDigits 10 number.natAbs).map Char.toUInt8

def isDigit (byte : UInt8) : Bool := 0x30 ≤ byte && byte ≤ 0x39

def isSpace (byte : UInt8) : Bool := byte = 0x20 || (0x09 ≤ byte && byte ≤ 0x0D)

/-- The value of a row of digits. -/
def digitsValue (digits : List UInt8) : Nat :=
  digits.foldl (fun value digit => 10 * value + (digit.toNat - 48)) 0

/-- The number at the front of a text, when there is a digit. -/
def leadingNumber (text : List UInt8) : Option Nat :=
  match text.takeWhile isDigit with
  | [] => none
  | digit :: digits => some (digitsValue (digit :: digits))

/-- A number brought into the range of a signed integer of the given width. -/
def clamp (width : Nat) (number : Int) : Int :=
  max (-2 ^ (width - 1)) (min (2 ^ (width - 1) - 1) number)

/-- `strtol` in base ten: blanks, an optional sign, digits. Without a digit nothing is read. -/
def strtol (width : Nat) (text : List UInt8) : Option Int :=
  match text.dropWhile isSpace with
  | [] => none
  | head :: tail =>
    if head = minus then (leadingNumber tail).map fun number : Nat => clamp width (-number)
    else if head = plus then (leadingNumber tail).map fun number : Nat => clamp width number
    else (leadingNumber (head :: tail)).map fun number : Nat => clamp width number

/-! ### The round trip -/

theorem toNat_toUInt8_of_isDigit {character : Char} (digit : character.isDigit) :
    character.toUInt8.toNat = character.toNat := by
  rw [Char.isDigit, Bool.and_eq_true, decide_eq_true_eq, decide_eq_true_eq] at digit
  have small : character.toNat ≤ 57 := digit.2
  rw [Char.toUInt8, UInt32.toNat_toUInt8]
  exact Nat.mod_eq_of_lt (by show character.toNat < 256; omega)

theorem isDigit_toUInt8 {character : Char} (digit : character.isDigit) :
    isDigit character.toUInt8 = true := by
  have value := toNat_toUInt8_of_isDigit digit
  rw [Char.isDigit, Bool.and_eq_true, decide_eq_true_eq, decide_eq_true_eq] at digit
  have low : 48 ≤ character.toNat := digit.1
  have high : character.toNat ≤ 57 := digit.2
  rw [isDigit, Bool.and_eq_true, decide_eq_true_eq, decide_eq_true_eq]
  rw [UInt8.le_iff_toNat_le, UInt8.le_iff_toNat_le, value]
  exact ⟨low, high⟩

/-- The printed digits of a natural number. -/
def digitsOf (number : Nat) : List UInt8 := (Nat.toDigits 10 number).map Char.toUInt8

theorem isDigit_of_mem_digitsOf {number : Nat} {byte : UInt8} (member : byte ∈ digitsOf number) :
    isDigit byte = true := by
  obtain ⟨character, written, rfl⟩ := List.mem_map.mp member
  exact isDigit_toUInt8 (Nat.isDigit_of_mem_toDigits (by decide) (by decide) written)

theorem digitsOf_ne_nil (number : Nat) : digitsOf number ≠ [] := by
  rw [digitsOf, Ne, List.map_eq_nil_iff]
  exact Nat.toDigits_ne_nil

theorem digitsValue_digitsOf (number : Nat) : digitsValue (digitsOf number) = number := by
  have fold (characters : List Char) (start : Nat)
      (digits : ∀ character ∈ characters, character.isDigit) :
      (characters.map Char.toUInt8).foldl
        (fun value digit => 10 * value + (digit.toNat - 48)) start =
        Nat.ofDigitChars 10 characters start := by
    induction characters generalizing start with
    | nil => rfl
    | cons head tail inductionHypothesis =>
      rw [List.map_cons, List.foldl_cons, Nat.ofDigitChars_cons,
        toNat_toUInt8_of_isDigit (digits head List.mem_cons_self),
        inductionHypothesis _ fun character member =>
          digits character (List.mem_cons_of_mem _ member)]
      rfl
  rw [digitsValue, digitsOf, fold _ 0 fun character member =>
    Nat.isDigit_of_mem_toDigits (by decide) (by decide) member]
  exact Nat.ofDigitChars_ten_toDigits

/-- Digits followed by something else are read to their end. -/
theorem leadingNumber_digitsOf (number : Nat) {rest : List UInt8}
    (ends : ∀ head ∈ rest.head?, isDigit head = false) :
    leadingNumber (digitsOf number ++ rest) = some number := by
  have taken : (digitsOf number ++ rest).takeWhile isDigit = digitsOf number := by
    rw [List.takeWhile_append_of_pos fun _ member => isDigit_of_mem_digitsOf member]
    cases rest with
    | nil => simp
    | cons head tail =>
      rw [List.takeWhile_cons_of_neg (by rw [ends head rfl]; simp), List.append_nil]
  rw [leadingNumber, taken]
  cases digits : digitsOf number with
  | nil => exact absurd digits (digitsOf_ne_nil number)
  | cons head tail =>
    show some (digitsValue (head :: tail)) = some number
    rw [← digits, digitsValue_digitsOf]

theorem not_isDigit_minus : isDigit minus = false := rfl

theorem isDigit_not_isSpace {byte : UInt8} (digit : isDigit byte = true) :
    isSpace byte = false := by
  rw [isDigit, Bool.and_eq_true, decide_eq_true_eq, decide_eq_true_eq, UInt8.le_iff_toNat_le,
    UInt8.le_iff_toNat_le] at digit
  rw [isSpace, Bool.or_eq_false_iff, Bool.and_eq_false_iff, decide_eq_false_iff_not,
    decide_eq_false_iff_not, decide_eq_false_iff_not, UInt8.le_iff_toNat_le, UInt8.le_iff_toNat_le,
    UInt8.ext_iff]
  have low : 48 ≤ byte.toNat := digit.1
  exact ⟨by show byte.toNat ≠ 32; omega, Or.inr (by show ¬ byte.toNat ≤ 13; omega)⟩

/-- A number in range is read back from its printed text. -/
theorem strtol_print {width : Nat} {number : Int} {rest : List UInt8}
    (low : -2 ^ (width - 1) ≤ number) (high : number ≤ 2 ^ (width - 1) - 1)
    (ends : ∀ head ∈ rest.head?, isDigit head = false) :
    strtol width (print number ++ rest) = some number := by
  have inRange : clamp width number = number := by
    rw [clamp, min_eq_right high, max_eq_right low]
  have read := leadingNumber_digitsOf number.natAbs ends
  by_cases negative : number < 0
  · have text : print number ++ rest = minus :: (digitsOf number.natAbs ++ rest) := by
      rw [print, if_pos negative]
      rfl
    rw [text, strtol, List.dropWhile_cons_of_neg (by decide)]
    simp only [if_true]
    rw [read, Option.map_some, show -(number.natAbs : Int) = number by omega, inRange]
  · have text : print number ++ rest = digitsOf number.natAbs ++ rest := by
      rw [print, if_neg negative]
      rfl
    have value : (number.natAbs : Int) = number := by omega
    cases digits : digitsOf number.natAbs with
    | nil => exact absurd digits (digitsOf_ne_nil _)
    | cons head tail =>
      have digit : isDigit head = true :=
        @isDigit_of_mem_digitsOf number.natAbs head (digits ▸ List.mem_cons_self)
      have notMinus : head ≠ minus := fun same => by
        rw [same, not_isDigit_minus] at digit
        cases digit
      have notPlus : head ≠ plus := fun same => by
        rw [same] at digit
        cases digit
      rw [digits] at read
      rw [text, digits, List.cons_append, strtol,
        List.dropWhile_cons_of_neg (by rw [isDigit_not_isSpace digit]; simp)]
      simp only [if_neg notMinus, if_neg notPlus]
      rw [← List.cons_append, read, Option.map_some, value, inRange]

end Decimal

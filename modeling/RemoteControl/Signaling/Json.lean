/-
This file models the JSON helpers that the signaling server and the client each
carry a copy of. `FindValue` is the same text in both programs: it finds the
first quoted occurrence of a field name, the next colon behind it and the first
byte behind that colon that is not blank. `StringField` differs in the escapes
it knows and in the bound on the value, so it is one function of a reader.

Lookups are computed by position, as in the source; `findValue_map_drop` and
`stringField_eq` restate them on the text behind the field name, which is what
every later proof reads.
-/

import RemoteControl.Library.Quoted

namespace RemoteControl

open ListSearch Quoted

abbrev Byte := UInt8

/-- A byte string; every byte value may occur. -/
abbrev ByteString := List Byte

/-- The bytes of a string literal of the source, which is ASCII throughout. -/
def bytes (literal : String) : ByteString := literal.toList.map Char.toUInt8

/-! ### The bytes the protocol gives a meaning -/

def quote : Byte := 0x22
def backslash : Byte := 0x5C
def newline : Byte := 0x0A
def carriageReturn : Byte := 0x0D
def tab : Byte := 0x09
def space : Byte := 0x20
def comma : Byte := 0x2C
def colon : Byte := 0x3A
def openBrace : Byte := 0x7B
def closeBrace : Byte := 0x7D
def letterN : Byte := 0x6E
def letterR : Byte := 0x72
def letterT : Byte := 0x74

/-- The blanks a value may be preceded by. -/
def blanks : ByteString := [space, tab, carriageReturn, newline]

/-! ### FindValue -/

/-- `FindValue`: where the value of a field begins, or `npos`. -/
def findValue (json name : ByteString) : Option Nat :=
  match find json (key quote name) 0 with
  | none => none
  | some position =>
    match find json [colon] (position + (key quote name).length) with
    | none => none
    | some position => findNotOf json blanks (position + 1)

/-- The value behind a field name: what follows the next colon and its blanks. -/
def valueText (rest : ByteString) : Option ByteString :=
  (afterFirst [colon] rest).bind (skipOver blanks)

/-- The text of a field's value. -/
def fieldText (json name : ByteString) : Option ByteString :=
  (afterFirst (key quote name) json).bind valueText

theorem findValue_map_drop (json name : ByteString) :
    (findValue json name).map json.drop = fieldText json name := by
  have first := find_map_drop json (key quote name) 0
  rw [List.drop_zero] at first
  rw [findValue, fieldText, ← first]
  cases find json (key quote name) 0 with
  | none => rfl
  | some position =>
    have second := find_map_drop json [colon] (position + (key quote name).length)
    rw [Option.map_some, Option.bind_some, valueText, ← second]
    show (match find json [colon] (position + (key quote name).length) with
      | none => none
      | some position => findNotOf json blanks (position + 1)).map json.drop = _
    cases find json [colon] (position + (key quote name).length) with
    | none => rfl
    | some position => exact findNotOf_map_drop json blanks (position + 1)

/-! ### StringField -/

/-- `StringField`, with the escapes and the bound of one of the two programs. An absent field,
a value that is no string and a value that cannot be read all give the empty string. -/
def stringField (reader : Reader Byte) (json name : ByteString) : ByteString :=
  match findValue json name with
  | none => []
  | some position =>
    if json[position]? = some quote then (reader.read (json.drop (position + 1))).getD [] else []

/-- The text behind the opening quote, when the value is a string. -/
def openString : ByteString → Option ByteString
  | [] => none
  | head :: tail => if head = quote then some tail else none

/-- The text behind the opening quote of a field's string value. -/
def stringText (json name : ByteString) : Option ByteString :=
  (fieldText json name).bind openString

theorem stringField_eq (reader : Reader Byte) (json name : ByteString) :
    stringField reader json name = ((stringText json name).bind reader.read).getD [] := by
  rw [stringField, stringText, ← findValue_map_drop]
  cases findValue json name with
  | none => rfl
  | some position =>
    simp only [Option.map_some, Option.bind_some]
    rw [← List.head?_drop, ← List.tail_drop]
    cases json.drop position with
    | nil => rfl
    | cons head tail =>
      rw [List.head?_cons, List.tail_cons, openString]
      simp only [Option.some_inj]
      split <;> rfl

theorem stringField_of_stringText {reader : Reader Byte} {json name text : ByteString}
    (found : stringText json name = some text) :
    stringField reader json name = (reader.read text).getD [] := by
  rw [stringField_eq, found, Option.bind_some]

theorem stringField_of_none {reader : Reader Byte} {json name : ByteString}
    (absent : stringText json name = none) : stringField reader json name = [] := by
  rw [stringField_eq, absent]
  rfl

/-- A nonempty field was read from a string value. -/
theorem stringText_of_stringField_ne_nil {reader : Reader Byte} {json name : ByteString}
    (nonempty : stringField reader json name ≠ []) :
    ∃ text, stringText json name = some text ∧
      reader.read text = some (stringField reader json name) := by
  rw [stringField_eq] at nonempty ⊢
  cases found : stringText json name with
  | none => exact absurd (by rw [found]; rfl) nonempty
  | some text =>
    rw [found, Option.bind_some] at nonempty
    refine ⟨text, rfl, ?_⟩
    cases read : reader.read text with
    | none => exact absurd (by rw [read]; rfl) nonempty
    | some value => rw [Option.bind_some, read, Option.getD_some]

/-- Behind the name, a colon and no blank: the value begins at once. -/
theorem valueText_colon {head : Byte} (tail : ByteString) (visible : head ∉ blanks) :
    valueText (colon :: head :: tail) = some (head :: tail) := by
  have found : afterFirst [colon] (colon :: head :: tail) = some (head :: tail) :=
    afterFirst_singleton (head :: tail) List.not_mem_nil
  rw [valueText, found, Option.bind_some, skipOver,
    List.dropWhile_cons_of_neg (by simpa using visible)]

/-- Bytes before the next colon are passed over, whatever they are. -/
theorem valueText_append {before : ByteString} (rest : ByteString) (missing : colon ∉ before) :
    valueText (before ++ rest) = valueText rest := by
  rw [valueText, afterFirst_append_of_notMem rest missing, ← valueText]

/-! ### The two readers -/

/-- The server knows five escapes and bounds the value. -/
def serverReader : Reader Byte where
  quote := quote
  escape := backslash
  unescape letter :=
    if letter = letterN then some newline
    else if letter = letterR then some carriageReturn
    else if letter = letterT then some tab
    else if letter = backslash then some backslash
    else if letter = quote then some quote
    else none
  limit := some 1024

/-- The client knows three escapes, takes every other escaped byte as itself, and has no bound. -/
def clientReader : Reader Byte where
  quote := quote
  escape := backslash
  unescape letter :=
    if letter = letterN then some newline
    else if letter = letterR then some carriageReturn
    else if letter = letterT then some tab
    else some letter
  limit := none

/-- The client reads every string the server reads, to the same value. -/
theorem clientReader_extends : clientReader.Extends serverReader where
  sameQuote := rfl
  sameEscape := rfl
  letters letter element known := by
    simp only [serverReader, clientReader] at known ⊢
    by_cases isN : letter = letterN
    · rwa [if_pos isN] at known ⊢
    by_cases isR : letter = letterR
    · rwa [if_neg isN, if_pos isR] at known ⊢
    by_cases isT : letter = letterT
    · rwa [if_neg isN, if_neg isR, if_pos isT] at known ⊢
    rw [if_neg isN, if_neg isR, if_neg isT] at known ⊢
    split at known
    · rename_i same
      rwa [same]
    · split at known
      · rename_i same
        rwa [same]
      · cases known
  bound value _ := rfl

/-- The client refuses no string that a quote closes. -/
theorem clientReader_scan_ne_refused (text : ByteString) (escaped : Bool) (value : ByteString) :
    clientReader.scan text escaped value ≠ .refused := by
  refine clientReader.scan_ne_refused rfl (fun letter => ?_) text escaped value
  simp only [clientReader]
  repeat' split
  all_goals rfl

end RemoteControl

/-
This file states what a field lookup returns on a well-formed line. Every line
the two programs build is a flat record: an opening brace, members separated by
commas, a closing brace. `FindValue` knows nothing of members; it searches the
quoted name anywhere in the text and then takes the value behind the next colon.

`lookedUp` is that search read on the members. A member of the searched name
answers with its own value, but so does a string value that ends with the
quoted name: its closing quote completes the name, and the next colon belongs
to the member that follows, whatever that member is called. `fieldText_line`
proves that this is exactly what the textual search computes.
-/

import RemoteControl.Signaling.Json

namespace RemoteControl

open ListSearch Quoted

/-! ### Field names -/

def isLetter (byte : Byte) : Bool := (0x41 ≤ byte && byte ≤ 0x5A) || (0x61 ≤ byte && byte ≤ 0x7A)

/-- Every field name of the protocol consists of letters. -/
def PlainName (name : ByteString) : Prop := ∀ byte ∈ name, isLetter byte = true

instance (name : ByteString) : Decidable (PlainName name) :=
  List.decidableBAll (fun byte => isLetter byte = true) name

theorem PlainName.notMem {name : ByteString} (plain : PlainName name) {byte : Byte}
    (symbol : isLetter byte = false) : byte ∉ name := by
  intro member
  rw [plain byte member] at symbol
  cases symbol

/-! ### Members -/

/-- A member's value: a string, or a text without quotes such as a number. -/
inductive MemberValue where
  | string (value : ByteString)
  | raw (text : ByteString)
  deriving DecidableEq

/-- A value that is no string holds no quote and begins with a visible byte. -/
def MemberValue.WellFormed : MemberValue → Prop
  | .string _ => True
  | .raw text => quote ∉ text ∧ ∃ head ∈ text.head?, head ∉ blanks

/-- A member of a record; its name and value are well formed by construction. -/
structure Member where
  name : ByteString
  value : MemberValue
  plain : PlainName name
  wellFormed : value.WellFormed

/-- How strings are written into a line: quotes are shielded by a backslash and letters stand
for themselves. -/
structure LineWriter extends Writer Byte where
  shields : toWriter.Shields quote
  escapeBackslash : escape = backslash
  plainLetters : ∀ byte, isLetter byte = true → letter byte = none

variable (writer : LineWriter)

def MemberValue.text : MemberValue → ByteString
  | .string value => quote :: (writer.write value ++ [quote])
  | .raw text => text

def Member.text (member : Member) : ByteString :=
  key quote member.name ++ colon :: member.value.text writer

/-- What follows a member: the further members, each behind a comma, and the closing brace. -/
def behind (rest : List Member) : ByteString :=
  rest.flatMap (fun member => comma :: member.text writer) ++ [closeBrace]

/-- The line of a record. -/
def recordLine (first : Member) (rest : List Member) : ByteString :=
  openBrace :: (first.text writer ++ behind writer rest)

theorem behind_cons (member : Member) (rest : List Member) :
    behind writer (member :: rest) = comma :: (member.text writer ++ behind writer rest) := by
  rw [behind, List.flatMap_cons, behind]
  simp only [List.cons_append, List.append_assoc]

/-- A member of a name is searched by its quoted name. -/
theorem Member.text_append (member : Member) (rest : ByteString) :
    member.text writer ++ rest =
      quote :: (member.name ++ quote :: (colon :: (member.value.text writer ++ rest))) := by
  rw [Member.text, key]
  simp only [List.cons_append, List.append_assoc, List.nil_append]

/-! ### The lookup on members -/

/-- What a lookup finds among members: the value it takes and the members behind that value. -/
def lookedUpAt (name : ByteString) : List Member → Option (MemberValue × List Member)
  | [] => none
  | member :: rest =>
    if member.name = name then some (member.value, rest)
    else
      match member.value with
      | .raw _ => lookedUpAt name rest
      | .string value =>
        if EndsWithName quote name value then rest.head?.map fun next => (next.value, rest.tail)
        else lookedUpAt name rest

/-- The value a lookup takes. -/
def lookedUp (name : ByteString) (members : List Member) : Option MemberValue :=
  (lookedUpAt name members).map Prod.fst

/-- The text behind the first quoted occurrence of the name, read on the members. -/
def located (name : ByteString) : List Member → Option ByteString
  | [] => none
  | member :: rest =>
    if member.name = name then some (colon :: (member.value.text writer ++ behind writer rest))
    else
      match member.value with
      | .raw _ => located name rest
      | .string value =>
        if EndsWithName quote name value then some (behind writer rest) else located name rest

variable {writer}

/-- Searching one member, given what the search finds behind it. -/
theorem afterFirst_key_member {name : ByteString} (plain : PlainName name) (member : Member)
    (rest : List Member)
    (continues : ∀ piece, quote ∉ piece →
      afterFirst (key quote name) (quote :: (piece ++ behind writer rest)) =
        located writer name rest) :
    afterFirst (key quote name) (member.text writer ++ behind writer rest) =
      located writer name (member :: rest) := by
  have plainQuote : quote ∉ name := plain.notMem rfl
  have fieldQuote : quote ∉ member.name := member.plain.notMem rfl
  rw [Member.text_append, afterFirst_key_piece _ plainQuote fieldQuote, located]
  refine if_congr Iff.rfl rfl ?_
  have wellFormed := member.wellFormed
  cases shape : member.value with
  | raw text =>
    rw [shape] at wellFormed
    simp only [MemberValue.text]
    rw [← List.cons_append]
    refine continues (colon :: text) ?_
    simpa using ⟨by decide, wellFormed.1⟩
  | string value =>
    simp only [MemberValue.text]
    have pieces :
        quote :: colon :: (quote :: (writer.write value ++ [quote]) ++ behind writer rest) =
          quote :: ([colon] ++ quote :: (writer.write value ++ quote :: behind writer rest)) := by
      simp
    have notColon : [colon] ≠ name := fun same =>
      plain.notMem (show isLetter colon = false from rfl) (same ▸ List.mem_cons_self)
    have noEscape : writer.escape ∉ name := by
      rw [writer.escapeBackslash]
      exact plain.notMem rfl
    rw [pieces, afterFirst_key_piece _ plainQuote (by decide), if_neg notColon,
      afterFirst_key_written writer.shields plainQuote noEscape
        (fun byte member => writer.plainLetters byte (plain byte member))]
    refine if_congr Iff.rfl rfl ?_
    exact continues [] List.not_mem_nil

/-- Searching from behind a value: its closing quote and what follows it hold no name. -/
theorem afterFirst_key_behind {name : ByteString} (plain : PlainName name) (rest : List Member)
    (piece : ByteString) (missing : quote ∉ piece) :
    afterFirst (key quote name) (quote :: (piece ++ behind writer rest)) =
      located writer name rest := by
  induction rest generalizing piece with
  | nil =>
    have noQuote : quote ∉ piece ++ [closeBrace] := by
      simpa using ⟨missing, by decide⟩
    exact afterFirst_key_single noQuote
  | cons member rest inductionHypothesis =>
    have noQuote : quote ∉ piece ++ [comma] := by
      simpa using ⟨missing, by decide⟩
    have notName : piece ++ [comma] ≠ name := fun same =>
      plain.notMem (show isLetter comma = false from rfl) (same ▸ by simp)
    have pieces : piece ++ behind writer (member :: rest) =
        (piece ++ [comma]) ++ quote :: (member.name ++ quote ::
          (colon :: (member.value.text writer ++ behind writer rest))) := by
      rw [behind_cons, Member.text_append]
      simp
    rw [pieces, afterFirst_key_piece _ (plain.notMem rfl) noQuote, if_neg notName,
      ← Member.text_append]
    exact afterFirst_key_member plain member rest inductionHypothesis

theorem afterFirst_key_line {name : ByteString} (plain : PlainName name) (first : Member)
    (rest : List Member) :
    afterFirst (key quote name) (recordLine writer first rest) =
      located writer name (first :: rest) := by
  have skipped : quote ∉ [openBrace] := by decide
  rw [recordLine, ← List.singleton_append, afterFirst_key_skip _ skipped]
  exact afterFirst_key_member plain first rest (afterFirst_key_behind plain rest)

/-! ### The value behind the name -/

/-- The value of a member begins right behind its colon. -/
theorem valueText_member (member : Member) (rest : ByteString) :
    valueText (colon :: (member.value.text writer ++ rest)) =
      some (member.value.text writer ++ rest) := by
  have wellFormed := member.wellFormed
  cases shape : member.value with
  | string value => exact valueText_colon _ (by decide)
  | raw text =>
    rw [shape] at wellFormed
    obtain ⟨-, head, front, visible⟩ := wellFormed
    simp only [MemberValue.text]
    cases text with
    | nil => cases front
    | cons first tail =>
      rw [List.head?_cons, Option.mem_def, Option.some_inj] at front
      exact valueText_colon _ (front ▸ visible)

theorem valueText_behind (rest : List Member) :
    valueText (behind writer rest) =
      match rest with
      | [] => none
      | next :: rest => some (next.value.text writer ++ behind writer rest) := by
  cases rest with
  | nil => rfl
  | cons next rest =>
    have before : behind writer (next :: rest) =
        (comma :: quote :: (next.name ++ [quote])) ++
          colon :: (next.value.text writer ++ behind writer rest) := by
      rw [behind_cons, Member.text_append]
      simp
    have missing : colon ∉ comma :: quote :: (next.name ++ [quote]) := by
      have plain : colon ∉ next.name := next.plain.notMem rfl
      simpa using ⟨by decide, by decide, plain, by decide⟩
    rw [before, valueText_append _ missing]
    exact valueText_member next _

/-- The textual search on a record's line finds the value that the members determine. -/
theorem fieldText_line {name : ByteString} (plain : PlainName name) (first : Member)
    (rest : List Member) :
    fieldText (recordLine writer first rest) name =
      (lookedUpAt name (first :: rest)).map fun found =>
        found.1.text writer ++ behind writer found.2 := by
  rw [fieldText, afterFirst_key_line plain]
  generalize first :: rest = members
  induction members with
  | nil => rfl
  | cons member rest inductionHypothesis =>
    rw [located, lookedUpAt]
    split
    · exact valueText_member member _
    · cases member.value with
      | raw text => exact inductionHypothesis
      | string value =>
        simp only
        split
        · rw [Option.bind_some, valueText_behind]
          cases rest <;> rfl
        · exact inductionHypothesis

/-! ### Reading the value -/

/-- A field the lookup answers with a string is read as that string. -/
theorem stringField_line {reader : Reader Byte} {name value : ByteString} (first : Member)
    (rest : List Member) (plain : PlainName name)
    (found : lookedUp name (first :: rest) = some (.string value))
    (sameQuote : reader.quote = quote) (sameEscape : reader.escape = backslash)
    (takesBack : ∀ byte ∈ value, reader.TakesBack writer.toWriter byte)
    (bounded : ∀ bound ∈ reader.limit, value.length ≤ bound) :
    stringField reader (recordLine writer first rest) name = value := by
  obtain ⟨⟨taken, remaining⟩, located, same⟩ := Option.map_eq_some_iff.mp found
  simp only at same
  have text : stringText (recordLine writer first rest) name =
      some (writer.write value ++ reader.quote :: behind writer remaining) := by
    rw [stringText, fieldText_line plain, located, Option.map_some, Option.bind_some, same,
      sameQuote]
    show some (writer.write value ++ [quote] ++ behind writer remaining) = _
    rw [List.append_assoc, List.singleton_append]
  rw [stringField_of_stringText text, Reader.read_write (by rw [sameEscape, writer.escapeBackslash])
    (by rw [sameEscape, sameQuote]; decide) value _ takesBack bounded, Option.getD_some]

theorem lookedUpAt_wellFormed {name : ByteString} {members : List Member} {value : MemberValue}
    {rest : List Member} (found : lookedUpAt name members = some (value, rest)) :
    value.WellFormed := by
  induction members with
  | nil => cases found
  | cons member members inductionHypothesis =>
    rw [lookedUpAt] at found
    split at found
    · rw [Option.some_inj] at found
      exact (Prod.mk.inj found).1 ▸ member.wellFormed
    · split at found
      · exact inductionHypothesis found
      · split at found
        · obtain ⟨next, -, same⟩ := Option.map_eq_some_iff.mp found
          exact (Prod.mk.inj same).1 ▸ next.wellFormed
        · exact inductionHypothesis found

/-- A field the lookup does not answer with a string is read as the empty string. -/
theorem stringField_line_of_not_string {reader : Reader Byte} {name : ByteString} (first : Member)
    (rest : List Member) (plain : PlainName name)
    (noString : ∀ value, lookedUp name (first :: rest) ≠ some (.string value)) :
    stringField reader (recordLine writer first rest) name = [] := by
  refine stringField_of_none ?_
  rw [stringText, fieldText_line plain]
  cases found : lookedUpAt name (first :: rest) with
  | none => rfl
  | some located =>
    obtain ⟨value, remaining⟩ := located
    have wellFormed := lookedUpAt_wellFormed found
    cases value with
    | string value => exact absurd (by rw [lookedUp, found]; rfl) (noString value)
    | raw text =>
      obtain ⟨noQuote, head, front, -⟩ := wellFormed
      cases text with
      | nil => cases front
      | cons first tail =>
        rw [List.mem_cons, not_or] at noQuote
        exact if_neg (Ne.symm noQuote.1)

end RemoteControl

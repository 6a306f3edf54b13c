/-
This file develops quoted text: values written between two quotes with an
escape character, the readers that take them back, and the search for a quoted
field name inside such text.

Two facts make the search tractable although it ignores the structure of the
text. Between two consecutive quotes a name occurs only if it is the whole
piece (`afterFirst_key_piece`), and a written value shields its quotes with the
escape character, so the name can match a written value only at its end
(`afterFirst_key_written`).
-/

import RemoteControl.Library.Search

namespace Quoted

open ListSearch

variable {α : Type*} [DecidableEq α]

/-! ### Searching a quoted name -/

/-- A field name between two quotes, the text a lookup searches for. -/
def key (quote : α) (name : List α) : List α := quote :: (name ++ [quote])

omit [DecidableEq α] in
theorem key_ne_nil (quote : α) (name : List α) : key quote name ≠ [] := List.cons_ne_nil _ _

omit [DecidableEq α] in
theorem notMem_key {quote element : α} {name : List α} (other : element ≠ quote)
    (missing : element ∉ name) : element ∉ key quote name := by
  simp only [key, List.mem_cons, List.mem_append, List.not_mem_nil, or_false, not_or]
  exact ⟨other, missing, other⟩

/-- The text before the first quote holds no quoted name. -/
theorem afterFirst_key_skip {quote : α} {name before : List α} (rest : List α)
    (missing : quote ∉ before) :
    afterFirst (key quote name) (before ++ rest) = afterFirst (key quote name) rest :=
  afterFirst_append_of_notMem rest missing

/-- A text with a single quote holds no quoted name. -/
theorem afterFirst_key_single {quote : α} {name piece : List α} (missing : quote ∉ piece) :
    afterFirst (key quote name) (quote :: piece) = none := by
  have absent : ¬ key quote name <+: quote :: piece := fun occurs =>
    missing ((List.cons_prefix_cons.mp occurs).2.subset (by simp))
  rw [afterFirst_cons_of_absent absent]
  exact afterFirst_eq_none_of_notMem missing

omit [DecidableEq α] in
/-- Between two consecutive quotes only the whole piece can be the name. -/
theorem key_prefix_piece_iff {quote : α} {name piece rest : List α} (plain : quote ∉ name)
    (missing : quote ∉ piece) :
    key quote name <+: quote :: (piece ++ quote :: rest) ↔ piece = name := by
  rw [key, List.cons_prefix_cons, eq_self, true_and]
  constructor
  · rintro ⟨behind, whole⟩
    rw [List.append_assoc, List.singleton_append] at whole
    induction name generalizing piece with
    | nil =>
      cases piece with
      | nil => rfl
      | cons head tail =>
        exact absurd (List.cons.inj whole).1 fun same => missing (same ▸ List.mem_cons_self)
    | cons first name inductionHypothesis =>
      rw [List.mem_cons, not_or] at plain
      cases piece with
      | nil => exact absurd (List.cons.inj whole).1.symm plain.1
      | cons head tail =>
        rw [List.mem_cons, not_or] at missing
        obtain ⟨same, tails⟩ := List.cons.inj whole
        rw [same, inductionHypothesis plain.2 missing.2 tails]
  · rintro rfl
    exact ⟨rest, by rw [List.append_assoc, List.singleton_append]⟩

/-- One piece between two quotes is either the name or passed over; its closing quote opens
the next piece. -/
theorem afterFirst_key_piece {quote : α} {name piece : List α} (rest : List α)
    (plain : quote ∉ name) (missing : quote ∉ piece) :
    afterFirst (key quote name) (quote :: (piece ++ quote :: rest)) =
      if piece = name then some rest else afterFirst (key quote name) (quote :: rest) := by
  split
  · rename_i same
    rw [afterFirst_cons_of_occurs ((key_prefix_piece_iff plain missing).mpr same), same,
      Option.some_inj]
    have whole : quote :: (name ++ quote :: rest) = key quote name ++ rest := by
      rw [key, List.cons_append, List.append_assoc, List.singleton_append]
    rw [whole, List.drop_left]
  · rename_i different
    rw [afterFirst_cons_of_absent fun occurs =>
      different ((key_prefix_piece_iff plain missing).mp occurs)]
    exact afterFirst_append_of_notMem _ missing

/-! ### Writing a value -/

/-- How a value is written between quotes: some elements are replaced by the escape character
and a letter. -/
structure Writer (α : Type*) where
  escape : α
  letter : α → Option α

/-- One written element. -/
def Writer.writeElement (writer : Writer α) (element : α) : List α :=
  match writer.letter element with
  | some letter => [writer.escape, letter]
  | none => [element]

/-- The written form of a value. -/
def Writer.write (writer : Writer α) (value : List α) : List α :=
  value.flatMap writer.writeElement

/-- A writer shields a quote when the quote, and nothing else, is written as an escaped quote. -/
structure Writer.Shields (writer : Writer α) (quote : α) : Prop where
  quoteLetter : writer.letter quote = some quote
  escapeOther : writer.escape ≠ quote
  otherLetter : ∀ element, writer.letter element = some quote → element = quote

omit [DecidableEq α] in
@[simp]
theorem Writer.write_nil (writer : Writer α) : writer.write [] = [] := rfl

omit [DecidableEq α] in
theorem Writer.write_cons (writer : Writer α) (head : α) (tail : List α) :
    writer.write (head :: tail) = writer.writeElement head ++ writer.write tail := rfl

omit [DecidableEq α] in
theorem Writer.write_append (writer : Writer α) (first second : List α) :
    writer.write (first ++ second) = writer.write first ++ writer.write second :=
  List.flatMap_append

omit [DecidableEq α] in
theorem Writer.writeElement_plain {writer : Writer α} {element : α}
    (unescaped : writer.letter element = none) : writer.writeElement element = [element] := by
  rw [Writer.writeElement, unescaped]

omit [DecidableEq α] in
theorem Writer.writeElement_escaped {writer : Writer α} {element letter : α}
    (escaped : writer.letter element = some letter) :
    writer.writeElement element = [writer.escape, letter] := by
  rw [Writer.writeElement, escaped]

omit [DecidableEq α] in
theorem Writer.write_of_letter_none {writer : Writer α} {value : List α}
    (unescaped : ∀ element ∈ value, writer.letter element = none) : writer.write value = value := by
  induction value with
  | nil => rfl
  | cons head tail inductionHypothesis =>
    rw [Writer.write_cons, Writer.writeElement_plain (unescaped head List.mem_cons_self),
      inductionHypothesis fun element member => unescaped element (List.mem_cons_of_mem _ member)]
    rfl

omit [DecidableEq α] in
/-- An element outside the written alphabet stays outside. -/
theorem Writer.notMem_write {writer : Writer α} {element : α} {value : List α}
    (absent : ∀ original ∈ value, element ∉ writer.writeElement original) :
    element ∉ writer.write value := by
  rw [Writer.write, List.mem_flatMap]
  rintro ⟨original, member, written⟩
  exact absent original member written

omit [DecidableEq α] in
theorem Writer.Shields.notMem_writeElement {writer : Writer α} {quote element : α}
    (shields : writer.Shields quote) (other : element ≠ quote) :
    quote ∉ writer.writeElement element := by
  cases written : writer.letter element with
  | none =>
    rw [Writer.writeElement_plain written]
    simpa using other.symm
  | some letter =>
    rw [Writer.writeElement_escaped written]
    have letterOther : quote ≠ letter := fun same =>
      other (shields.otherLetter element (same ▸ written))
    simpa using ⟨shields.escapeOther.symm, letterOther⟩

omit [DecidableEq α] in
/-- A value without the quote is written without the quote. -/
theorem Writer.Shields.notMem_write {writer : Writer α} {quote : α} {value : List α}
    (shields : writer.Shields quote) (missing : quote ∉ value) : quote ∉ writer.write value :=
  Writer.notMem_write fun _ member =>
    shields.notMem_writeElement fun same => missing (same ▸ member)

omit [DecidableEq α] in
theorem Writer.Shields.write_quote_cons {writer : Writer α} {quote : α}
    (shields : writer.Shields quote) (value : List α) :
    writer.write (quote :: value) = writer.escape :: quote :: writer.write value := by
  rw [Writer.write_cons, Writer.writeElement_escaped shields.quoteLetter]
  rfl

omit [DecidableEq α] in
/-- Only the name itself is written as the name, when the name needs no escape. -/
theorem Writer.write_eq_iff {writer : Writer α} {name value : List α}
    (noEscape : writer.escape ∉ name) (unescaped : ∀ element ∈ name, writer.letter element = none) :
    writer.write value = name ↔ value = name := by
  constructor
  · intro written
    have letters : ∀ element ∈ value, writer.letter element = none := by
      intro element member
      cases letter : writer.letter element with
      | none => rfl
      | some replacement =>
        refine absurd ?_ noEscape
        rw [← written, Writer.write, List.mem_flatMap]
        exact ⟨element, member,
          by rw [Writer.writeElement_escaped letter]; exact List.mem_cons_self⟩
    rw [← written, Writer.write_of_letter_none letters]
  · rintro rfl
    exact Writer.write_of_letter_none unescaped

/-! ### A quoted name inside a written value -/

/-- A value whose text behind its last quote is the name. -/
def EndsWithName (quote : α) (name value : List α) : Prop :=
  value = name ∨ quote :: name <:+ value

instance (quote : α) (name value : List α) : Decidable (EndsWithName quote name value) :=
  inferInstanceAs (Decidable (value = name ∨ quote :: name <:+ value))

omit [DecidableEq α] in
theorem endsWithName_of_notMem {quote : α} {name value : List α} (missing : quote ∉ value) :
    EndsWithName quote name value ↔ value = name := by
  refine ⟨fun ends => ends.elim id fun suffix => ?_, Or.inl⟩
  exact absurd (suffix.subset List.mem_cons_self) missing

omit [DecidableEq α] in
theorem endsWithName_append_cons {quote : α} {name before last : List α} (plain : quote ∉ name)
    (missing : quote ∉ last) : EndsWithName quote name (before ++ quote :: last) ↔ last = name := by
  constructor
  · rintro (same | ⟨front, whole⟩)
    · exact absurd (same ▸ by simp : quote ∈ name) plain
    · classical
      exact (append_cons_inj_of_notMem missing plain whole.symm).2
  · rintro rfl
    exact Or.inr ⟨before, rfl⟩

/-- The quotes inside a written value end on the escape character, which the name lacks. -/
theorem afterFirst_key_shielded {writer : Writer α} {quote : α} {name : List α}
    (shields : writer.Shields quote) (plain : quote ∉ name) (noEscape : writer.escape ∉ name)
    (value rest : List α) :
    afterFirst (key quote name) (quote :: (writer.write value ++ writer.escape :: quote :: rest)) =
      afterFirst (key quote name) (quote :: rest) := by
  have step (piece behind : List α) (missing : quote ∉ piece) :
      afterFirst (key quote name) (quote :: (piece ++ writer.escape :: quote :: behind)) =
        afterFirst (key quote name) (quote :: behind) := by
    have open_ : quote ∉ piece ++ [writer.escape] := by
      simpa using ⟨missing, shields.escapeOther.symm⟩
    have whole : quote :: (piece ++ writer.escape :: quote :: behind) =
        quote :: ((piece ++ [writer.escape]) ++ quote :: behind) := by simp
    rw [whole, afterFirst_key_piece behind plain open_, if_neg]
    rintro rfl
    exact noEscape (by simp)
  induction length : value.length using Nat.strong_induction_on generalizing value with
  | _ size inductionHypothesis =>
    by_cases quoted : quote ∈ value
    · obtain ⟨before, behind, whole, missing⟩ := List.eq_append_cons_of_mem quoted
      rw [whole, Writer.write_append, shields.write_quote_cons, List.append_assoc, List.cons_append,
        List.cons_append, step _ _ (shields.notMem_write missing)]
      refine inductionHypothesis behind.length ?_ behind rfl
      rw [← length, whole, List.length_append, List.length_cons]
      omega
    · exact step _ _ (shields.notMem_write quoted)

/-- A name occurs in a written value only at its end, where the value's closing quote closes
the name. -/
theorem afterFirst_key_written {writer : Writer α} {quote : α} {name : List α}
    (shields : writer.Shields quote) (plain : quote ∉ name) (noEscape : writer.escape ∉ name)
    (unescaped : ∀ element ∈ name, writer.letter element = none) (value rest : List α) :
    afterFirst (key quote name) (quote :: (writer.write value ++ quote :: rest)) =
      if EndsWithName quote name value then some rest
      else afterFirst (key quote name) (quote :: rest) := by
  cases found : lastIndexOf quote value with
  | none =>
    have missing := lastIndexOf_eq_none.mp found
    rw [afterFirst_key_piece rest plain (shields.notMem_write missing)]
    exact if_congr ((Writer.write_eq_iff noEscape unescaped).trans
      (endsWithName_of_notMem missing).symm) rfl rfl
  | some position =>
    obtain ⟨before, last, whole, -, missing⟩ := lastIndexOf_eq_some found
    rw [whole, Writer.write_append, shields.write_quote_cons, List.append_assoc, List.cons_append,
      List.cons_append, afterFirst_key_shielded shields plain noEscape,
      afterFirst_key_piece rest plain (shields.notMem_write missing)]
    exact if_congr ((Writer.write_eq_iff noEscape unescaped).trans
      (endsWithName_append_cons plain missing).symm) rfl rfl

/-! ### Reading a value -/

/-- How a quoted value is read: the letters an escape may introduce, and a bound on the length
of the value when there is one. -/
structure Reader (α : Type*) where
  quote : α
  escape : α
  unescape : α → Option α
  limit : Option Nat

/-- How the reading of a text ends. -/
inductive Scan (α : Type*) where
  /-- A quote closed the value. -/
  | closed (value : List α)
  /-- The text ended inside the value, possibly right behind an escape character. -/
  | unclosed (escaped : Bool) (value : List α)
  /-- An unknown escape, or a value beyond the bound. -/
  | refused
  deriving DecidableEq

/-- Whether a value respects the reader's bound. -/
def Reader.fits (reader : Reader α) (value : List α) : Bool :=
  reader.limit.all fun bound => value.length ≤ bound

/-- Read a text from behind the opening quote. The flag says that the previous element was an
escape character; the value read so far is given. -/
def Reader.scan (reader : Reader α) : List α → Bool → List α → Scan α
  | [], escaped, value => .unclosed escaped value
  | head :: tail, true, value =>
    match reader.unescape head with
    | none => .refused
    | some element =>
      if reader.fits (value ++ [element]) then reader.scan tail false (value ++ [element])
      else .refused
  | head :: tail, false, value =>
    if head = reader.quote then .closed value
    else if head = reader.escape then reader.scan tail true value
    else if reader.fits (value ++ [head]) then reader.scan tail false (value ++ [head])
    else .refused

/-- The value a text holds, when a quote closes it. -/
def Reader.read (reader : Reader α) (text : List α) : Option (List α) :=
  match reader.scan text false [] with
  | .closed value => some value
  | _ => none

theorem Reader.scan_quote (reader : Reader α) (tail value : List α) :
    reader.scan (reader.quote :: tail) false value = .closed value := by
  rw [Reader.scan, if_pos rfl]

/-- An element that is neither the quote nor the escape character is taken as it is. -/
theorem Reader.scan_plain (reader : Reader α) {head : α} (tail value : List α)
    (notQuote : head ≠ reader.quote) (notEscape : head ≠ reader.escape)
    (fits : reader.fits (value ++ [head]) = true) :
    reader.scan (head :: tail) false value = reader.scan tail false (value ++ [head]) := by
  rw [Reader.scan, if_neg notQuote, if_neg notEscape, if_pos fits]

theorem Reader.scan_escape (reader : Reader α) (tail value : List α)
    (notQuote : reader.escape ≠ reader.quote) :
    reader.scan (reader.escape :: tail) false value = reader.scan tail true value := by
  rw [Reader.scan, if_neg notQuote, if_pos rfl]

theorem Reader.scan_letter (reader : Reader α) {letter element : α} (tail value : List α)
    (known : reader.unescape letter = some element)
    (fits : reader.fits (value ++ [element]) = true) :
    reader.scan (letter :: tail) true value = reader.scan tail false (value ++ [element]) := by
  rw [Reader.scan, known]
  exact if_pos fits

/-- What a longer text adds to a scan: nothing once the value is closed or refused. -/
def Reader.resume (reader : Reader α) (more : List α) : Scan α → Scan α
  | .closed value => .closed value
  | .unclosed escaped value => reader.scan more escaped value
  | .refused => .refused

/-- Reading an append is reading the first part and resuming on the second. -/
theorem Reader.scan_append (reader : Reader α) (text more : List α) (escaped : Bool)
    (value : List α) :
    reader.scan (text ++ more) escaped value =
      reader.resume more (reader.scan text escaped value) := by
  induction text generalizing escaped value with
  | nil => rfl
  | cons head tail inductionHypothesis =>
    rw [List.cons_append]
    cases escaped with
    | true =>
      rw [Reader.scan, Reader.scan]
      cases reader.unescape head with
      | none => rfl
      | some element =>
        simp only
        split
        · exact inductionHypothesis false _
        · rfl
    | false =>
      rw [Reader.scan, Reader.scan]
      split
      · rfl
      · split
        · exact inductionHypothesis true value
        · split
          · exact inductionHypothesis false _
          · rfl

/-- A closed value extends what had been read before. -/
theorem Reader.scan_closed_extends (reader : Reader α) {text value result : List α} {escaped : Bool}
    (closed : reader.scan text escaped value = .closed result) : value <+: result := by
  induction text generalizing escaped value with
  | nil => cases closed
  | cons head tail inductionHypothesis =>
    have longer (element : α)
        (read : reader.scan tail false (value ++ [element]) = .closed result) :
        value <+: result :=
      (List.prefix_append value [element]).trans (inductionHypothesis read)
    cases escaped with
    | true =>
      rw [Reader.scan] at closed
      cases known : reader.unescape head with
      | none => simp [known] at closed
      | some element =>
        simp only [known] at closed
        split at closed
        · exact longer element closed
        · cases closed
    | false =>
      rw [Reader.scan] at closed
      split at closed
      · rw [Scan.closed.inj closed]
      · split at closed
        · exact inductionHypothesis closed
        · split at closed
          · exact longer head closed
          · cases closed

/-- A reader without a bound that knows every letter refuses nothing. -/
theorem Reader.scan_ne_refused (reader : Reader α) (unbounded : reader.limit = none)
    (total : ∀ letter, (reader.unescape letter).isSome) (text : List α) (escaped : Bool)
    (value : List α) : reader.scan text escaped value ≠ .refused := by
  have fits (longer : List α) : reader.fits longer = true := by
    rw [Reader.fits, unbounded]
    rfl
  induction text generalizing escaped value with
  | nil => simp [Reader.scan]
  | cons head tail inductionHypothesis =>
    cases escaped with
    | true =>
      obtain ⟨element, known⟩ := Option.isSome_iff_exists.mp (total head)
      rw [reader.scan_letter tail value known (fits _)]
      exact inductionHypothesis false _
    | false =>
      rw [Reader.scan]
      split
      · simp
      · split
        · exact inductionHypothesis true value
        · rw [if_pos (fits _)]
          exact inductionHypothesis false _

/-- One reader is at least as permissive as another when it shares the quote and the escape
character, agrees on every letter the other knows, and bounds nothing the other admits. -/
structure Reader.Extends (reader other : Reader α) : Prop where
  sameQuote : reader.quote = other.quote
  sameEscape : reader.escape = other.escape
  letters : ∀ letter element, other.unescape letter = some element →
    reader.unescape letter = some element
  bound : ∀ value, other.fits value = true → reader.fits value = true

/-- What a reader closes, every more permissive reader closes with the same value. -/
theorem Reader.Extends.scan_closed {reader other : Reader α} (permissive : reader.Extends other)
    (text : List α) (escaped : Bool) (value result : List α)
    (closed : other.scan text escaped value = .closed result) :
    reader.scan text escaped value = .closed result := by
  induction text generalizing escaped value with
  | nil => cases closed
  | cons head tail inductionHypothesis =>
    cases escaped with
    | true =>
      rw [Reader.scan] at closed
      cases known : other.unescape head with
      | none => simp [known] at closed
      | some element =>
        simp only [known] at closed
        split at closed
        · rename_i fits
          rw [reader.scan_letter tail value (permissive.letters head element known)
            (permissive.bound _ fits)]
          exact inductionHypothesis false _ closed
        · cases closed
    | false =>
      rw [Reader.scan, permissive.sameQuote, permissive.sameEscape]
      rw [Reader.scan] at closed
      split at closed
      · rename_i same
        rw [if_pos same, closed]
      · rename_i notQuote
        rw [if_neg notQuote]
        split at closed
        · rename_i same
          rw [if_pos same]
          exact inductionHypothesis true value closed
        · rename_i notEscape
          rw [if_neg notEscape]
          split at closed
          · rename_i fits
            rw [if_pos (permissive.bound _ fits)]
            exact inductionHypothesis false _ closed
          · cases closed

theorem Reader.Extends.read {reader other : Reader α} (permissive : reader.Extends other)
    {text result : List α} (closed : other.read text = some result) :
    reader.read text = some result := by
  rw [Reader.read] at closed ⊢
  split at closed
  · rename_i value scanned
    rw [permissive.scan_closed text false [] value scanned]
    exact closed
  · cases closed

/-! ### Reading back what was written -/

/-- A reader takes back an element when its written form is plain, or an escape it knows. -/
inductive Reader.TakesBack (reader : Reader α) (writer : Writer α) (element : α) : Prop where
  | plain (unescaped : writer.letter element = none) (notQuote : element ≠ reader.quote)
      (notEscape : element ≠ reader.escape)
  | escaped {letter : α} (written : writer.letter element = some letter)
      (known : reader.unescape letter = some element)

omit [DecidableEq α] in
theorem Reader.Extends.takesBack {reader other : Reader α} (permissive : reader.Extends other)
    {writer : Writer α} {element : α} (back : other.TakesBack writer element) :
    reader.TakesBack writer element := by
  cases back with
  | plain unescaped notQuote notEscape =>
    exact .plain unescaped (permissive.sameQuote ▸ notQuote) (permissive.sameEscape ▸ notEscape)
  | escaped written known => exact .escaped written (permissive.letters _ element known)

/-- Reading a written value up to its closing quote gives the value back. -/
theorem Reader.scan_write {reader : Reader α} {writer : Writer α}
    (sameEscape : writer.escape = reader.escape) (notQuote : reader.escape ≠ reader.quote)
    (written value rest : List α)
    (takesBack : ∀ element ∈ written, reader.TakesBack writer element)
    (bounded : ∀ bound ∈ reader.limit, (value ++ written).length ≤ bound) :
    reader.scan (writer.write written ++ rest) false value =
      reader.scan rest false (value ++ written) := by
  induction written generalizing value with
  | nil => rw [Writer.write_nil, List.nil_append, List.append_nil]
  | cons head tail inductionHypothesis =>
    have fits : reader.fits (value ++ [head]) = true := by
      rw [Reader.fits, Option.all_eq_true]
      intro bound limited
      have longer := bounded bound limited
      simp only [List.length_append, List.length_cons, List.length_nil] at longer ⊢
      exact decide_eq_true (by omega)
    have whole : value ++ head :: tail = (value ++ [head]) ++ tail := by simp
    have continued := inductionHypothesis (value ++ [head])
      (fun element member => takesBack element (List.mem_cons_of_mem _ member))
      (by rwa [← whole])
    rw [Writer.write_cons, List.append_assoc, whole, ← continued]
    cases takesBack head List.mem_cons_self with
    | plain unescaped notQuoteHead notEscape =>
      rw [Writer.writeElement_plain unescaped]
      exact reader.scan_plain _ value notQuoteHead notEscape fits
    | escaped letter known =>
      rw [Writer.writeElement_escaped letter, sameEscape]
      simp only [List.cons_append, List.nil_append]
      rw [reader.scan_escape _ value notQuote]
      exact reader.scan_letter _ value known fits

/-- The round trip of a written value that is closed by the quote. -/
theorem Reader.read_write {reader : Reader α} {writer : Writer α}
    (sameEscape : writer.escape = reader.escape) (notQuote : reader.escape ≠ reader.quote)
    (written rest : List α) (takesBack : ∀ element ∈ written, reader.TakesBack writer element)
    (bounded : ∀ bound ∈ reader.limit, written.length ≤ bound) :
    reader.read (writer.write written ++ reader.quote :: rest) = some written := by
  rw [Reader.read, Reader.scan_write sameEscape notQuote written [] _ takesBack bounded,
    Reader.scan_quote, List.nil_append]

end Quoted

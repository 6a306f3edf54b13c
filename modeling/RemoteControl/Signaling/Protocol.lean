/-
This file models the lines of the signaling protocol: the helpers of
`SignalingProtocol`, the login line `SignalingClient::Run` sends, and the
server's `EscapeJson`. Each line is then shown to be the line of a flat record,
so that every later statement about a field is a statement about members.
-/

import RemoteControl.Library.Decimal
import RemoteControl.Signaling.Record

namespace RemoteControl

open ListSearch Quoted

/-! ### SignalingProtocol -/

namespace SignalingProtocol

/-- `SignalingProtocol::StringField`. -/
def stringField (json name : ByteString) : ByteString :=
  RemoteControl.stringField clientReader json name

/-- `SignalingProtocol::IntField`; the client's `long` has 32 bits. -/
def intField (json name : ByteString) (fallback : Int32) : Int32 :=
  match findValue json name with
  | none => fallback
  | some position =>
    match Decimal.strtol 32 (json.drop position) with
    | none => fallback
    | some value => Int32.ofInt value

/-- The letters `SignalingProtocol::Escape` puts behind a backslash. -/
def escapeLetter (byte : Byte) : Option Byte :=
  if byte = backslash then some backslash
  else if byte = quote then some quote
  else if byte = newline then some letterN
  else if byte = carriageReturn then some letterR
  else none

theorem escapeLetter_eq_quote {byte : Byte} (written : escapeLetter byte = some quote) :
    byte = quote := by
  rw [escapeLetter] at written
  split at written
  · cases written
  split at written
  · assumption
  split at written
  · cases written
  split at written <;> cases written

theorem escapeLetter_letter {byte : Byte} (plain : isLetter byte = true) :
    escapeLetter byte = none := by
  have other (symbol : Byte) (notLetter : isLetter symbol = false) : byte ≠ symbol := fun same => by
    rw [same, notLetter] at plain
    cases plain
  rw [escapeLetter, if_neg (other backslash rfl), if_neg (other quote rfl),
    if_neg (other newline rfl), if_neg (other carriageReturn rfl)]

def escapeWriter : LineWriter where
  escape := backslash
  letter := escapeLetter
  shields := ⟨rfl, by decide, fun _ written => escapeLetter_eq_quote written⟩
  escapeBackslash := rfl
  plainLetters _ plain := escapeLetter_letter plain

/-- `SignalingProtocol::Escape`. -/
def escape (value : ByteString) : ByteString := escapeWriter.write value

/-- `SignalingProtocol::Offer`. -/
def offer (toUser sdp : ByteString) : ByteString :=
  bytes "\x7b\"type\":\"offer\",\"toUserId\":\"" ++ escape toUser ++ bytes "\",\"sdp\":\"" ++
    escape sdp ++ bytes "\"\x7d"

/-- `SignalingProtocol::Answer`. -/
def answer (toUser sdp : ByteString) : ByteString :=
  bytes "\x7b\"type\":\"answer\",\"toUserId\":\"" ++ escape toUser ++ bytes "\",\"sdp\":\"" ++
    escape sdp ++ bytes "\"\x7d"

/-- `SignalingProtocol::Candidate`. -/
def candidate (toUser mid : ByteString) (mlineIndex : Int32) (candidate : ByteString) :
    ByteString :=
  bytes "\x7b\"type\":\"ice-candidate\",\"toUserId\":\"" ++ escape toUser ++
    bytes "\",\"mid\":\"" ++ escape mid ++ bytes "\",\"mlineIndex\":" ++
    Decimal.print mlineIndex.toInt ++ bytes ",\"candidate\":\"" ++ escape candidate ++
    bytes "\"\x7d"

/-- `SignalingProtocol::Hangup`. -/
def hangup (toUser : ByteString) : ByteString :=
  bytes "\x7b\"type\":\"hangup\",\"toUserId\":\"" ++ escape toUser ++ bytes "\"\x7d"

end SignalingProtocol

/-! ### SignalingClient -/

namespace SignalingClient

/-- `SignalingClient::EscapeJson` puts a backslash before backslashes and quotes only. -/
def escapeLetter (byte : Byte) : Option Byte :=
  if byte = backslash ∨ byte = quote then some byte else none

theorem escapeLetter_eq_quote {byte : Byte} (written : escapeLetter byte = some quote) :
    byte = quote := by
  rw [escapeLetter] at written
  split at written
  · exact Option.some_inj.mp written
  · cases written

theorem escapeLetter_letter {byte : Byte} (plain : isLetter byte = true) :
    escapeLetter byte = none := by
  refine if_neg ?_
  rintro (rfl | rfl) <;> cases plain

def escapeWriter : LineWriter where
  escape := backslash
  letter := escapeLetter
  shields := ⟨rfl, by decide, fun _ written => escapeLetter_eq_quote written⟩
  escapeBackslash := rfl
  plainLetters _ plain := escapeLetter_letter plain

/-- `SignalingClient::EscapeJson`. -/
def escapeJson (value : ByteString) : ByteString := escapeWriter.write value

/-- The login line `SignalingClient::Run` sends for the UTF-8 form of the user id. -/
def loginLine (userId : ByteString) : ByteString :=
  bytes "\x7b\"type\":\"login\",\"userId\":\"" ++ escapeJson userId ++ bytes "\"\x7d"

end SignalingClient

/-! ### The server's helpers -/

namespace SignalingServer

/-- The server's `StringField`. -/
def stringField (json name : ByteString) : ByteString :=
  RemoteControl.stringField serverReader json name

/-- The server's `EscapeJson`: five escapes, and the other control bytes are dropped. -/
def escapeJson (value : ByteString) : ByteString :=
  value.flatMap fun byte =>
    if byte = backslash then [backslash, backslash]
    else if byte = quote then [backslash, quote]
    else if byte = newline then [backslash, letterN]
    else if byte = carriageReturn then [backslash, letterR]
    else if byte = tab then [backslash, letterT]
    else if 0x20 ≤ byte then [byte]
    else []

end SignalingServer

/-! ### The lines as records -/

theorem plain_type : PlainName (bytes "type") := by decide +kernel
theorem plain_toUserId : PlainName (bytes "toUserId") := by decide +kernel
theorem plain_fromUserId : PlainName (bytes "fromUserId") := by decide +kernel
theorem plain_userId : PlainName (bytes "userId") := by decide +kernel
theorem plain_sdp : PlainName (bytes "sdp") := by decide +kernel
theorem plain_mid : PlainName (bytes "mid") := by decide +kernel
theorem plain_mlineIndex : PlainName (bytes "mlineIndex") := by decide +kernel
theorem plain_candidate : PlainName (bytes "candidate") := by decide +kernel

/-- A member with a string value. -/
def stringMember (name value : ByteString) (plain : PlainName name) : Member where
  name := name
  value := .string value
  plain := plain
  wellFormed := trivial

theorem print_ne_nil (number : Int) : Decimal.print number ≠ [] := by
  intro empty
  rw [Decimal.print, List.append_eq_nil_iff] at empty
  exact Decimal.digitsOf_ne_nil _ empty.2

/-- The bytes of a printed number are digits and a minus sign. -/
theorem mem_print {number : Int} {byte : Byte} (member : byte ∈ Decimal.print number) :
    byte = Decimal.minus ∨ Decimal.isDigit byte = true := by
  rw [Decimal.print, List.mem_append] at member
  rcases member with sign | digit
  · split at sign
    · exact Or.inl (List.mem_singleton.mp sign)
    · cases sign
  · exact Or.inr (Decimal.isDigit_of_mem_digitsOf digit)

theorem notMem_print {number : Int} {byte : Byte} (other : byte ≠ Decimal.minus)
    (noDigit : Decimal.isDigit byte = false) : byte ∉ Decimal.print number := by
  intro member
  rcases mem_print member with same | digit
  · exact other same
  · rw [noDigit] at digit
    cases digit

/-- A member with a number. -/
def numberMember (name : ByteString) (number : Int) (plain : PlainName name) : Member where
  name := name
  value := .raw (Decimal.print number)
  plain := plain
  wellFormed := by
    refine ⟨notMem_print (by decide) rfl, ?_⟩
    have digits (blank : Byte) (member : blank ∈ blanks) :
        blank ≠ Decimal.minus ∧ Decimal.isDigit blank = false := by
      simp only [blanks, List.mem_cons, List.not_mem_nil, or_false] at member
      rcases member with rfl | rfl | rfl | rfl <;> decide
    cases text : Decimal.print number with
    | nil => exact absurd text (print_ne_nil number)
    | cons head tail =>
      refine ⟨head, rfl, fun blank => ?_⟩
      have written : head ∈ Decimal.print number := text ▸ List.mem_cons_self
      exact notMem_print (digits head blank).1 (digits head blank).2 written

/-- The types of the messages a call is made of. -/
def callTypes : List ByteString :=
  [bytes "offer", bytes "answer", bytes "ice-candidate", bytes "hangup"]

instance (type : ByteString) : Decidable (type ∈ callTypes) :=
  List.instDecidableMemOfLawfulBEq type callTypes

/-- The four messages a call is made of. -/
inductive CallMessage where
  | offer (sdp : ByteString)
  | answer (sdp : ByteString)
  | candidate (mid : ByteString) (mlineIndex : Int32) (candidate : ByteString)
  | hangup
  deriving DecidableEq

namespace CallMessage

/-- The line that carries the message to a user. -/
def line (toUser : ByteString) : CallMessage → ByteString
  | .offer sdp => SignalingProtocol.offer toUser sdp
  | .answer sdp => SignalingProtocol.answer toUser sdp
  | .candidate mid mlineIndex text => SignalingProtocol.candidate toUser mid mlineIndex text
  | .hangup => SignalingProtocol.hangup toUser

/-- The message's `type` field. -/
def type : CallMessage → ByteString
  | .offer _ => bytes "offer"
  | .answer _ => bytes "answer"
  | .candidate _ _ _ => bytes "ice-candidate"
  | .hangup => bytes "hangup"

theorem type_mem (message : CallMessage) : message.type ∈ callTypes := by
  cases message <;> simp [type, callTypes]

/-- The members behind the addressee. -/
def payload : CallMessage → List Member
  | .offer sdp => [stringMember (bytes "sdp") sdp plain_sdp]
  | .answer sdp => [stringMember (bytes "sdp") sdp plain_sdp]
  | .candidate mid mlineIndex text =>
    [stringMember (bytes "mid") mid plain_mid,
      numberMember (bytes "mlineIndex") mlineIndex.toInt plain_mlineIndex,
      stringMember (bytes "candidate") text plain_candidate]
  | .hangup => []

def typeMember (message : CallMessage) : Member :=
  stringMember (bytes "type") message.type plain_type

def toMember (toUser : ByteString) : Member := stringMember (bytes "toUserId") toUser plain_toUserId

theorem line_eq (toUser : ByteString) (message : CallMessage) :
    message.line toUser = recordLine SignalingProtocol.escapeWriter message.typeMember
      (toMember toUser :: message.payload) := by
  cases message <;>
  · simp only [line, SignalingProtocol.offer, SignalingProtocol.answer, SignalingProtocol.candidate,
      SignalingProtocol.hangup, SignalingProtocol.escape, recordLine, behind, payload, typeMember,
      toMember, stringMember, numberMember, Member.text, MemberValue.text, key, List.flatMap_cons,
      List.flatMap_nil, List.append_assoc, List.cons_append, List.nil_append]
    rfl

end CallMessage

end RemoteControl

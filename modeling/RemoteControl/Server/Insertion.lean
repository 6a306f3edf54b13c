/-
This file reads a line after `AddSender` has inserted the sender's id before its
last closing brace. The insertion shifts a first-occurrence search: a field name
found before the brace is found at the same place, but the colon and the value
behind it may be the inserted ones, and a name that is not there may be found in
the inserted id.
-/

import RemoteControl.Signaling.RoundTrip
import RemoteControl.Server.Decision

namespace RemoteControl.SignalingServer

open ListSearch Quoted

/-! ### The insertion -/

/-- What a line holds before its last closing brace. -/
def beforeBrace (json : ByteString) : ByteString :=
  match lastIndexOf closeBrace json with
  | none => json
  | some position => json.take position

/-- What a line holds behind its last closing brace. -/
def behindBrace (json : ByteString) : ByteString :=
  match lastIndexOf closeBrace json with
  | none => []
  | some position => json.drop (position + 1)

/-- A line with a closing brace splits at the last one, where the sender is inserted. -/
theorem addSender_split {json sender : ByteString} (braced : addSender json sender ≠ []) :
    json = beforeBrace json ++ closeBrace :: behindBrace json ∧
      addSender json sender =
        beforeBrace json ++ (senderMember sender ++ closeBrace :: behindBrace json) := by
  rw [addSender] at braced ⊢
  rw [beforeBrace, behindBrace]
  cases found : lastIndexOf closeBrace json with
  | none =>
    rw [found] at braced
    exact absurd rfl braced
  | some position =>
    obtain ⟨before, after, whole, length, -⟩ := lastIndexOf_eq_some found
    simp only
    have front : json.take position = before := by rw [whole, ← length, List.take_left]
    have back : json.drop (position + 1) = after := by
      rw [whole, ← length, List.drop_length_add_append]
      rfl
    have here : json.drop position = closeBrace :: after := by
      rw [whole, ← length, List.drop_left]
    rw [front, back, insertAt, front, here, List.append_assoc]
    exact ⟨whole, rfl⟩

/-- A registrable id is its own escaped form. -/
theorem escapeJson_of_registrable {userId : ByteString} (registrable : Registrable userId) :
    escapeJson userId = userId := by
  have harmless := registrable.2.2
  clear registrable
  induction userId with
  | nil => rfl
  | cons head tail inductionHypothesis =>
    obtain ⟨visible, notQuote, notBackslash⟩ := harmless head List.mem_cons_self
    have other (control : Byte) (low : ¬ 0x20 ≤ control) : head ≠ control := fun same =>
      low (same ▸ visible)
    rw [escapeJson, List.flatMap_cons, ← escapeJson, if_neg notBackslash, if_neg notQuote,
      if_neg (other newline (by decide)), if_neg (other carriageReturn (by decide)),
      if_neg (other tab (by decide)), if_pos visible,
      inductionHypothesis fun byte member => harmless byte (List.mem_cons_of_mem _ member)]
    rfl

/-- The inserted text, and what follows it. -/
theorem senderMember_append {sender : ByteString} (registrable : Registrable sender)
    (rest : ByteString) :
    senderMember sender ++ rest =
      comma :: quote :: (bytes "fromUserId" ++ quote ::
        (colon :: quote :: (sender ++ quote :: rest))) := by
  rw [senderMember, escapeJson_of_registrable registrable]
  have opening : bytes ",\"fromUserId\":\"" =
      comma :: quote :: (bytes "fromUserId" ++ [quote, colon, quote]) := by decide
  have closing : bytes "\"" = [quote] := by decide
  rw [opening, closing]
  simp only [List.cons_append, List.append_assoc, List.nil_append]

theorem Registrable.quote_notMem {userId : ByteString} (registrable : Registrable userId) :
    quote ∉ userId := fun member => (registrable.2.2 quote member).2.1 rfl

/-- The client writes a registrable id as it is, too. -/
theorem escape_of_registrable {userId : ByteString} (registrable : Registrable userId) :
    SignalingProtocol.escape userId = userId := by
  refine Writer.write_of_letter_none fun byte member => ?_
  obtain ⟨visible, notQuote, notBackslash⟩ := registrable.2.2 byte member
  have other (control : Byte) (low : ¬ 0x20 ≤ control) : byte ≠ control := fun same =>
    low (same ▸ visible)
  show SignalingProtocol.escapeLetter byte = none
  rw [SignalingProtocol.escapeLetter, if_neg notBackslash, if_neg notQuote,
    if_neg (other newline (by decide)), if_neg (other carriageReturn (by decide))]

/-- The client reads an inserted id back. -/
theorem clientReader_read_sender {sender : ByteString} (registrable : Registrable sender)
    (rest : ByteString) : clientReader.read (sender ++ quote :: rest) = some sender := by
  have back : clientReader.read (SignalingProtocol.escape sender ++ quote :: rest) = some sender :=
    Reader.read_write rfl (by decide) sender rest
      (fun byte _ => clientReader_takesBack_protocol byte) nofun
  rwa [escape_of_registrable registrable] at back

/-! ### Searching behind the insertion -/

/-- A value whose colon is the inserted one is the sender's id. -/
theorem valueText_sender {sender before : ByteString} (registrable : Registrable sender)
    (missing : colon ∉ before) (rest : ByteString) :
    valueText (before ++ (senderMember sender ++ rest)) =
      some (quote :: (sender ++ quote :: rest)) := by
  have name : colon ∉ bytes "fromUserId" := by decide
  have front : before ++ (senderMember sender ++ rest) =
      (before ++ comma :: quote :: (bytes "fromUserId" ++ [quote])) ++
        colon :: quote :: (sender ++ quote :: rest) := by
    rw [senderMember_append registrable]
    simp
  have noColon : colon ∉ before ++ comma :: quote :: (bytes "fromUserId" ++ [quote]) := by
    simpa using ⟨missing, by decide, by decide, name, by decide⟩
  rw [front, valueText_append _ noColon]
  exact valueText_colon _ (by decide)

/-- A value that begins before the insertion goes on into it. What follows the first part
begins with a byte that is neither blank nor a quote, so it begins no value of its own. -/
theorem stringText_append {head name rest : ByteString} {first : Byte} (more : ByteString)
    (found : afterFirst (key quote name) head = some rest) (separated : colon ∈ rest)
    (visible : first ∉ blanks) (notQuote : first ≠ quote) :
    stringText (head ++ first :: more) name =
      (stringText head name).map (· ++ first :: more) := by
  obtain ⟨before, value, rfl, missing⟩ := List.eq_append_cons_of_mem separated
  have behind (text : ByteString) :
      valueText (before ++ colon :: text) = skipOver blanks text := by
    rw [valueText, afterFirst_singleton text missing, Option.bind_some]
  rw [stringText, fieldText, afterFirst_append_of_some _ found, Option.bind_some,
    List.append_assoc, List.cons_append, behind, stringText, fieldText, found, Option.bind_some,
    behind, skipOver_append]
  cases skipOver blanks value with
  | none =>
    simp only
    rw [skipOver_cons_of_notMem visible]
    exact if_neg notQuote
  | some text =>
    simp only [Option.bind_some]
    cases text with
    | nil =>
      show openString (first :: more) = none
      exact if_neg notQuote
    | cons opening body =>
      rw [List.cons_append, openString, openString]
      split <;> rfl

end RemoteControl.SignalingServer

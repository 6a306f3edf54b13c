/-
This file proves that the lines the client builds survive both parsers. Two
writers and two readers meet here: `SignalingProtocol::Escape` and
`SignalingClient::EscapeJson` on one side, the server's `StringField` and the
client's own on the other. The server's reader takes back what each writer
wrote, and the client's reader takes back whatever the server's does.

The lookup by first textual occurrence is not misled on these lines. A value
that ends with a quoted field name hands the lookup on to the member behind it,
and on these lines that member is the one that was searched.
-/

import RemoteControl.Signaling.Protocol

namespace RemoteControl

open ListSearch Quoted

/-! ### The readers take back what the writers wrote -/

/-- The server knows every escape of the client's protocol lines. -/
theorem serverReader_takesBack_protocol (byte : Byte) :
    serverReader.TakesBack SignalingProtocol.escapeWriter.toWriter byte := by
  have letter :
      SignalingProtocol.escapeWriter.letter byte = SignalingProtocol.escapeLetter byte := rfl
  unfold SignalingProtocol.escapeLetter at letter
  by_cases isBackslash : byte = backslash
  · rw [if_pos isBackslash] at letter
    exact .escaped letter (by rw [isBackslash]; rfl)
  by_cases isQuote : byte = quote
  · rw [if_neg isBackslash, if_pos isQuote] at letter
    exact .escaped letter (by rw [isQuote]; rfl)
  by_cases isNewline : byte = newline
  · rw [if_neg isBackslash, if_neg isQuote, if_pos isNewline] at letter
    exact .escaped letter (by rw [isNewline]; rfl)
  by_cases isReturn : byte = carriageReturn
  · rw [if_neg isBackslash, if_neg isQuote, if_neg isNewline, if_pos isReturn] at letter
    exact .escaped letter (by rw [isReturn]; rfl)
  rw [if_neg isBackslash, if_neg isQuote, if_neg isNewline, if_neg isReturn] at letter
  exact .plain letter isQuote isBackslash

/-- The server knows the two escapes of the login line. -/
theorem serverReader_takesBack_login (byte : Byte) :
    serverReader.TakesBack SignalingClient.escapeWriter.toWriter byte := by
  have letter : SignalingClient.escapeWriter.letter byte = SignalingClient.escapeLetter byte := rfl
  unfold SignalingClient.escapeLetter at letter
  by_cases escaped : byte = backslash ∨ byte = quote
  · rw [if_pos escaped] at letter
    refine .escaped letter ?_
    rcases escaped with same | same <;> (rw [same]; rfl)
  · rw [if_neg escaped] at letter
    exact .plain letter (fun same => escaped (Or.inr same)) fun same => escaped (Or.inl same)

theorem clientReader_takesBack_protocol (byte : Byte) :
    clientReader.TakesBack SignalingProtocol.escapeWriter.toWriter byte :=
  clientReader_extends.takesBack (serverReader_takesBack_protocol byte)

/-! ### Lookups on the members of a line -/

theorem lookedUp_stringMember (name field value : ByteString) (plain : PlainName field)
    (rest : List Member) :
    lookedUp name (stringMember field value plain :: rest) =
      if field = name then some (.string value)
      else if EndsWithName quote name value then rest.head?.map Member.value
      else lookedUp name rest := by
  rw [lookedUp, lookedUpAt]
  by_cases same : field = name
  · rw [if_pos same, if_pos (show (stringMember field value plain).name = name from same)]
    rfl
  rw [if_neg same, if_neg (show (stringMember field value plain).name ≠ name from same)]
  show ((if EndsWithName quote name value then
      rest.head?.map fun next => (next.value, rest.tail)
    else lookedUpAt name rest).map Prod.fst) = _
  split
  · rw [Option.map_map]
    rfl
  · rfl

theorem lookedUp_numberMember (name field : ByteString) (number : Int) (plain : PlainName field)
    (rest : List Member) (other : field ≠ name) :
    lookedUp name (numberMember field number plain :: rest) = lookedUp name rest := by
  rw [lookedUp, lookedUpAt, if_neg (show (numberMember field number plain).name ≠ name from other)]
  rfl

theorem lookedUp_numberMember_self (name : ByteString) (number : Int) (plain : PlainName name)
    (rest : List Member) :
    lookedUp name (numberMember name number plain :: rest) =
      some (.raw (Decimal.print number)) := by
  rw [lookedUp, lookedUpAt, if_pos (show (numberMember name number plain).name = name from rfl)]
  rfl

/-- The first member answers for its own name. -/
theorem lookedUp_self (name value : ByteString) (plain : PlainName name) (rest : List Member) :
    lookedUp name (stringMember name value plain :: rest) = some (.string value) := by
  rw [lookedUp_stringMember, if_pos rfl]

/-- A member whose value does not end with the name is passed over. -/
theorem lookedUp_pass {name field value : ByteString} (plain : PlainName field)
    (rest : List Member) (other : field ≠ name) (harmless : ¬ EndsWithName quote name value) :
    lookedUp name (stringMember field value plain :: rest) = lookedUp name rest := by
  rw [lookedUp_stringMember, if_neg other, if_neg harmless]

/-- A value that ends with the name of the next member does no harm. -/
theorem lookedUp_next {name field value wanted : ByteString} (plain : PlainName field)
    (plainName : PlainName name) (rest : List Member) (other : field ≠ name) :
    lookedUp name (stringMember field value plain :: stringMember name wanted plainName :: rest) =
      some (.string wanted) := by
  rw [lookedUp_stringMember, if_neg other, lookedUp_self]
  split <;> rfl

/-! ### The fields of a call message -/

namespace CallMessage

/-- The words a call message can have as its type end with no field name. -/
theorem type_harmless (message : CallMessage) {name : ByteString}
    (names : name ∈ [bytes "toUserId", bytes "fromUserId", bytes "sdp", bytes "mid",
      bytes "mlineIndex", bytes "candidate"]) : ¬ EndsWithName quote name message.type := by
  have words : ∀ type ∈ callTypes, quote ∉ type ∧ type ∉ [bytes "toUserId", bytes "fromUserId",
      bytes "sdp", bytes "mid", bytes "mlineIndex", bytes "candidate"] := by decide
  obtain ⟨noQuote, notName⟩ := words message.type message.type_mem
  rw [endsWithName_of_notMem noQuote]
  rintro rfl
  exact notName names

theorem lookedUp_type (message : CallMessage) (rest : List Member) :
    lookedUp (bytes "type") (message.typeMember :: rest) = some (.string message.type) :=
  lookedUp_self _ _ _ rest

theorem lookedUp_toUserId (message : CallMessage) (toUser : ByteString) (rest : List Member) :
    lookedUp (bytes "toUserId") (message.typeMember :: toMember toUser :: rest) =
      some (.string toUser) :=
  lookedUp_next _ _ rest (by decide)

theorem length_type (message : CallMessage) : message.type.length ≤ 1024 := by
  have words : ∀ type ∈ callTypes, type.length ≤ 1024 := by decide
  exact words message.type message.type_mem

end CallMessage

/-- A string field of a client line, read by the client. -/
theorem SignalingProtocol.stringField_line {name value : ByteString} {first : Member}
    {rest : List Member} (plain : PlainName name)
    (found : lookedUp name (first :: rest) = some (.string value)) :
    SignalingProtocol.stringField (recordLine SignalingProtocol.escapeWriter first rest) name =
      value :=
  RemoteControl.stringField_line first rest plain found rfl rfl
    (fun byte _ => clientReader_takesBack_protocol byte) (fun _ limited => by cases limited)

/-- A string field of a client line, read by the server within its bound. -/
theorem SignalingServer.stringField_line {name value : ByteString} {first : Member}
    {rest : List Member} (plain : PlainName name)
    (found : lookedUp name (first :: rest) = some (.string value)) (short : value.length ≤ 1024) :
    SignalingServer.stringField (recordLine SignalingProtocol.escapeWriter first rest) name =
      value :=
  RemoteControl.stringField_line first rest plain found rfl rfl
    (fun byte _ => serverReader_takesBack_protocol byte)
    (fun bound limited => by
      obtain rfl := Option.some_inj.mp limited
      exact short)

/-! ### Newlines -/

theorem newline_notMem_escape (value : ByteString) : newline ∉ SignalingProtocol.escape value := by
  refine Writer.notMem_write fun byte _ => ?_
  have letter :
      SignalingProtocol.escapeWriter.letter byte = SignalingProtocol.escapeLetter byte := rfl
  unfold SignalingProtocol.escapeLetter at letter
  have shielded {written : Byte}
      (escaped : SignalingProtocol.escapeWriter.letter byte = some written)
      (other : newline ∉ [backslash, written]) :
      newline ∉ SignalingProtocol.escapeWriter.writeElement byte := by
    rw [Writer.writeElement_escaped escaped]
    exact other
  split at letter
  · exact shielded letter (by decide)
  split at letter
  · exact shielded letter (by decide)
  split at letter
  · exact shielded letter (by decide)
  rename_i isNewline
  split at letter
  · exact shielded letter (by decide)
  · rw [Writer.writeElement_plain letter]
    simpa using fun same => isNewline same.symm

theorem newline_notMem_escapeJson {value : ByteString} (oneLine : newline ∉ value) :
    newline ∉ SignalingClient.escapeJson value := by
  refine Writer.notMem_write fun byte member => ?_
  have other : newline ≠ byte := fun same => oneLine (same ▸ member)
  have letter : SignalingClient.escapeWriter.letter byte = SignalingClient.escapeLetter byte := rfl
  unfold SignalingClient.escapeLetter at letter
  split at letter
  · rw [Writer.writeElement_escaped letter]
    simpa using ⟨by decide, other⟩
  · rw [Writer.writeElement_plain letter]
    simpa using other

theorem CallMessage.newline_notMem_line (toUser : ByteString) (message : CallMessage) :
    newline ∉ message.line toUser := by
  have literal : newline ∉ bytes "\x7b\"type\":\"offer\",\"toUserId\":\"" ∧
      newline ∉ bytes "\x7b\"type\":\"answer\",\"toUserId\":\"" ∧
      newline ∉ bytes "\x7b\"type\":\"ice-candidate\",\"toUserId\":\"" ∧
      newline ∉ bytes "\x7b\"type\":\"hangup\",\"toUserId\":\"" ∧
      newline ∉ bytes "\",\"sdp\":\"" ∧ newline ∉ bytes "\",\"mid\":\"" ∧
      newline ∉ bytes "\",\"mlineIndex\":" ∧ newline ∉ bytes ",\"candidate\":\"" ∧
      newline ∉ bytes "\"\x7d" := by decide
  have escaped := newline_notMem_escape
  have number (value : Int) : newline ∉ Decimal.print value := notMem_print (by decide) rfl
  cases message <;>
  · simp only [CallMessage.line, SignalingProtocol.offer, SignalingProtocol.answer,
      SignalingProtocol.candidate, SignalingProtocol.hangup, List.mem_append, not_or]
    simp only [literal, escaped, number, not_false_eq_true, and_self]

/-! ### The round trips -/

/-- What both parsers recover from a line that addresses a user. The server bounds the strings
it reads, so it recovers the addressee only up to that bound. -/
structure RoundTrips (line type toUser : ByteString) : Prop where
  oneLine : newline ∉ line
  clientType : SignalingProtocol.stringField line (bytes "type") = type
  clientToUser : SignalingProtocol.stringField line (bytes "toUserId") = toUser
  serverType : SignalingServer.stringField line (bytes "type") = type
  serverToUser : toUser.length ≤ 1024 →
    SignalingServer.stringField line (bytes "toUserId") = toUser

theorem CallMessage.roundTrips (message : CallMessage) (toUser : ByteString) :
    RoundTrips (message.line toUser) message.type toUser where
  oneLine := message.newline_notMem_line toUser
  clientType := by
    rw [message.line_eq]
    exact SignalingProtocol.stringField_line plain_type (message.lookedUp_type _)
  clientToUser := by
    rw [message.line_eq]
    exact SignalingProtocol.stringField_line plain_toUserId (message.lookedUp_toUserId toUser _)
  serverType := by
    rw [message.line_eq]
    exact SignalingServer.stringField_line plain_type (message.lookedUp_type _) message.length_type
  serverToUser short := by
    rw [message.line_eq]
    exact SignalingServer.stringField_line plain_toUserId (message.lookedUp_toUserId toUser _) short

theorem lookedUp_sdp {message : CallMessage} {sdp : ByteString} (toUser : ByteString)
    (rest : List Member)
    (payload : message.payload = [stringMember (bytes "sdp") sdp plain_sdp]) :
    lookedUp (bytes "sdp") (message.typeMember :: CallMessage.toMember toUser ::
      (message.payload ++ rest)) = some (.string sdp) := by
  rw [CallMessage.typeMember,
    lookedUp_pass _ _ (by decide) (message.type_harmless (by simp)), payload]
  exact lookedUp_next _ _ _ (by decide)

theorem loginLine_eq (userId : ByteString) :
    SignalingClient.loginLine userId = recordLine SignalingClient.escapeWriter
      (stringMember (bytes "type") (bytes "login") plain_type)
      [stringMember (bytes "userId") userId plain_userId] := by
  simp only [SignalingClient.loginLine, SignalingClient.escapeJson, recordLine, behind,
    stringMember, Member.text, MemberValue.text, key, List.flatMap_cons, List.flatMap_nil,
    List.append_assoc, List.cons_append, List.nil_append]
  rfl

/-- A string field of the login line, read by the server within its bound. -/
theorem SignalingServer.stringField_loginLine {userId name value : ByteString}
    (plain : PlainName name)
    (found : lookedUp name [stringMember (bytes "type") (bytes "login") plain_type,
      stringMember (bytes "userId") userId plain_userId] = some (.string value))
    (short : value.length ≤ 1024) :
    SignalingServer.stringField (SignalingClient.loginLine userId) name = value := by
  rw [loginLine_eq]
  refine RemoteControl.stringField_line _ _ plain found rfl rfl
    (fun byte _ => serverReader_takesBack_login byte) fun bound limited => ?_
  obtain rfl := Option.some_inj.mp limited
  exact short

/-- Every line the client builds is one line from which both parsers recover the fields that
went in, whatever bytes the fields hold. -/
theorem client_lines_round_trip (toUser sdp : ByteString) :
    RoundTrips (SignalingProtocol.offer toUser sdp) (bytes "offer") toUser ∧
    RoundTrips (SignalingProtocol.answer toUser sdp) (bytes "answer") toUser ∧
    RoundTrips (SignalingProtocol.hangup toUser) (bytes "hangup") toUser ∧
    SignalingProtocol.stringField (SignalingProtocol.offer toUser sdp) (bytes "sdp") = sdp ∧
    SignalingProtocol.stringField (SignalingProtocol.answer toUser sdp) (bytes "sdp") = sdp ∧
    ∀ userId : ByteString, newline ∉ userId → userId.length ≤ 1024 →
      newline ∉ SignalingClient.loginLine userId ∧
      SignalingServer.stringField (SignalingClient.loginLine userId) (bytes "type") =
        bytes "login" ∧
      SignalingServer.stringField (SignalingClient.loginLine userId) (bytes "userId") = userId := by
  refine ⟨(CallMessage.offer sdp).roundTrips toUser, (CallMessage.answer sdp).roundTrips toUser,
    CallMessage.hangup.roundTrips toUser, ?_, ?_, fun userId oneLine short => ⟨?_, ?_, ?_⟩⟩
  · show SignalingProtocol.stringField ((CallMessage.offer sdp).line toUser) _ = sdp
    rw [CallMessage.line_eq]
    exact SignalingProtocol.stringField_line plain_sdp (lookedUp_sdp toUser [] rfl)
  · show SignalingProtocol.stringField ((CallMessage.answer sdp).line toUser) _ = sdp
    rw [CallMessage.line_eq]
    exact SignalingProtocol.stringField_line plain_sdp (lookedUp_sdp toUser [] rfl)
  · have literal : newline ∉ bytes "\x7b\"type\":\"login\",\"userId\":\"" ∧
        newline ∉ bytes "\"\x7d" := by
      decide
    simp only [SignalingClient.loginLine, List.mem_append, not_or]
    exact ⟨⟨literal.1, newline_notMem_escapeJson oneLine⟩, literal.2⟩
  · exact SignalingServer.stringField_loginLine plain_type (lookedUp_self _ _ _ _)
      (by decide)
  · exact SignalingServer.stringField_loginLine plain_userId
      (lookedUp_next _ _ _ (by decide)) short

theorem client_lines_round_trip_alice :
    SignalingServer.stringField (SignalingClient.loginLine (bytes "alice")) (bytes "userId") =
      bytes "alice" :=
  ((client_lines_round_trip [] []).2.2.2.2.2 (bytes "alice") (by decide)
    (by decide)).2.2

end RemoteControl

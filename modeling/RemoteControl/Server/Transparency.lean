/-
This file settles which call messages reach the other client unchanged.

The line a client builds for a message is a record, and `AddSender` appends one
more member to it. Both parsers look a field up among the members; what they find
is the field itself unless the addressee's id or the candidate's `mid` ends with
the name that is searched, because its closing quote then completes that name and
the lookup takes the value of the next member.
-/

import RemoteControl.Server.Insertion
import RemoteControl.Server.Registry
import RemoteControl.Server.Routing

namespace RemoteControl.SignalingServer

open ListSearch Quoted

/-! ### The routed line is a record -/

/-- The member `AddSender` appends. -/
def fromMember (senderId : ByteString) : Member :=
  stringMember (bytes "fromUserId") senderId plain_fromUserId

/-- `AddSender` appends a member to a record. -/
theorem addSender_recordLine {senderId : ByteString} (registrable : Registrable senderId)
    (first : Member) (rest : List Member) :
    addSender (recordLine SignalingProtocol.escapeWriter first rest) senderId =
      recordLine SignalingProtocol.escapeWriter first (rest ++ [fromMember senderId]) := by
  have member : senderMember senderId =
      comma :: (fromMember senderId).text SignalingProtocol.escapeWriter := by
    have written : SignalingProtocol.escapeWriter.write senderId = senderId :=
      escape_of_registrable registrable
    have inserted := senderMember_append registrable []
    rw [List.append_nil] at inserted
    rw [inserted, fromMember, stringMember, Member.text, MemberValue.text, written, key]
    simp only [List.cons_append, List.append_assoc, List.nil_append]
  obtain ⟨front, split⟩ : ∃ front : ByteString, ∀ more : ByteString,
      openBrace :: (first.text SignalingProtocol.escapeWriter ++
        (rest.flatMap (fun member => comma :: member.text SignalingProtocol.escapeWriter) ++
          more)) = front ++ more :=
    ⟨openBrace :: (first.text SignalingProtocol.escapeWriter ++
      rest.flatMap fun member => comma :: member.text SignalingProtocol.escapeWriter),
      fun more => by simp only [List.cons_append, List.append_assoc]⟩
  rw [recordLine, behind, split, addSender, lastIndexOf_append_cons front List.not_mem_nil,
    recordLine, behind, List.flatMap_append, List.append_assoc, split]
  simp only
  rw [insertAt_append, member, List.flatMap_cons, List.flatMap_nil, List.append_nil,
    List.append_assoc]

/-- The line the receiving client gets. -/
theorem routedLine_eq {senderId : ByteString} (registrable : Registrable senderId)
    (toUser : ByteString) (message : CallMessage) :
    addSender (message.line toUser) senderId =
      recordLine SignalingProtocol.escapeWriter message.typeMember
        (CallMessage.toMember toUser :: (message.payload ++ [fromMember senderId])) := by
  rw [message.line_eq, addSender_recordLine registrable, List.cons_append]

/-! ### Reading a field of a record -/

/-- The string a parser makes of the value a lookup found. -/
def stringOf : Option MemberValue → ByteString
  | some (.string value) => value
  | _ => []

/-- A string field of a record, read by the client. -/
theorem client_stringField_line {name : ByteString} (plain : PlainName name) (first : Member)
    (rest : List Member) :
    SignalingProtocol.stringField (recordLine SignalingProtocol.escapeWriter first rest) name =
      stringOf (lookedUp name (first :: rest)) := by
  cases found : lookedUp name (first :: rest) with
  | none => exact stringField_line_of_not_string first rest plain (by rw [found]; nofun)
  | some value =>
    cases value with
    | string value => exact SignalingProtocol.stringField_line plain found
    | raw text => exact stringField_line_of_not_string first rest plain (by rw [found]; nofun)

/-- A string field of a record, read by the server, which reads no long string. -/
theorem server_stringField_line {name : ByteString} (plain : PlainName name) (first : Member)
    (rest : List Member) (short : (stringOf (lookedUp name (first :: rest))).length ≤ 1024) :
    stringField (recordLine SignalingProtocol.escapeWriter first rest) name =
      stringOf (lookedUp name (first :: rest)) := by
  cases found : lookedUp name (first :: rest) with
  | none => exact stringField_line_of_not_string first rest plain (by rw [found]; nofun)
  | some value =>
    cases value with
    | string value =>
      rw [found] at short
      exact SignalingServer.stringField_line plain found short
    | raw text => exact stringField_line_of_not_string first rest plain (by rw [found]; nofun)

/-- `IntField` reads the text of the value. -/
theorem intField_eq (json name : ByteString) (fallback : Int32) :
    SignalingProtocol.intField json name fallback =
      (((fieldText json name).bind (Decimal.strtol 32)).map Int32.ofInt).getD fallback := by
  rw [SignalingProtocol.intField, ← findValue_map_drop]
  cases findValue json name with
  | none => rfl
  | some position =>
    rw [Option.map_some, Option.bind_some]
    dsimp only
    cases Decimal.strtol 32 (json.drop position) <;> rfl

/-- A member with a 32-bit number is read as that number. -/
theorem intField_line_number {name : ByteString} (plain : PlainName name) {first : Member}
    {rest : List Member} {number : Int32}
    (found : lookedUp name (first :: rest) = some (.raw (Decimal.print number.toInt)))
    (fallback : Int32) :
    SignalingProtocol.intField (recordLine SignalingProtocol.escapeWriter first rest) name
      fallback = number := by
  obtain ⟨⟨taken, remaining⟩, located, same⟩ := Option.map_eq_some_iff.mp found
  simp only at same
  have ends : ∀ head ∈ (behind SignalingProtocol.escapeWriter remaining).head?,
      Decimal.isDigit head = false := by
    intro head front
    cases remaining with
    | nil =>
      cases front
      rfl
    | cons member remaining =>
      rw [behind_cons, List.head?_cons] at front
      cases front
      rfl
  have low : -2 ^ (32 - 1) ≤ number.toInt := number.le_toInt
  have high : number.toInt ≤ 2 ^ (32 - 1) - 1 := Int.le_sub_one_of_lt number.toInt_lt
  rw [intField_eq, fieldText_line plain, located, Option.map_some, Option.bind_some, same]
  show ((Decimal.strtol 32 (Decimal.print number.toInt ++ _)).map Int32.ofInt).getD _ = _
  rw [Decimal.strtol_print low high ends, Option.map_some, Option.getD_some, Int32.ofInt_toInt]

/-- A member with a string is read as no number. -/
theorem intField_line_string {name value : ByteString} (plain : PlainName name) {first : Member}
    {rest : List Member} (found : lookedUp name (first :: rest) = some (.string value))
    (fallback : Int32) :
    SignalingProtocol.intField (recordLine SignalingProtocol.escapeWriter first rest) name
      fallback = fallback := by
  obtain ⟨⟨taken, remaining⟩, located, same⟩ := Option.map_eq_some_iff.mp found
  simp only at same
  rw [intField_eq, fieldText_line plain, located, Option.map_some, Option.bind_some, same]
  rfl

/-! ### What the lookups find on a call message -/

/-- The addressee's id hands a lookup on when it is the name that is searched. -/
theorem lookedUp_behind_toUser {toUser name : ByteString} (registrable : Registrable toUser)
    (message : CallMessage)
    (names : name ∈ [bytes "fromUserId", bytes "sdp", bytes "mid", bytes "mlineIndex",
      bytes "candidate"]) (rest : List Member) :
    lookedUp name (message.typeMember :: CallMessage.toMember toUser :: rest) =
      if toUser = name then rest.head?.map Member.value else lookedUp name rest := by
  have others : ∀ name ∈ [bytes "fromUserId", bytes "sdp", bytes "mid", bytes "mlineIndex",
      bytes "candidate"], bytes "type" ≠ name ∧ bytes "toUserId" ≠ name := by decide
  obtain ⟨notType, notToUser⟩ := others name names
  rw [CallMessage.typeMember, lookedUp_pass _ _ notType
    (message.type_harmless (List.mem_cons_of_mem _ names)), CallMessage.toMember,
    lookedUp_stringMember, if_neg notToUser]
  exact if_congr (endsWithName_of_notMem registrable.quote_notMem) rfl rfl

/-- The lookup of the sender passes over the number and the candidate's text. -/
theorem lookedUp_fromUserId_candidate (index : Int) (text senderId : ByteString) :
    lookedUp (bytes "fromUserId") [numberMember (bytes "mlineIndex") index plain_mlineIndex,
      stringMember (bytes "candidate") text plain_candidate, fromMember senderId] =
        some (.string senderId) := by
  rw [lookedUp_numberMember _ _ _ _ _ (by decide)]
  exact lookedUp_next _ _ _ (by decide)

section

variable {senderId toUser : ByteString} (sender : Registrable senderId)
  (target : Registrable toUser) (message : CallMessage)

/-- The type the client decodes from a routed call message is the message's. -/
theorem client_type_routed (sender : Registrable senderId) :
    SignalingProtocol.stringField (addSender (message.line toUser) senderId) (bytes "type") =
      message.type := by
  rw [routedLine_eq sender]
  exact SignalingProtocol.stringField_line plain_type (message.lookedUp_type _)

/-- What the client decodes of another string field. -/
theorem client_field_routed (sender : Registrable senderId) (target : Registrable toUser)
    {name : ByteString} (plain : PlainName name)
    (names : name ∈ [bytes "fromUserId", bytes "sdp", bytes "mid", bytes "mlineIndex",
      bytes "candidate"]) :
    SignalingProtocol.stringField (addSender (message.line toUser) senderId) name =
      stringOf (if toUser = name then
          (message.payload ++ [fromMember senderId]).head?.map Member.value
        else lookedUp name (message.payload ++ [fromMember senderId])) := by
  rw [routedLine_eq sender, client_stringField_line plain,
    lookedUp_behind_toUser target message names]

/-- What the server reads as the sender of an unrouted line. -/
theorem server_sender_line (target : Registrable toUser)
    (short : (stringOf (if toUser = bytes "fromUserId" then message.payload.head?.map Member.value
      else lookedUp (bytes "fromUserId") message.payload)).length ≤ 1024) :
    stringField (message.line toUser) (bytes "fromUserId") =
      stringOf (if toUser = bytes "fromUserId" then message.payload.head?.map Member.value
        else lookedUp (bytes "fromUserId") message.payload) := by
  have found := lookedUp_behind_toUser target message List.mem_cons_self message.payload
  rw [← found] at short ⊢
  rw [message.line_eq]
  exact server_stringField_line plain_fromUserId _ _ short

/-- A message with content cannot be sent to a user called `fromUserId`: its first value is read
as the sender, by the client and, when it is the sender's id, by the server. -/
theorem sender_ne_of_handed_on (sender : Registrable senderId) (target : Registrable toUser)
    {first : ByteString} (content : message.payload.head?.map Member.value = some (.string first))
    (handsOn : toUser = bytes "fromUserId")
    (noSender : stringField (message.line toUser) (bytes "fromUserId") = []) :
    SignalingProtocol.stringField (addSender (message.line toUser) senderId)
      (bytes "fromUserId") ≠ senderId := by
  have decoded := client_field_routed message sender target plain_fromUserId List.mem_cons_self
  have read := server_sender_line message target
  rw [if_pos handsOn, content] at read
  have front : (message.payload ++ [fromMember senderId]).head?.map Member.value =
      some (.string first) := by
    rw [← content]
    cases shape : message.payload with
    | nil =>
      rw [shape] at content
      cases content
    | cons member rest => rfl
  rw [if_pos handsOn, front] at decoded
  rw [decoded]
  rintro (rfl : first = senderId)
  have short : first.length ≤ 1024 := sender.2.1.trans (by decide)
  rw [read short] at noSender
  exact sender.1 noSender

end

/-! ### Which messages are transparent -/

/-- The receiving client decodes the content of a message from a line. -/
def ContentDecoded (line : ByteString) : CallMessage → Prop
  | .offer sdp | .answer sdp => SignalingProtocol.stringField line (bytes "sdp") = sdp
  | .candidate mid mlineIndex text =>
    SignalingProtocol.stringField line (bytes "mid") = mid ∧
    SignalingProtocol.intField line (bytes "mlineIndex") 0 = mlineIndex ∧
    SignalingProtocol.stringField line (bytes "candidate") = text
  | .hangup => True

/-- The receiving client decodes the message and its sender from a line. -/
def DecodedFrom (senderId line : ByteString) (message : CallMessage) : Prop :=
  SignalingProtocol.stringField line (bytes "type") = message.type ∧
  SignalingProtocol.stringField line (bytes "fromUserId") = senderId ∧
  ContentDecoded line message

/-- No lookup on the message is handed on to a value that differs from the one that is meant. -/
def Undisturbed (toUser : ByteString) : CallMessage → Prop
  | .offer _ | .answer _ => toUser ≠ bytes "fromUserId"
  | .candidate mid mlineIndex text =>
    toUser ≠ bytes "fromUserId" ∧ ¬ EndsWithName quote (bytes "fromUserId") mid ∧
    (toUser = bytes "mlineIndex" → mlineIndex = 0) ∧
    (toUser = bytes "candidate" → mid = text) ∧
    (toUser ≠ bytes "candidate" → EndsWithName quote (bytes "candidate") mid → text = [])
  | .hangup => True

instance (toUser : ByteString) (message : CallMessage) :
    Decidable (Undisturbed toUser message) := by
  cases message <;> (unfold Undisturbed; infer_instance)

section

variable {senderId toUser : ByteString}

/-- A session description is transparent unless its addressee is called `fromUserId`. -/
theorem description_transparent_iff (sender : Registrable senderId)
    (target : Registrable toUser) {message : CallMessage} {sdp : ByteString}
    (payload : message.payload = [stringMember (bytes "sdp") sdp plain_sdp]) :
    (stringField (message.line toUser) (bytes "fromUserId") = [] ∧
      SignalingProtocol.stringField (addSender (message.line toUser) senderId)
        (bytes "fromUserId") = senderId ∧
      SignalingProtocol.stringField (addSender (message.line toUser) senderId)
        (bytes "sdp") = sdp) ↔ toUser ≠ bytes "fromUserId" := by
  constructor
  · rintro ⟨noSender, decoded, -⟩ handsOn
    have content : message.payload.head?.map Member.value = some (.string sdp) := by
      rw [payload]
      rfl
    exact sender_ne_of_handed_on message sender target content handsOn noSender decoded
  · intro other
    have unsent : lookedUp (bytes "fromUserId") message.payload = none := by
      rw [payload, lookedUp_stringMember, if_neg (by decide)]
      exact ite_self _
    refine ⟨?_, ?_, ?_⟩
    · rw [server_sender_line message target] <;> rw [if_neg other, unsent]
      · rfl
      · exact Nat.zero_le _
    · rw [client_field_routed message sender target plain_fromUserId List.mem_cons_self,
        if_neg other, payload, List.singleton_append, fromMember,
        lookedUp_next _ _ _ (by decide)]
      rfl
    · rw [client_field_routed message sender target plain_sdp (by simp), payload,
        List.singleton_append, lookedUp_self]
      exact congrArg stringOf (ite_self _)

/-- The sender of a candidate survives unless its addressee is called `fromUserId` or its `mid`
ends with that name. -/
theorem candidate_sender_iff (sender : Registrable senderId) (target : Registrable toUser)
    (mid : ByteString) (mlineIndex : Int32) (text : ByteString) :
    (stringField ((CallMessage.candidate mid mlineIndex text).line toUser)
        (bytes "fromUserId") = [] ∧
      SignalingProtocol.stringField (addSender
        ((CallMessage.candidate mid mlineIndex text).line toUser) senderId)
        (bytes "fromUserId") = senderId) ↔
      toUser ≠ bytes "fromUserId" ∧ ¬ EndsWithName quote (bytes "fromUserId") mid := by
  have decoded := client_field_routed (.candidate mid mlineIndex text) sender target
    plain_fromUserId List.mem_cons_self
  have notMid : bytes "mid" ≠ bytes "fromUserId" := by decide
  rw [CallMessage.payload, List.cons_append, lookedUp_stringMember, if_neg notMid] at decoded
  constructor
  · rintro ⟨noSender, same⟩
    have other : toUser ≠ bytes "fromUserId" := fun handsOn =>
      sender_ne_of_handed_on (.candidate mid mlineIndex text) sender target rfl handsOn noSender
        same
    refine ⟨other, fun ends => ?_⟩
    rw [same, if_neg other, if_pos ends] at decoded
    exact sender.1 decoded
  · rintro ⟨other, harmless⟩
    have unsent : lookedUp (bytes "fromUserId")
        (CallMessage.candidate mid mlineIndex text).payload = none := by
      rw [CallMessage.payload, lookedUp_pass _ _ notMid harmless,
        lookedUp_numberMember _ _ _ _ _ (by decide), lookedUp_stringMember,
        if_neg (by decide)]
      exact ite_self _
    refine ⟨?_, ?_⟩
    · rw [server_sender_line _ target] <;> rw [if_neg other, unsent]
      · rfl
      · exact Nat.zero_le _
    · rw [decoded, if_neg other, if_neg harmless]
      exact congrArg stringOf (lookedUp_fromUserId_candidate mlineIndex.toInt text senderId)

/-- The index of a candidate survives unless the addressee is called `mlineIndex`; it is then
read as the fallback. -/
theorem candidate_mlineIndex_iff (sender : Registrable senderId) (target : Registrable toUser)
    (mid : ByteString) (mlineIndex : Int32) (text : ByteString) :
    SignalingProtocol.intField (addSender
        ((CallMessage.candidate mid mlineIndex text).line toUser) senderId)
        (bytes "mlineIndex") 0 = mlineIndex ↔ (toUser = bytes "mlineIndex" → mlineIndex = 0) := by
  have found := lookedUp_behind_toUser target (.candidate mid mlineIndex text)
    (show bytes "mlineIndex" ∈ _ by simp)
    ((CallMessage.candidate mid mlineIndex text).payload ++ [fromMember senderId])
  rw [routedLine_eq sender]
  by_cases handsOn : toUser = bytes "mlineIndex"
  · rw [if_pos handsOn] at found
    rw [intField_line_string plain_mlineIndex found]
    exact ⟨fun zero _ => zero.symm, fun zero => (zero handsOn).symm⟩
  · have number : lookedUp (bytes "mlineIndex")
        ((CallMessage.candidate mid mlineIndex text).payload ++ [fromMember senderId]) =
        some (.raw (Decimal.print mlineIndex.toInt)) := by
      rw [CallMessage.payload, List.cons_append, lookedUp_stringMember,
        if_neg (by decide), List.cons_append, lookedUp_numberMember_self]
      exact ite_self _
    rw [if_neg handsOn, number] at found
    exact iff_of_true (intField_line_number plain_mlineIndex found 0) fun same =>
      absurd same handsOn

/-- The text of a candidate survives unless the addressee is called `candidate`; the `mid` is
then read in its place. A `mid` that ends with that name hides the text, too. -/
theorem candidate_text_iff (sender : Registrable senderId) (target : Registrable toUser)
    (mid : ByteString) (mlineIndex : Int32) (text : ByteString) :
    SignalingProtocol.stringField (addSender
        ((CallMessage.candidate mid mlineIndex text).line toUser) senderId)
        (bytes "candidate") = text ↔
      (toUser = bytes "candidate" → mid = text) ∧
        (toUser ≠ bytes "candidate" → EndsWithName quote (bytes "candidate") mid → text = []) := by
  have decoded := client_field_routed (.candidate mid mlineIndex text) sender target
    plain_candidate (by simp)
  have notMid : bytes "mid" ≠ bytes "candidate" := by decide
  rw [CallMessage.payload, List.cons_append, lookedUp_stringMember, if_neg notMid,
    List.cons_append, lookedUp_numberMember _ _ _ _ _ (by decide), List.cons_append,
    lookedUp_self] at decoded
  rw [decoded]
  by_cases handsOn : toUser = bytes "candidate"
  · rw [if_pos handsOn]
    exact ⟨fun same => ⟨fun _ => same, fun other => absurd handsOn other⟩,
      fun holds => holds.1 handsOn⟩
  · rw [if_neg handsOn]
    by_cases ends : EndsWithName quote (bytes "candidate") mid
    · rw [if_pos ends]
      exact ⟨fun same => ⟨fun handed => absurd handed handsOn, fun _ _ => same.symm⟩,
        fun holds => (holds.2 handsOn ends).symm⟩
    · rw [if_neg ends]
      exact iff_of_true rfl ⟨fun handed => absurd handed handsOn, fun _ also => absurd also ends⟩

/-- A call message passes the server's test of the sender and is decoded as it was built exactly
when no lookup on it is disturbed. -/
theorem transparent_iff (sender : Registrable senderId) (target : Registrable toUser)
    (message : CallMessage) :
    (stringField (message.line toUser) (bytes "fromUserId") = [] ∧
      DecodedFrom senderId (addSender (message.line toUser) senderId) message) ↔
      Undisturbed toUser message := by
  have type : SignalingProtocol.stringField (addSender (message.line toUser) senderId)
      (bytes "type") = message.type := client_type_routed message sender
  rw [DecodedFrom, and_iff_right type]
  cases message with
  | offer sdp => exact description_transparent_iff sender target rfl
  | answer sdp => exact description_transparent_iff sender target rfl
  | candidate mid mlineIndex text =>
    have mid_ : SignalingProtocol.stringField (addSender
        ((CallMessage.candidate mid mlineIndex text).line toUser) senderId) (bytes "mid") =
        mid := by
      rw [client_field_routed _ sender target plain_mid (by simp), CallMessage.payload,
        List.cons_append, lookedUp_self]
      exact congrArg stringOf (ite_self _)
    rw [ContentDecoded, and_iff_right mid_, ← and_assoc, candidate_sender_iff sender target,
      and_assoc,
      candidate_mlineIndex_iff sender target, candidate_text_iff sender target]
    rfl
  | hangup =>
    have unsent : (if toUser = bytes "fromUserId" then
        CallMessage.hangup.payload.head?.map Member.value
        else lookedUp (bytes "fromUserId") CallMessage.hangup.payload) = none := ite_self _
    have sent : (if toUser = bytes "fromUserId" then
        (CallMessage.hangup.payload ++ [fromMember senderId]).head?.map Member.value
        else lookedUp (bytes "fromUserId") (CallMessage.hangup.payload ++ [fromMember senderId])) =
          some (.string senderId) := by
      rw [CallMessage.payload, List.nil_append, fromMember, lookedUp_self]
      exact ite_self _
    refine iff_of_true ⟨?_, ?_, trivial⟩ trivial
    · rw [server_sender_line _ target] <;> rw [unsent]
      · rfl
      · exact Nat.zero_le _
    · rw [client_field_routed _ sender target plain_fromUserId List.mem_cons_self, sent]
      rfl

end

/-! ### From one client to another -/

/-- A line is accepted for a target: its queue gets the routed line, and nobody else's queue gets
anything. -/
def Server.AcceptsLine (server : Server) (sender target : Socket) (senderId json : ByteString) :
    Prop :=
  ∀ rehash place, (server.routeMessage rehash sender json).clients.lookup place =
    (server.clients.lookup place).map fun client =>
      if place = target then client.queueLine (.routed senderId json) else client

section

variable {server : Server} {sender target : Socket} {client receiver : Client} {json : ByteString}

/-- Given room, a call's line is accepted exactly when it is forwarded. -/
theorem Server.acceptsLine_iff (present : server.clients.lookup sender = some client)
    (loggedIn : client.userId ≠ []) (known : server.clients.lookup target = some receiver)
    (fits : receiver.accepts (.routed client.userId json) = true)
    (callType : stringField json (bytes "type") ∈ callTypes) :
    server.AcceptsLine sender target client.userId json ↔ server.Forwards client json target := by
  constructor
  · intro accepted
    have queued := accepted .keep target
    rw [known, Option.map_some, if_pos rfl, Client.queueLine_of_accepts fits] at queued
    by_cases forwarded : ∃ other, server.Forwards client json other
    · obtain ⟨other, forwards⟩ := forwarded
      by_cases here : target = other
      · rwa [here]
      rw [Server.routeMessage_of_forwards present forwards,
        Server.lookup_queueLine_of_ne here, known, Option.some_inj] at queued
      have history := congrArg Client.queued queued
      simp at history
    · obtain ⟨code, same⟩ := Server.lookup_routeMessage_of_not_forwards present loggedIn callType
        (not_exists.mp forwarded) .keep
      rw [same, Server.refuse, Server.lookup_queueLine, known, Option.map_some,
        ← apply_ite some, Option.some_inj, Client.queueLine] at queued
      have history := congrArg Client.queued queued
      split at history
      · split at history <;> simp at history
      · simp at history
  · intro forwards rehash place
    rw [Server.routeMessage_of_forwards present forwards, Server.lookup_queueLine]
    split
    · rfl
    · exact Option.map_id'.symm

end

section

variable {server : Server} {sender target : Socket} {client receiver : Client}
  (message : CallMessage)

/-- A call message is for the user its addressee's id names. -/
theorem Server.resolve_line (reachable : system.Reachable server)
    (known : server.clients.lookup target = some receiver) (addressable : receiver.userId ≠ []) :
    server.resolve (stringField (message.line receiver.userId) (bytes "toUserId")) =
      some target := by
  have consistent := consistent_of_reachable reachable
  have short : receiver.userId.length ≤ 1024 :=
    (consistent.registrable_userId known addressable).2.1.trans (by decide)
  rw [(message.roundTrips receiver.userId).serverToUser short]
  exact Server.resolve_eq_some.mpr ⟨consistent.lookup_users known addressable,
    Table.mem_iff_lookup.mpr ⟨_, known⟩⟩

/-- A call message is forwarded exactly when the server reads no sender in it and there is
room. -/
theorem Server.forwards_line_iff (reachable : system.Reachable server)
    (present : server.clients.lookup sender = some client) (loggedIn : client.userId ≠ [])
    (known : server.clients.lookup target = some receiver) (addressable : receiver.userId ≠ []) :
    server.Forwards client (message.line receiver.userId) target ↔
      stringField (message.line receiver.userId) (bytes "fromUserId") = [] ∧
        receiver.accepts (.routed client.userId (message.line receiver.userId)) = true := by
  have callType : stringField (message.line receiver.userId) (bytes "type") ∈ callTypes := by
    rw [(message.roundTrips receiver.userId).serverType]
    exact message.type_mem
  have braced : addSender (message.line receiver.userId) client.userId ≠ [] := by
    rw [routedLine_eq ((consistent_of_reachable reachable).registrable_userId present loggedIn)]
    exact List.cons_ne_nil _ _
  constructor
  · intro forwards
    have room := forwards.room
    rw [known] at room
    exact ⟨forwards.routable.noSender, room⟩
  · rintro ⟨noSender, fits⟩
    exact ⟨⟨loggedIn, callType, noSender, Server.resolve_line message reachable known addressable,
      braced⟩, by rw [known]; exact fits⟩

end

/-- Between any two users of any reachable server, and given room in the queue, a call message is
accepted and decoded as it was built, with its sender, exactly when no lookup on it is
disturbed. -/
theorem call_messages_transparent {server : Server} (reachable : system.Reachable server)
    {sender target : Socket} {client receiver : Client}
    (present : server.clients.lookup sender = some client) (loggedIn : client.userId ≠ [])
    (known : server.clients.lookup target = some receiver) (addressable : receiver.userId ≠ [])
    (message : CallMessage)
    (fits : receiver.accepts (.routed client.userId (message.line receiver.userId)) = true) :
    (server.AcceptsLine sender target client.userId (message.line receiver.userId) ∧
      DecodedFrom client.userId (addSender (message.line receiver.userId) client.userId)
        message) ↔ Undisturbed receiver.userId message := by
  have consistent := consistent_of_reachable reachable
  have callType : stringField (message.line receiver.userId) (bytes "type") ∈ callTypes := by
    rw [(message.roundTrips receiver.userId).serverType]
    exact message.type_mem
  rw [Server.acceptsLine_iff present loggedIn known fits callType,
    Server.forwards_line_iff message reachable present loggedIn known addressable,
    and_iff_left fits]
  exact transparent_iff (consistent.registrable_userId present loggedIn)
    (consistent.registrable_userId known addressable) message

theorem call_messages_transparent_logins :
    ∃ client ∈ (system.run {} (logins (bytes "alice") (bytes "bob"))).clients.lookup 1,
    ∃ receiver ∈ (system.run {} (logins (bytes "alice") (bytes "bob"))).clients.lookup 2,
      Server.AcceptsLine (system.run {} (logins (bytes "alice") (bytes "bob"))) 1 2 client.userId
        (CallMessage.line receiver.userId (.offer (bytes "v=0"))) := by
  have reachable : system.Reachable (system.run {} (logins (bytes "alice") (bytes "bob"))) :=
    reachable_run (by decide)
  obtain ⟨client, present, receiver, known, loggedIn, addressable, fits, plain⟩ :
      ∃ client ∈ (system.run {} (logins (bytes "alice") (bytes "bob"))).clients.lookup 1,
      ∃ receiver ∈ (system.run {} (logins (bytes "alice") (bytes "bob"))).clients.lookup 2,
        client.userId ≠ [] ∧ receiver.userId ≠ [] ∧
        receiver.accepts (.routed client.userId
          (CallMessage.line receiver.userId (.offer (bytes "v=0")))) = true ∧
        Undisturbed receiver.userId (.offer (bytes "v=0")) := by
    decide
  exact ⟨client, present, receiver, known, ((call_messages_transparent reachable present loggedIn
    known addressable _ fits).mpr plain).1⟩

/-- A user may be called `fromUserId`; an offer for him is taken for one with a forged sender. -/
theorem call_messages_transparent_fieldName :
    system.Allows {} (logins (bytes "alice") (bytes "fromUserId")) ∧
    ∃ client ∈ (system.run {} (logins (bytes "alice") (bytes "fromUserId"))).clients.lookup 1,
    ∃ receiver ∈ (system.run {} (logins (bytes "alice") (bytes "fromUserId"))).clients.lookup 2,
      client.userId = bytes "alice" ∧ receiver.userId = bytes "fromUserId" ∧
      receiver.accepts (.routed client.userId
        (SignalingProtocol.offer receiver.userId (bytes "v=0"))) = true ∧
      Server.decision (system.run {} (logins (bytes "alice") (bytes "fromUserId"))) client
        (SignalingProtocol.offer receiver.userId (bytes "v=0")) =
          .reply (.error .senderFieldForbidden) := by
  decide

end RemoteControl.SignalingServer

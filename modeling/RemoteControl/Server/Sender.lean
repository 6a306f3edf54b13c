/-
This file settles whether the client that receives a routed line can trust the
sender and the type it decodes from it.

The server checks `fromUserId` and `type` on the line it was given, with its own
parser; the client decodes them from the line with the inserted sender, with
another. The two theorems say exactly on which lines they agree. They disagree
about the sender when a string value of that name begins before the last brace
and the server's parser gives up on it, or it is still open where the sender is
inserted. They disagree about the type when its name has no colon before the last
brace, so that the inserted text supplies the value, or when the sender's id is
itself the name that is searched.
-/

import RemoteControl.Server.Insertion
import RemoteControl.Server.Queues
import RemoteControl.Server.Registry

namespace RemoteControl.SignalingServer

open ListSearch Quoted

/-! ### What the server has checked -/

/-- What `RouteMessage` knows of a line it forwards for a user. -/
structure Vetted (senderId json : ByteString) : Prop where
  registrable : Registrable senderId
  callType : stringField json (bytes "type") ∈ callTypes
  noSender : stringField json (bytes "fromUserId") = []
  braced : addSender json senderId ≠ []

theorem Server.Forwards.vetted {server : Server} (reachable : system.Reachable server)
    {sender target : Socket} {client : Client} {json : ByteString}
    (present : server.clients.lookup sender = some client)
    (forwards : server.Forwards client json target) : Vetted client.userId json :=
  have routable := forwards.routable
  ⟨(consistent_of_reachable reachable).registrable_userId present routable.loggedIn,
    routable.callType, routable.noSender, routable.braced⟩

/-- A routed line and its sender are related; other lines are not concerned. -/
def Outgoing.Carries (holds : ByteString → ByteString → Prop) : Outgoing → Prop
  | .routed senderId json => holds senderId json
  | _ => True

/-- A line that is forwarded in a step is related to its sender. -/
def Server.Submits (holds : ByteString → ByteString → Prop) (server : Server) : Action → Prop
  | .route sender json _ => ∀ client target, server.clients.lookup sender = some client →
      server.Forwards client json target → holds client.userId json
  | _ => True

instance (holds : ByteString → ByteString → Prop)
    [∀ senderId json, Decidable (holds senderId json)] (server : Server) :
    ∀ action, Decidable (server.Submits holds action)
  | .route sender json _ =>
    decidable_of_iff (∀ client ∈ server.clients.lookup sender,
        ∀ target ∈ server.resolve (stringField json (bytes "toUserId")),
          server.Forwards client json target → holds client.userId json)
      ⟨fun each client target present forwards =>
          each client present target forwards.routable.resolves forwards,
        fun submits client present target _ forwards => submits client target present forwards⟩
  | .accept _ | .receive _ _ | .write _ _ | .disconnect _ => isTrue trivial

/-- What checked lines have whenever every forwarded line met a condition, every queued line has. -/
theorem carries_of_restrict {meets holds : ByteString → ByteString → Prop}
    (vouched : ∀ {senderId json}, Vetted senderId json → meets senderId json → holds senderId json)
    {server : Server} (reachable : (system.restrict (Server.Submits meets)).Reachable server) :
    server.Each (Client.All (Outgoing.Carries holds)) := by
  induction reachable with
  | start initial =>
    cases initial
    intro socket client present
    cases present
  | @step state action earlier allowed inductionHypothesis =>
    refine (kept_all (Outgoing.Carries holds)).next (fun outgoing own => ?_) inductionHypothesis ?_
    · cases outgoing with
      | routed senderId json => cases own
      | _ => trivial
    · cases action with
      | route sender json rehash =>
        intro client target present forwards
        exact vouched (forwards.vetted earlier.of_restrict present)
          (allowed.2 client target present forwards)
      | _ => trivial

/-! ### The sender -/

/-- The client decodes an honest sender, or none, from the routed line: no string value of
`fromUserId` begins before the last brace of the line, or one is closed there and the client
reads nothing or the sender's id, or one is still open at the brace and the client reads, with
the inserted comma, the sender's id. -/
def SenderReadable (senderId json : ByteString) : Prop :=
  match stringText (beforeBrace json) (bytes "fromUserId") with
  | none => True
  | some text =>
    match clientReader.scan text false [] with
    | .closed value => value = [] ∨ value = senderId
    | .unclosed _ value => value ++ [comma] = senderId
    | .refused => True

instance (senderId json : ByteString) : Decidable (SenderReadable senderId json) := by
  unfold SenderReadable
  split
  · infer_instance
  · split <;> infer_instance

/-- A string that is open at the insertion is closed by the quote of the inserted name. -/
theorem clientReader_resume_sender (escaped : Bool) (value more : ByteString) :
    clientReader.resume (comma :: quote :: more) (.unclosed escaped value) =
      .closed (value ++ [comma]) := by
  have known : clientReader.unescape comma = some comma := rfl
  cases escaped with
  | true =>
    exact (clientReader.scan_letter (quote :: more) value known rfl).trans
      (clientReader.scan_quote more _)
  | false =>
    exact (clientReader.scan_plain (quote :: more) value (by decide) (by decide) rfl).trans
      (clientReader.scan_quote more _)

/-- A field whose name does not occur before the brace has no text there. -/
theorem stringText_of_afterFirst_none {json name : ByteString}
    (absent : afterFirst (key quote name) json = none) : stringText json name = none := by
  rw [stringText, fieldText, absent]
  rfl

/-- A field whose name no colon follows has no text. -/
theorem stringText_of_notMem_colon {json name rest : ByteString}
    (found : afterFirst (key quote name) json = some rest) (missing : colon ∉ rest) :
    stringText json name = none := by
  rw [stringText, fieldText, found, Option.bind_some, valueText,
    afterFirst_eq_none_of_notMem missing]
  rfl

/-- A field name that no colon follows before the brace gets the inserted id as its value. -/
theorem stringText_routed_of_notMem_colon {sender head name rest : ByteString}
    (registrable : Registrable sender) (found : afterFirst (key quote name) head = some rest)
    (missing : colon ∉ rest) (more : ByteString) :
    stringText (head ++ (senderMember sender ++ more)) name = some (sender ++ quote :: more) := by
  rw [stringText, fieldText, afterFirst_append_of_some _ found, Option.bind_some,
    valueText_sender registrable missing]
  rfl

/-- A name missing before the brace is searched from the inserted name on. -/
theorem afterFirst_routed {sender head name : ByteString} (registrable : Registrable sender)
    (plain : PlainName name) (absent : afterFirst (key quote name) head = none)
    (more : ByteString) :
    afterFirst (key quote name) (head ++ (senderMember sender ++ more)) =
      if bytes "fromUserId" = name then some (colon :: quote :: (sender ++ quote :: more))
      else if sender = name then some more
      else afterFirst (key quote name) (quote :: more) := by
  have noQuote : quote ∉ name := plain.notMem rfl
  have noComma : comma ∉ key quote name := notMem_key (by decide) (plain.notMem rfl)
  have notColon : [colon] ≠ name := fun same =>
    plain.notMem (show isLetter colon = false from rfl) (same ▸ List.mem_cons_self)
  have field : quote ∉ bytes "fromUserId" := by decide
  rw [senderMember_append registrable,
    afterFirst_append_cons_of_none (key_ne_nil _ _) noComma absent,
    afterFirst_key_piece _ noQuote field]
  refine if_congr Iff.rfl rfl ?_
  have pieces : quote :: colon :: quote :: (sender ++ quote :: more) =
      quote :: ([colon] ++ quote :: (sender ++ quote :: more)) := rfl
  rw [pieces, afterFirst_key_piece _ noQuote (by decide), if_neg notColon,
    afterFirst_key_piece _ noQuote registrable.quote_notMem]

/-- From the line forwarded for a user the client decodes that user, or no user. -/
def SenderAuthentic (senderId json : ByteString) : Prop :=
  SignalingProtocol.stringField (addSender json senderId) (bytes "fromUserId") = senderId ∨
    SignalingProtocol.stringField (addSender json senderId) (bytes "fromUserId") = []

instance (senderId json : ByteString) : Decidable (SenderAuthentic senderId json) := by
  unfold SenderAuthentic
  infer_instance

section

variable {senderId json name rest : ByteString} (vetted : Vetted senderId json)

include vetted

/-- A value whose name and colon lie before the brace is read from the same text, up to the
brace. -/
theorem Vetted.stringText_separated
    (found : afterFirst (key quote name) (beforeBrace json) = some rest)
    (separated : colon ∈ rest) :
    stringText (addSender json senderId) name =
      (stringText (beforeBrace json) name).map
        (· ++ (senderMember senderId ++ closeBrace :: behindBrace json)) := by
  rw [(addSender_split vetted.braced).2, senderMember_append vetted.registrable]
  exact stringText_append _ found separated (by decide) (by decide)

/-- A name before the brace whose colon lies behind it gets the inserted id. -/
theorem Vetted.stringText_inserted
    (found : afterFirst (key quote name) (beforeBrace json) = some rest) (missing : colon ∉ rest) :
    stringText (addSender json senderId) name =
      some (senderId ++ quote :: closeBrace :: behindBrace json) := by
  rw [(addSender_split vetted.braced).2]
  exact stringText_routed_of_notMem_colon vetted.registrable found missing _

/-- From the inserted id the client reads the id. -/
theorem Vetted.stringField_of_inserted
    (inserted : stringText (addSender json senderId) name =
      some (senderId ++ quote :: closeBrace :: behindBrace json)) :
    SignalingProtocol.stringField (addSender json senderId) name = senderId := by
  rw [SignalingProtocol.stringField, stringField_of_stringText inserted,
    clientReader_read_sender vetted.registrable, Option.getD_some]

/-- Without a sender before the brace the client reads the inserted one. -/
theorem Vetted.sender_of_absent
    (absent : afterFirst (key quote (bytes "fromUserId")) (beforeBrace json) = none) :
    SignalingProtocol.stringField (addSender json senderId) (bytes "fromUserId") = senderId := by
  have registrable := vetted.registrable
  refine vetted.stringField_of_inserted ?_
  rw [(addSender_split vetted.braced).2, stringText, fieldText,
    afterFirst_routed registrable plain_fromUserId absent, if_pos rfl, Option.bind_some,
    valueText_colon _ (by decide)]
  rfl

/-- On a line that is forwarded the sender is authentic exactly when it is readable. -/
theorem Vetted.sender_authentic_iff :
    SenderAuthentic senderId json ↔ SenderReadable senderId json := by
  rw [SenderAuthentic, SenderReadable]
  cases found : afterFirst (key quote (bytes "fromUserId")) (beforeBrace json) with
  | none =>
    rw [stringText_of_afterFirst_none found]
    exact iff_of_true (Or.inl (vetted.sender_of_absent found)) trivial
  | some rest =>
    by_cases separated : colon ∈ rest
    · have text := vetted.stringText_separated found separated
      cases begun : stringText (beforeBrace json) (bytes "fromUserId") with
      | none =>
        rw [begun] at text
        exact iff_of_true (Or.inr (stringField_of_none text)) trivial
      | some opened =>
        rw [begun, Option.map_some, senderMember_append vetted.registrable] at text
        rw [SignalingProtocol.stringField, stringField_of_stringText text, Reader.read,
          Reader.scan_append]
        dsimp only
        cases scanned : clientReader.scan opened false [] with
        | closed value =>
          show value = senderId ∨ value = [] ↔ value = [] ∨ value = senderId
          exact or_comm
        | unclosed escaped value =>
          rw [clientReader_resume_sender]
          show value ++ [comma] = senderId ∨ value ++ [comma] = [] ↔ value ++ [comma] = senderId
          exact or_iff_left (List.append_ne_nil_of_right_ne_nil _ (List.cons_ne_nil _ _))
        | refused => exact absurd scanned (clientReader_scan_ne_refused _ _ _)
    · rw [stringText_of_notMem_colon found separated]
      exact iff_of_true (Or.inl (vetted.stringField_of_inserted
        (vetted.stringText_inserted found separated))) trivial

end

/-- In every reachable server the sender of a forwarded line is authentic exactly when it is
readable; so at the end of a run whose forwarded lines are all readable, every routed line in
every queue is authentic. -/
theorem senders_authentic {server : Server} (reachable : system.Reachable server) :
    (∀ {sender client json target}, server.clients.lookup sender = some client →
      server.Forwards client json target →
        (SenderAuthentic client.userId json ↔ SenderReadable client.userId json)) ∧
    ((system.restrict (Server.Submits SenderReadable)).Reachable server →
      server.Each (Client.All (Outgoing.Carries SenderAuthentic))) :=
  ⟨fun present forwards => (forwards.vetted reachable present).sender_authentic_iff,
    fun restricted =>
      carries_of_restrict (fun vetted => vetted.sender_authentic_iff.mpr) restricted⟩

/-- A hangup whose `fromUserId` holds an escape that only the client knows. -/
def forgedHangup : ByteString :=
  bytes "\x7b\"type\":\"hangup\",\"toUserId\":\"bob\",\"fromUserId\":\"\\victim\"\x7d"

theorem senders_authentic_logins :
    (∃ client ∈ (system.run {} (logins (bytes "alice") (bytes "bob"))).clients.lookup 1,
      SenderAuthentic client.userId (SignalingProtocol.hangup (bytes "bob")) ∧
      ¬ SenderAuthentic client.userId forgedHangup) ∧
    (system.run {} (shortCall (bytes "alice") (bytes "bob"))).Each
      (Client.All (Outgoing.Carries SenderAuthentic)) := by
  have reachable : system.Reachable (system.run {} (logins (bytes "alice") (bytes "bob"))) :=
    reachable_run (by decide +kernel)
  have restricted : (system.restrict (Server.Submits SenderReadable)).Reachable
      (system.run {} (shortCall (bytes "alice") (bytes "bob"))) :=
    Transition.System.Reachable.run_restrict (.start rfl) (by decide +kernel)
  obtain ⟨client, present, plain, forged, readable, misread⟩ :
      ∃ client ∈ (system.run {} (logins (bytes "alice") (bytes "bob"))).clients.lookup 1,
        Server.Forwards (system.run {} (logins (bytes "alice") (bytes "bob"))) client
          (SignalingProtocol.hangup (bytes "bob")) 2 ∧
        Server.Forwards (system.run {} (logins (bytes "alice") (bytes "bob"))) client
          forgedHangup 2 ∧
        SenderReadable client.userId (SignalingProtocol.hangup (bytes "bob")) ∧
        ¬ SenderReadable client.userId forgedHangup := by
    decide +kernel
  exact ⟨⟨client, present, ((senders_authentic reachable).1 present plain).mpr readable,
      fun holds => misread (((senders_authentic reachable).1 present forged).mp holds)⟩,
    (senders_authentic restricted.of_restrict).2 restricted⟩

/-- The server forwards alice's line as one without a sender, and bob's client reads `victim`. -/
theorem senders_authentic_forgedHangup :
    system.Allows {} (logins (bytes "alice") (bytes "bob")) ∧ newline ∉ forgedHangup ∧
    ∃ client ∈ (system.run {} (logins (bytes "alice") (bytes "bob"))).clients.lookup 1,
      client.userId = bytes "alice" ∧
      Server.Forwards (system.run {} (logins (bytes "alice") (bytes "bob"))) client
        forgedHangup 2 ∧
      SignalingProtocol.stringField (addSender forgedHangup client.userId) (bytes "fromUserId") =
        bytes "victim" ∧
      ¬ SenderAuthentic client.userId forgedHangup := by
  decide +kernel

/-! ### The type -/

/-- The string the client reads behind the first colon of a text. -/
def firstString (text : ByteString) : ByteString :=
  (((valueText text).bind openString).bind clientReader.read).getD []

/-- The client decodes the checked type from the routed line: the name occurs before the last
brace and a colon follows it there, or the sender's id is the checked type; or the name does
not occur there and the sender's id is not the name, or the first string behind the brace
happens to be the checked type. -/
def TypeReadable (senderId json : ByteString) : Prop :=
  match afterFirst (key quote (bytes "type")) (beforeBrace json) with
  | some rest => colon ∈ rest ∨ senderId = stringField json (bytes "type")
  | none => senderId ≠ bytes "type" ∨
      firstString (behindBrace json) = stringField json (bytes "type")

instance (senderId json : ByteString) : Decidable (TypeReadable senderId json) := by
  unfold TypeReadable
  split <;> infer_instance

/-- The server reads no string across a brace that the string does not hold. -/
theorem serverReader_closed_before {text more value : ByteString}
    (read : serverReader.read (text ++ closeBrace :: more) = some value)
    (noBrace : closeBrace ∉ value) : serverReader.scan text false [] = .closed value := by
  rw [Reader.read, Reader.scan_append] at read
  cases scanned : serverReader.scan text false [] with
  | closed result =>
    rw [scanned] at read
    exact congrArg Scan.closed (Option.some_inj.mp read)
  | refused =>
    rw [scanned] at read
    cases read
  | unclosed escaped begun =>
    rw [scanned, Reader.resume] at read
    cases escaped with
    | true => cases read
    | false =>
      cases rest : serverReader.scan (closeBrace :: more) false begun with
      | unclosed escaped value => rw [rest] at read; cases read
      | refused => rw [rest] at read; cases read
      | closed result =>
        rw [rest] at read
        obtain rfl := Option.some_inj.mp read
        rw [Reader.scan, if_neg (by decide), if_neg (by decide)] at rest
        split at rest
        · have longer := Reader.scan_closed_extends _ rest
          exact absurd (longer.subset (by simp)) noBrace
        · cases rest

/-- A type of a call holds no brace and is not empty. -/
theorem callType_plain {type : ByteString} (callType : type ∈ callTypes) :
    closeBrace ∉ type ∧ type ≠ [] := by
  have words : ∀ type ∈ callTypes, closeBrace ∉ type ∧ type ≠ [] := by decide
  exact words type callType

/-- What the server reads behind a name, the client reads from the same text. -/
theorem clientReader_read_of_server {text value : ByteString}
    (read : serverReader.read text = some value) : clientReader.read text = some value :=
  clientReader_extends.read read

/-- From the line forwarded for a user the client decodes the type the server checked. -/
def TypeIntact (senderId json : ByteString) : Prop :=
  SignalingProtocol.stringField (addSender json senderId) (bytes "type") =
    stringField json (bytes "type")

instance (senderId json : ByteString) : Decidable (TypeIntact senderId json) := by
  unfold TypeIntact
  infer_instance

section

variable {senderId json rest : ByteString} (vetted : Vetted senderId json)

include vetted

/-- The text the server reads the checked type from. -/
theorem Vetted.type_text : ∃ text, stringText json (bytes "type") = some text ∧
    serverReader.read text = some (stringField json (bytes "type")) :=
  stringText_of_stringField_ne_nil (callType_plain vetted.callType).2

/-- A type whose name and colon lie before the brace is read from the same text before and
behind the insertion, and the server has found its end before the brace. -/
theorem Vetted.type_of_separated
    (found : afterFirst (key quote (bytes "type")) (beforeBrace json) = some rest)
    (separated : colon ∈ rest) : TypeIntact senderId json := by
  have noBrace := (callType_plain vetted.callType).1
  obtain ⟨text, begun, read⟩ := vetted.type_text
  obtain ⟨whole, -⟩ := addSender_split vetted.braced
  have before := stringText_append (behindBrace json) found separated
    (show closeBrace ∉ blanks by decide) (by decide)
  rw [← whole, begun] at before
  obtain ⟨opened, here, same⟩ := Option.map_eq_some_iff.mp before.symm
  rw [← same] at read
  have closed := clientReader_extends.scan_closed _ _ _ _ (serverReader_closed_before read noBrace)
  have after := vetted.stringText_separated found separated
  rw [here, Option.map_some] at after
  rw [TypeIntact, SignalingProtocol.stringField, stringField_of_stringText after, Reader.read,
    Reader.scan_append, closed]
  rfl

/-- Behind a brace that no type precedes, the search goes on behind the inserted id. -/
theorem Vetted.afterFirst_type
    (absent : afterFirst (key quote (bytes "type")) (beforeBrace json) = none) :
    afterFirst (key quote (bytes "type")) (addSender json senderId) =
      if senderId = bytes "type" then some (closeBrace :: behindBrace json)
      else afterFirst (key quote (bytes "type")) json := by
  have noBrace : closeBrace ∉ key quote (bytes "type") := by decide
  have single : afterFirst (key quote (bytes "type")) [quote] = none :=
    afterFirst_key_single List.not_mem_nil
  obtain ⟨whole, routed⟩ := addSender_split vetted.braced
  have behind : afterFirst (key quote (bytes "type")) json =
      afterFirst (key quote (bytes "type")) (behindBrace json) :=
    (congrArg (afterFirst _) whole).trans
      (afterFirst_append_cons_of_none (key_ne_nil _ _) noBrace absent)
  rw [routed, afterFirst_routed vetted.registrable plain_type absent, if_neg (by decide), behind]
  refine if_congr Iff.rfl rfl ?_
  show afterFirst _ ([quote] ++ closeBrace :: behindBrace json) = _
  exact afterFirst_append_cons_of_none (key_ne_nil _ _) noBrace single

/-- A sender named like the field gives it the first string behind the brace. -/
theorem Vetted.type_of_name
    (absent : afterFirst (key quote (bytes "type")) (beforeBrace json) = none)
    (isName : senderId = bytes "type") :
    SignalingProtocol.stringField (addSender json senderId) (bytes "type") =
      firstString (behindBrace json) := by
  rw [SignalingProtocol.stringField, stringField_eq, stringText, fieldText,
    vetted.afterFirst_type absent, if_pos isName, Option.bind_some]
  show (((valueText ([closeBrace] ++ behindBrace json)).bind openString).bind _).getD [] = _
  rw [valueText_append _ (by decide)]
  rfl

/-- Any other sender leaves a type behind the brace where it is. -/
theorem Vetted.type_of_absent
    (absent : afterFirst (key quote (bytes "type")) (beforeBrace json) = none)
    (notName : senderId ≠ bytes "type") : TypeIntact senderId json := by
  obtain ⟨text, begun, read⟩ := vetted.type_text
  have same : stringText (addSender json senderId) (bytes "type") = some text := by
    rw [stringText, fieldText, vetted.afterFirst_type absent, if_neg notName, ← fieldText,
      ← stringText, begun]
  rw [TypeIntact, SignalingProtocol.stringField, stringField_of_stringText same,
    clientReader_read_of_server read, Option.getD_some]

/-- On a line that is forwarded the type is intact exactly when it is readable. -/
theorem Vetted.type_intact_iff : TypeIntact senderId json ↔ TypeReadable senderId json := by
  rw [TypeReadable]
  cases found : afterFirst (key quote (bytes "type")) (beforeBrace json) with
  | some rest =>
    by_cases separated : colon ∈ rest
    · exact iff_of_true (vetted.type_of_separated found separated) (Or.inl separated)
    · rw [TypeIntact, vetted.stringField_of_inserted
        (vetted.stringText_inserted found separated)]
      exact (or_iff_right separated).symm
  | none =>
    by_cases isName : senderId = bytes "type"
    · rw [TypeIntact, vetted.type_of_name found isName]
      exact (or_iff_right (not_not.mpr isName)).symm
    · exact iff_of_true (vetted.type_of_absent found isName) (Or.inl isName)

end

/-- In every reachable server the type of a forwarded line is intact exactly when it is readable;
so at the end of a run whose forwarded lines are all readable, the type of every routed line in
every queue is that of a message of a call. -/
theorem types_intact {server : Server} (reachable : system.Reachable server) :
    (∀ {sender client json target}, server.clients.lookup sender = some client →
      server.Forwards client json target →
        (TypeIntact client.userId json ↔ TypeReadable client.userId json)) ∧
    ((system.restrict (Server.Submits TypeReadable)).Reachable server →
      server.Each (Client.All (Outgoing.Carries fun senderId json => TypeIntact senderId json ∧
        SignalingProtocol.stringField (addSender json senderId) (bytes "type") ∈ callTypes))) := by
  refine ⟨fun present forwards => (forwards.vetted reachable present).type_intact_iff,
    fun restricted => carries_of_restrict (fun vetted readable => ?_) restricted⟩
  have intact := vetted.type_intact_iff.mpr readable
  refine ⟨intact, ?_⟩
  rw [TypeIntact] at intact
  rw [intact]
  exact vetted.callType

/-- An offer whose `type` has its value behind the last brace. -/
def forgedOffer : ByteString := bytes "\x7b\"toUserId\":\"bob\",\"type\"\x7d:\"offer\""

theorem types_intact_logins :
    (∃ client ∈ (system.run {} (logins (bytes "alice") (bytes "bob"))).clients.lookup 1,
      TypeIntact client.userId (SignalingProtocol.hangup (bytes "bob")) ∧
      ¬ TypeIntact client.userId forgedOffer) ∧
    (system.run {} (shortCall (bytes "alice") (bytes "bob"))).Each
      (Client.All (Outgoing.Carries fun senderId json => TypeIntact senderId json ∧
        SignalingProtocol.stringField (addSender json senderId) (bytes "type") ∈ callTypes)) := by
  have reachable : system.Reachable (system.run {} (logins (bytes "alice") (bytes "bob"))) :=
    reachable_run (by decide +kernel)
  have restricted : (system.restrict (Server.Submits TypeReadable)).Reachable
      (system.run {} (shortCall (bytes "alice") (bytes "bob"))) :=
    Transition.System.Reachable.run_restrict (.start rfl) (by decide +kernel)
  obtain ⟨client, present, plain, forged, readable, misread⟩ :
      ∃ client ∈ (system.run {} (logins (bytes "alice") (bytes "bob"))).clients.lookup 1,
        Server.Forwards (system.run {} (logins (bytes "alice") (bytes "bob"))) client
          (SignalingProtocol.hangup (bytes "bob")) 2 ∧
        Server.Forwards (system.run {} (logins (bytes "alice") (bytes "bob"))) client
          forgedOffer 2 ∧
        TypeReadable client.userId (SignalingProtocol.hangup (bytes "bob")) ∧
        ¬ TypeReadable client.userId forgedOffer := by
    decide +kernel
  exact ⟨⟨client, present, ((types_intact reachable).1 present plain).mpr readable,
      fun holds => misread (((types_intact reachable).1 present forged).mp holds)⟩,
    (types_intact restricted.of_restrict).2 restricted⟩

/-- The server forwards the line as an offer, and bob's client reads a presence snapshot. -/
theorem types_intact_forgedOffer :
    system.Allows {} (logins (bytes "presence.snapshot") (bytes "bob")) ∧
      newline ∉ forgedOffer ∧
    ∃ client ∈ (system.run {}
        (logins (bytes "presence.snapshot") (bytes "bob"))).clients.lookup 1,
      client.userId = bytes "presence.snapshot" ∧
      Server.Forwards (system.run {} (logins (bytes "presence.snapshot") (bytes "bob"))) client
        forgedOffer 2 ∧
      stringField forgedOffer (bytes "type") = bytes "offer" ∧
      SignalingProtocol.stringField (addSender forgedOffer client.userId) (bytes "type") =
        bytes "presence.snapshot" ∧
      ¬ TypeIntact client.userId forgedOffer := by
  decide +kernel

end RemoteControl.SignalingServer

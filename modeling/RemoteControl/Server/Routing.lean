/-
This file proves that routing is exactly once, in order and confined.

What a receiver's queue holds of one sender is compared, step by step, with what
should be there: `Server.due` reads the line and the state it is processed in and
never the queues. The two agree after every action, so they agree after every run.
-/

import RemoteControl.Server.Queues

namespace RemoteControl.SignalingServer

/-! ### What a queue holds of a sender -/

/-- The text of a routed line of the given sender. -/
def Outgoing.routedFrom (senderId : ByteString) : Outgoing → Option ByteString
  | .routed sender json => if sender = senderId then some (addSender json sender) else none
  | _ => none

/-- The routed lines of a sender that a client's queue has accepted. -/
def Client.routedFrom (client : Client) (senderId : ByteString) : List ByteString :=
  client.queued.filterMap (Outgoing.routedFrom senderId)

/-- The routed lines of a sender that the client on a socket got; none when nobody is there. -/
def Server.routedTo (server : Server) (receiver : Socket) (senderId : ByteString) :
    List ByteString :=
  ((server.clients.lookup receiver).map fun client => client.routedFrom senderId).getD []

theorem Server.routedTo_of_present {server : Server} {receiver : Socket} {client : Client}
    (present : server.clients.lookup receiver = some client) (senderId : ByteString) :
    server.routedTo receiver senderId = client.routedFrom senderId := by
  rw [Server.routedTo, present]
  rfl

theorem Server.routedTo_of_absent {server : Server} {receiver : Socket}
    (absent : server.clients.lookup receiver = none) (senderId : ByteString) :
    server.routedTo receiver senderId = [] := by
  rw [Server.routedTo, absent]
  rfl

theorem Client.routedFrom_queueLine {client : Client} {outgoing : Outgoing}
    (fits : client.accepts outgoing = true) (senderId : ByteString) :
    (client.queueLine outgoing).routedFrom senderId =
      client.routedFrom senderId ++ (outgoing.routedFrom senderId).toList := by
  rw [Client.queueLine_of_accepts fits, Client.routedFrom, List.filterMap_append]
  cases kind : outgoing.routedFrom senderId <;> simp [kind, Client.routedFrom]

/-- A line the server makes up adds nothing on anybody's behalf. -/
theorem unmoved_routedFrom (senderId : ByteString) :
    Unmoved Outgoing.Own fun client => client.routedFrom senderId where
  queued client outgoing own := by
    cases fits : client.accepts outgoing with
    | false => rw [Client.queueLine_of_full fits]
    | true =>
      rw [Client.routedFrom_queueLine fits]
      cases outgoing with
      | routed sender json => cases own
      | _ => exact List.append_nil _
  enrolled _ _ := rfl

theorem Server.routedTo_of_observed {before after : Server} {receiver : Socket}
    {senderId : ByteString}
    (same : after.observed (fun client => client.routedFrom senderId) receiver =
      before.observed (fun client => client.routedFrom senderId) receiver) :
    after.routedTo receiver senderId = before.routedTo receiver senderId := by
  rw [Server.routedTo, ← Server.observed, same, Server.observed, Server.routedTo]

/-! ### What should be there -/

/-- The lines of a sender that the client on a socket should have got after an action, given
those before it. A line counts for the user id its client has when the line is processed; a
disconnect starts the socket afresh. -/
def Server.due (server : Server) (receiver : Socket) (senderId : ByteString)
    (lines : List ByteString) : Action → List ByteString
  | .route socket json _ =>
    match server.clients.lookup socket with
    | none => lines
    | some client =>
      if client.userId = senderId ∧ server.Forwards client json receiver then
        lines ++ [addSender json senderId]
      else lines
  | .disconnect socket => if socket = receiver then [] else lines
  | _ => lines

/-- Where nobody is connected nothing is due. -/
theorem Server.due_of_absent {server : Server} {receiver : Socket}
    (absent : server.clients.lookup receiver = none) (senderId : ByteString) (action : Action) :
    server.due receiver senderId [] action = [] := by
  cases action with
  | route socket json rehash =>
    rw [Server.due]
    split
    · rfl
    · refine if_neg ?_
      rintro ⟨-, forwards⟩
      obtain ⟨holder, known, -⟩ := forwards.receiver
      rw [absent] at known
      cases known
  | disconnect socket => exact ite_self _
  | accept _ | receive _ _ | write _ _ => rfl

/-- The lines that should have got there after a run from the given state. -/
def Server.dueAlong (receiver : Socket) (senderId : ByteString) :
    Server → List ByteString → List Action → List ByteString
  | _, lines, [] => lines
  | server, lines, action :: rest =>
    Server.dueAlong receiver senderId (server.next action)
      (server.due receiver senderId lines action) rest

/-! ### What a call's line does -/

/-- A forwarded line is appended to one queue. -/
theorem Server.routeMessage_of_forwards {server : Server} {sender : Socket} {client : Client}
    (present : server.clients.lookup sender = some client) {json : ByteString} {target : Socket}
    (forwards : server.Forwards client json target) (rehash : Rehash ByteString Socket) :
    server.routeMessage rehash sender json =
      (server.queueLine target (.routed client.userId json)).1 := by
  obtain ⟨receiver, known, fits⟩ := forwards.receiver
  rw [Server.routeMessage_eq present, Server.decision_eq_deliver.mpr forwards.routable,
    Server.carryOut, Server.queueLine_result known, if_pos fits]

/-- A delivery that does not fit is answered with an error and changes nothing else. -/
theorem Server.lookup_carryOut_of_full {server : Server} {sender target : Socket}
    {receiver : Client} (known : server.clients.lookup target = some receiver)
    {senderId json : ByteString} (full : receiver.accepts (.routed senderId json) = false)
    (rehash : Rehash ByteString Socket) (place : Socket) :
    (server.carryOut rehash sender senderId json (.deliver target)).clients.lookup place =
      (server.refuse sender .routeFailed).clients.lookup place := by
  have result := Server.queueLine_result known (.routed senderId json)
  rw [full] at result
  have same := Server.lookup_queueLine_of_full known full
  rw [Server.carryOut, if_neg (by rw [result]; exact Bool.false_ne_true), Server.refuse,
    Server.lookup_queueLine, same, Server.refuse, Server.lookup_queueLine]

/-- A call's line that is not forwarded is answered with one error and changes nothing else. -/
theorem Server.lookup_routeMessage_of_not_forwards {server : Server} {sender : Socket}
    {client : Client} (present : server.clients.lookup sender = some client)
    (loggedIn : client.userId ≠ []) {json : ByteString}
    (callType : stringField json (bytes "type") ∈ callTypes)
    (held : ∀ target, ¬ server.Forwards client json target) (rehash : Rehash ByteString Socket) :
    ∃ code, ∀ place, (server.routeMessage rehash sender json).clients.lookup place =
      (server.refuse sender code).clients.lookup place := by
  rw [Server.routeMessage_eq present]
  rcases server.decision_of_callType loggedIn callType with
    ⟨target, decided⟩ | ⟨code, decided⟩
  · have routable := Server.decision_eq_deliver.mp decided
    obtain ⟨receiver, known⟩ :=
      Table.mem_iff_lookup.mp (Server.resolve_eq_some.mp routable.resolves).2
    refine ⟨.routeFailed, fun place => ?_⟩
    rw [decided]
    refine Server.lookup_carryOut_of_full known ?_ rehash place
    by_contra fits
    rw [Bool.not_eq_false] at fits
    exact held target ⟨routable, by rw [known]; exact fits⟩
  · refine ⟨code, fun place => ?_⟩
    rw [decided]
    rfl

/-- A line of a client that is not logged in reaches nobody else, unless it logs the client in. -/
theorem Server.lookup_routeMessage_of_not_loggedIn {server : Server} {sender : Socket}
    {client : Client} (present : server.clients.lookup sender = some client)
    (loggedOut : client.userId = []) (rehash : Rehash ByteString Socket) (json : ByteString)
    {place : Socket} (other : place ≠ sender) :
    (server.routeMessage rehash sender json).clients.lookup place = server.clients.lookup place ∨
      ∃ userId, server.decision client json = .login userId ∧
        (server.registerClient rehash sender userId).2 = true ∧
        (server.routeMessage rehash sender json).clients.lookup place =
          (server.clients.lookup place).map fun client => client.hear userId true := by
  rw [Server.routeMessage_eq present]
  rcases server.decision_of_not_loggedIn json loggedOut with
    ⟨userId, decided⟩ | ⟨outgoing, decided⟩
  · rw [decided, Server.carryOut]
    rcases Server.registerClient_cases present rehash userId with
      ⟨-, refused⟩ | ⟨-, -, failed⟩ | ⟨-, -, succeeded⟩
    · rw [refused, if_neg Bool.false_ne_true, Server.refuse, Server.lookup_queueLine_of_ne other]
      exact Or.inl rfl
    · rw [failed, if_neg Bool.false_ne_true, Server.refuse, Server.lookup_queueLine_of_ne other,
        Server.lookup_greet present, if_neg other]
      exact Or.inl rfl
    · rw [succeeded, if_pos rfl, Server.lookup_registered present, if_neg other]
      exact Or.inr ⟨userId, rfl, congrArg Prod.snd succeeded, rfl⟩
  · rw [decided, Server.carryOut, Server.lookup_queueLine_of_ne other]
    exact Or.inl rfl

/-! ### Every action -/

/-- After a line a queue holds of a sender what it should. -/
theorem Server.routedTo_routeMessage (server : Server) (rehash : Rehash ByteString Socket)
    (sender : Socket) (json : ByteString) (receiver : Socket) (senderId : ByteString) :
    (server.routeMessage rehash sender json).routedTo receiver senderId =
      server.due receiver senderId (server.routedTo receiver senderId)
        (.route sender json rehash) := by
  rw [Server.due]
  cases present : server.clients.lookup sender with
  | none => rw [Server.routeMessage_of_absent present]
  | some client =>
    dsimp only
    by_cases forwarded : ∃ target, server.Forwards client json target
    · obtain ⟨target, forwards⟩ := forwarded
      obtain ⟨holder, known, fits⟩ := forwards.receiver
      rw [Server.routeMessage_of_forwards present forwards]
      by_cases here : receiver = target
      · have queued := Server.lookup_queueLine_self known (.routed client.userId json)
        rw [here, Server.routedTo_of_present queued, Client.routedFrom_queueLine fits,
          Server.routedTo_of_present known, Outgoing.routedFrom]
        by_cases same : client.userId = senderId
        · rw [if_pos same, if_pos ⟨same, forwards⟩, same]
          rfl
        · rw [if_neg same, if_neg fun both => same both.1]
          exact List.append_nil _
      · rw [if_neg]
        · exact Server.routedTo_of_observed
            (Server.observed_congr (Server.lookup_queueLine_of_ne here _ _))
        · rintro ⟨-, also⟩
          have target_eq := forwards.routable.resolves
          rw [also.routable.resolves, Option.some_inj] at target_eq
          exact here target_eq
    · rw [if_neg fun both => forwarded ⟨receiver, both.2⟩]
      refine Server.routedTo_of_observed ((unmoved_routedFrom senderId).routeMessage
        (fun _ own => own) server rehash sender (fun other target found forwards => ?_) receiver)
      rw [present, Option.some_inj] at found
      exact absurd ⟨target, found ▸ forwards⟩ forwarded

/-- After every action a queue holds of a sender what it should. -/
theorem Server.routedTo_next (server : Server) (action : Action) (receiver : Socket)
    (senderId : ByteString) :
    (server.next action).routedTo receiver senderId =
      server.due receiver senderId (server.routedTo receiver senderId) action := by
  cases present : server.clients.lookup receiver with
  | none =>
    rw [Server.routedTo_of_absent present, Server.due_of_absent present]
    rcases server.lookup_next_of_absent present action with absent | opened
    · exact Server.routedTo_of_absent absent senderId
    · exact Server.routedTo_of_present opened senderId
  | some holder =>
    have connected : (server.clients.lookup receiver).isSome := by
      rw [present]
      rfl
    have unmoved := unmoved_routedFrom senderId
    cases action with
    | route socket json rehash =>
      exact server.routedTo_routeMessage rehash socket json receiver senderId
    | disconnect socket =>
      rw [Server.due]
      split
      · rename_i here
        rw [here]
        refine Server.routedTo_of_absent ?_ senderId
        rw [Server.next, Server.lookup_disconnectClient present, if_pos rfl]
      · rename_i elsewhere
        refine Server.routedTo_of_observed
          (unmoved.next (fun _ own => own) connected trivial (by simp) (by simp) fun same => ?_)
        cases same
        exact elsewhere rfl
    | accept accepted =>
      exact Server.routedTo_of_observed
        (unmoved.next (fun _ own => own) connected trivial (by simp) (by simp) (by simp))
    | receive socket buffer =>
      exact Server.routedTo_of_observed
        (unmoved.next (fun _ own => own) connected trivial (fun _ _ _ => rfl) (by simp) (by simp))
    | write socket results =>
      refine Server.routedTo_of_observed (unmoved.next (fun _ own => own) connected trivial
        (by simp) (fun results _ client => ?_) (by simp))
      obtain ⟨buffer, written, -⟩ := client.writeClient_spec results
      rw [written, Client.routedFrom, Client.routedFrom]

/-- After every run a queue holds of a sender what it should. -/
theorem Server.routedTo_run (actions : List Action) (server : Server) (receiver : Socket)
    (senderId : ByteString) :
    (system.run server actions).routedTo receiver senderId =
      server.dueAlong receiver senderId (server.routedTo receiver senderId) actions := by
  induction actions generalizing server with
  | nil => rfl
  | cons action rest inductionHypothesis =>
    rw [Transition.System.run_cons, inductionHypothesis, Server.dueAlong]
    exact congrArg (fun lines => Server.dueAlong receiver senderId _ lines rest)
      (server.routedTo_next action receiver senderId)

/-! ### Each line once, in order, or refused -/

/-- What a line with a call's type does to the queues of the server. -/
structure DeliversOrRefuses (server after : Server) (sender : Socket) (client : Client)
    (json : ByteString) : Prop where
  /-- A forwarded line changes the queue it is appended to and no other. -/
  forwarded : ∀ target, server.Forwards client json target →
    ∃ receiver, server.clients.lookup target = some receiver ∧
      after.clients.lookup target = some
        { receiver with
          sendBuffer := receiver.sendBuffer ++ addSender json client.userId ++ [newline]
          queued := receiver.queued ++ [.routed client.userId json] } ∧
      ∀ other, other ≠ target → after.clients.lookup other = server.clients.lookup other
  /-- Every other line changes no other client and queues one error line to its sender, unless
  the sender's queue is full. -/
  refused : (∀ target, ¬ server.Forwards client json target) →
    ∃ code, (after.clients.lookup sender = some
        (if client.accepts (.error code) then
          { client with
            sendBuffer := client.sendBuffer ++ code.line ++ [newline]
            queued := client.queued ++ [.error code] }
        else client)) ∧
      ∀ other, other ≠ sender → after.clients.lookup other = server.clients.lookup other

theorem deliversOrRefuses {server : Server} {sender : Socket} {client : Client}
    (present : server.clients.lookup sender = some client) (loggedIn : client.userId ≠ [])
    {json : ByteString} (callType : stringField json (bytes "type") ∈ callTypes)
    (rehash : Rehash ByteString Socket) :
    DeliversOrRefuses server (server.routeMessage rehash sender json) sender client json where
  forwarded target forwards := by
    obtain ⟨receiver, known, fits⟩ := forwards.receiver
    rw [Server.routeMessage_of_forwards present forwards]
    refine ⟨receiver, known, ?_, fun other elsewhere => ?_⟩
    · rw [Server.lookup_queueLine_self known, Client.queueLine_of_accepts fits]
      rfl
    · exact Server.lookup_queueLine_of_ne elsewhere _ _
  refused held := by
    obtain ⟨code, same⟩ :=
      Server.lookup_routeMessage_of_not_forwards present loggedIn callType held rehash
    refine ⟨code, ?_, fun other elsewhere => ?_⟩
    · rw [same, Server.refuse, Server.lookup_queueLine_self present]
      rfl
    · rw [same, Server.refuse, Server.lookup_queueLine_of_ne elsewhere]

/-- In every run the lines routed from one user to one connection are those that passed the
tests, resolved to it and fitted into its queue, each once and in the order they were processed.
Every other line with a call's type is answered with one error and reaches nobody, and a client
that is not logged in reaches nobody but through the presence change of its login. -/
theorem routed_exactly_once (actions : List Action) :
    (∀ receiver senderId client,
      (system.run {} actions).clients.lookup receiver = some client →
        client.routedFrom senderId = Server.dueAlong receiver senderId {} [] actions ∧
        client.sendBuffer <:+ client.queuedText) ∧
    (∀ sender client json rehash,
      (system.run {} actions).clients.lookup sender = some client → client.userId ≠ [] →
        stringField json (bytes "type") ∈ callTypes →
        DeliversOrRefuses (system.run {} actions)
          ((system.run {} actions).routeMessage rehash sender json) sender client json) ∧
    (∀ sender client json rehash other,
      (system.run {} actions).clients.lookup sender = some client → client.userId = [] →
        other ≠ sender →
        ((system.run {} actions).routeMessage rehash sender json).clients.lookup other =
            (system.run {} actions).clients.lookup other ∨
          ∃ userId, (system.run {} actions).decision client json = .login userId ∧
            ((system.run {} actions).registerClient rehash sender userId).2 = true ∧
            ((system.run {} actions).routeMessage rehash sender json).clients.lookup other =
              ((system.run {} actions).clients.lookup other).map fun client =>
                client.hear userId true) := by
  refine ⟨fun receiver senderId client present => ⟨?_, kept_accounts.run actions _ _ present⟩,
    fun sender client json rehash present loggedIn callType =>
      deliversOrRefuses present loggedIn callType rehash,
    fun sender client json rehash other present loggedOut elsewhere =>
      Server.lookup_routeMessage_of_not_loggedIn present loggedOut rehash json elsewhere⟩
  rw [← Server.routedTo_of_present present]
  exact Server.routedTo_run actions {} receiver senderId

theorem routed_exactly_once_shortCall :
    ∃ client, (system.run {} (shortCall (bytes "alice") (bytes "bob"))).clients.lookup 2 =
        some client ∧
      client.routedFrom (bytes "alice") =
        [addSender (SignalingProtocol.offer (bytes "bob") (bytes "v=0")) (bytes "alice")] := by
  obtain ⟨client, present⟩ : ∃ client,
      (system.run {} (shortCall (bytes "alice") (bytes "bob"))).clients.lookup 2 = some client :=
    ⟨_, rfl⟩
  refine ⟨client, present, ?_⟩
  rw [((routed_exactly_once (shortCall (bytes "alice") (bytes "bob"))).1 2 (bytes "alice") client
    present).1]
  decide

end RemoteControl.SignalingServer

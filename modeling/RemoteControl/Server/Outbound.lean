/-
This file follows a line from the server's queue to the callback of the client
that receives it: `QueueLine`, the partial sends of `WriteClient`, the bytes in
flight, and the loop of `SignalingClient::Run` that cuts them into messages.

The network is the server together with one link for every open connection, and
the links of connections the server has closed, on which bytes may still arrive.
Two conservation laws carry the proof. What has left a queue is what its link has
received and what is in flight; and what a link has received, cut at the
newlines, is what it has delivered and what is pending. No queued line holds a
newline, so cutting the queued text gives the lines back.
-/

import RemoteControl.Server.Queues

namespace RemoteControl.SignalingServer

open Lines

/-! ### No queued line holds a newline -/

theorem newline_notMem_escapeJson (value : ByteString) : newline ∉ escapeJson value := by
  rw [escapeJson, List.mem_flatMap]
  rintro ⟨byte, -, written⟩
  split at written
  · exact absurd written (by decide)
  split at written
  · exact absurd written (by decide)
  split at written
  · exact absurd written (by decide)
  rename_i notNewline
  split at written
  · exact absurd written (by decide)
  split at written
  · exact absurd written (by decide)
  split at written
  · exact notNewline (List.mem_singleton.mp written).symm
  · cases written

theorem newline_notMem_snapshotLine (users : List ByteString) : newline ∉ snapshotLine users := by
  obtain ⟨opening, user, userEnd, closing, separator⟩ :
      newline ∉ bytes "\x7b\"type\":\"presence.snapshot\",\"users\":[" ∧
      newline ∉ bytes "\x7b\"userId\":\"" ∧ newline ∉ bytes "\"\x7d" ∧ newline ∉ bytes "]\x7d" ∧
      newline ∉ [comma] := by decide
  have entries : newline ∉ List.intercalate [comma] (users.map fun userId =>
      bytes "\x7b\"userId\":\"" ++ escapeJson userId ++ bytes "\"\x7d") := by
    induction users with
    | nil => exact List.not_mem_nil
    | cons first rest inductionHypothesis =>
      have entry : newline ∉ bytes "\x7b\"userId\":\"" ++ escapeJson first ++ bytes "\"\x7d" := by
        simp only [List.mem_append, not_or]
        exact ⟨⟨user, newline_notMem_escapeJson first⟩, userEnd⟩
      cases rest with
      | nil => simpa [List.intercalate] using entry
      | cons second rest =>
        rw [List.map_cons, List.map_cons, List.intercalate_cons_cons, List.mem_append,
          List.mem_append, not_or, not_or]
        exact ⟨⟨entry, separator⟩, inductionHypothesis⟩
  rw [snapshotLine]
  simp only [List.mem_append, not_or]
  exact ⟨⟨opening, entries⟩, closing⟩

/-- The lines the server makes up hold no newline. -/
theorem newline_notMem_own {outgoing : Outgoing} (own : outgoing.Own) :
    newline ∉ outgoing.line := by
  obtain ⟨changed, flag, online_, offline_, closing, userEnd, error⟩ :
      newline ∉ bytes "\x7b\"type\":\"presence.changed\",\"userId\":\"" ∧
      newline ∉ bytes "\",\"online\":" ∧ newline ∉ bytes "true" ∧ newline ∉ bytes "false" ∧
      newline ∉ bytes "\x7d" ∧ newline ∉ bytes "\"\x7d" ∧
      newline ∉ bytes "\x7b\"type\":\"error\",\"code\":\"target_offline\",\"userId\":\"" := by
    decide +kernel
  have escaped := newline_notMem_escapeJson
  cases outgoing with
  | pong => exact (by decide +kernel : newline ∉ bytes "\x7b\"type\":\"pong\"\x7d")
  | error code =>
    cases code with
    | targetOffline userId =>
      simp only [Outgoing.line, ErrorCode.line, List.mem_append, not_or]
      exact ⟨⟨error, escaped userId⟩, userEnd⟩
    | loginFailed | notLoggedIn | unsupportedMessage | senderFieldForbidden | routeFailed =>
      show newline ∉ bytes _
      decide +kernel
  | snapshot users => exact newline_notMem_snapshotLine users
  | presence userId online =>
    simp only [Outgoing.line, presenceLine, List.mem_append, not_or]
    refine ⟨⟨⟨⟨changed, escaped userId⟩, flag⟩, ?_⟩, closing⟩
    split
    · exact online_
    · exact offline_
  | routed sender json => cases own

/-- A routed line holds no newline the sender's line does not hold. -/
theorem newline_notMem_addSender {json : ByteString} (oneLine : newline ∉ json)
    (sender : ByteString) : newline ∉ addSender json sender := by
  rw [addSender]
  split
  · exact List.not_mem_nil
  · have literal : newline ∉ bytes ",\"fromUserId\":\"" ∧ newline ∉ bytes "\"" := by decide
    rw [ListSearch.insertAt, senderMember]
    simp only [List.mem_append, not_or]
    exact ⟨⟨fun member => oneLine (List.mem_of_mem_take member),
      ⟨⟨literal.1, newline_notMem_escapeJson sender⟩, literal.2⟩⟩,
      fun member => oneLine (List.mem_of_mem_drop member)⟩

/-- A line without a newline. -/
def Outgoing.OneLine (outgoing : Outgoing) : Prop := newline ∉ outgoing.line

/-! ### What has left a queue -/

/-- The bytes of the queued lines that are no longer in the send buffer. -/
def Client.gone (client : Client) : ByteString :=
  client.queuedText.take (client.queuedText.length - client.sendBuffer.length)

theorem Client.Accounts.gone_append {client : Client} (accounts : client.Accounts) :
    client.gone ++ client.sendBuffer = client.queuedText := by
  obtain ⟨gone, whole⟩ := accounts
  have lengths : client.queuedText.length - client.sendBuffer.length = gone.length := by
    rw [← whole, List.length_append]
    omega
  rw [Client.gone, lengths, ← whole, List.take_left]

theorem Client.Accounts.gone_eq {client : Client} (accounts : client.Accounts) {gone : ByteString}
    (whole : gone ++ client.sendBuffer = client.queuedText) : client.gone = gone :=
  List.append_cancel_right (accounts.gone_append.trans whole.symm)

theorem unmoved_gone : Unmoved (fun _ => True) Client.gone where
  queued client outgoing _ := by
    cases fits : client.accepts outgoing with
    | false => rw [Client.queueLine_of_full fits]
    | true =>
      have longer := Client.queuedText_queueLine fits
      rw [Client.gone, longer, Client.queueLine_of_accepts fits, Client.gone]
      simp only [List.append_assoc, List.length_append]
      rw [Nat.add_sub_add_right, List.take_append_of_le_length (Nat.sub_le _ _)]
  enrolled _ _ := rfl

/-- Writing moves bytes out of the queue and loses none. -/
theorem Client.Accounts.gone_write {client : Client} (accounts : client.Accounts)
    (results : List SendResult) :
    (client.writeClient results).1.gone = client.gone ++ (client.writeClient results).2.1 := by
  obtain ⟨buffer, written, split⟩ := client.writeClient_spec results
  refine Client.Accounts.gone_eq (kept_accounts.written client results accounts) ?_
  rw [written]
  show client.gone ++ (client.writeClient results).2.1 ++ buffer = client.queuedText
  rw [List.append_assoc, ← split, accounts.gone_append]

/-! ### The receiving client -/

/-- The most bytes one `recv` of `SignalingClient::Run` returns. -/
def receiveBufferSize : Nat := 4096

/-- The body of the inner loop of `SignalingClient::Run`: a message that is not empty goes to the
callback. -/
def callback (delivered : List ByteString) (message _ : ByteString) : List ByteString :=
  if message = [] then delivered else delivered ++ [message]

/-- One direction of a connection: the bytes in flight to the client, its `pending` text, and the
messages its callback has got. `received` is history. -/
structure Link where
  inFlight : ByteString := []
  received : ByteString := []
  pending : ByteString := []
  delivered : List ByteString := []

/-- One `recv` of `SignalingClient::Run` and the loop behind it. -/
def Link.receive (link : Link) (count : Nat) : Link :=
  let taken := min count receiveBufferSize
  let chunk := link.inFlight.take taken
  let (delivered, pending) := drain newline callback link.delivered (link.pending ++ chunk)
  { inFlight := link.inFlight.drop taken, received := link.received ++ chunk, pending, delivered }

/-- Bytes enter the link. -/
def Link.send (link : Link) (text : ByteString) : Link :=
  { link with inFlight := link.inFlight ++ text }

/-- The messages of complete lines are those that are not empty. -/
def messages (lines : List ByteString) : List ByteString := lines.filter (· ≠ [])

/-- What a link has received, cut at the newlines, is delivered or pending. -/
structure Link.Reassembled (link : Link) : Prop where
  delivered : link.delivered = messages (cut newline link.received).1
  pending : link.pending = (cut newline link.received).2

theorem foldl_callback (delivered lines : List ByteString) :
    lines.foldl (fun delivered line => callback delivered line []) delivered =
      delivered ++ messages lines := by
  induction lines generalizing delivered with
  | nil => exact (List.append_nil _).symm
  | cons line rest inductionHypothesis =>
    rw [List.foldl_cons, inductionHypothesis, callback]
    by_cases empty : line = []
    · have skipped : messages (line :: rest) = messages rest := by simp [messages, empty]
      rw [if_pos empty, skipped]
    · have kept : messages (line :: rest) = line :: messages rest := by simp [messages, empty]
      rw [if_neg empty, kept, List.append_assoc, List.singleton_append]

theorem Link.Reassembled.receive {link : Link} (reassembled : link.Reassembled) (count : Nat) :
    (link.receive count).Reassembled := by
  have loop : drain newline callback link.delivered
      (link.pending ++ link.inFlight.take (min count receiveBufferSize)) = (_, _) :=
    drain_eq_foldl (fun delivered line => callback delivered line []) _ _
  rw [foldl_callback] at loop
  have delivered := congrArg Prod.fst loop
  have pending := congrArg Prod.snd loop
  refine ⟨?_, ?_⟩
  · show (drain newline callback link.delivered _).1 = messages (cut newline (_ ++ _)).1
    rw [cut_append, messages, List.filter_append]
    refine delivered.trans ?_
    rw [reassembled.delivered, reassembled.pending]
    rfl
  · show (drain newline callback link.delivered _).2 = (cut newline (_ ++ _)).2
    rw [cut_append]
    refine pending.trans ?_
    rw [reassembled.pending]

/-- Nothing arrives on an idle link. -/
theorem Link.receive_nil (count : Nat) : ({} : Link).receive count = {} := by
  rw [Link.receive, List.take_nil, List.drop_nil]
  rfl

/-- Receiving only moves bytes. -/
theorem Link.receive_bytes (link : Link) (count : Nat) :
    (link.receive count).received ++ (link.receive count).inFlight =
      link.received ++ link.inFlight := by
  show link.received ++ link.inFlight.take _ ++ link.inFlight.drop _ = _
  rw [List.append_assoc, List.take_append_drop]

/-- Cutting the queued text at the newlines gives the queued lines back. -/
theorem cut_join_lines {lines : List ByteString} (whole : ∀ line ∈ lines, newline ∉ line) :
    cut newline (join newline lines) = (lines, []) := by
  have back := cut_join whole []
  rwa [List.append_nil, show cut newline ([] : ByteString) = ([], []) from rfl,
    List.append_nil] at back

/-- A link that carries the front of some lines delivers the front of their messages. -/
theorem Link.Reassembled.front {link : Link} (reassembled : link.Reassembled)
    {lines : List ByteString} (whole : ∀ line ∈ lines, newline ∉ line)
    (carried : link.received <+: join newline lines) : link.delivered <+: messages lines := by
  obtain ⟨rest, text⟩ := carried
  have pieces : (cut newline link.received).1 <+: lines := by
    have joined := cut_join_lines whole
    rw [← text, cut_append] at joined
    rw [← (Prod.mk.inj joined).1]
    exact List.prefix_append _ _
  rw [reassembled.delivered]
  exact pieces.filter _

/-- A link that has received all of some lines has delivered all their messages. -/
theorem Link.Reassembled.complete {link : Link} (reassembled : link.Reassembled)
    {lines : List ByteString} (whole : ∀ line ∈ lines, newline ∉ line)
    (carried : link.received = join newline lines) : link.delivered = messages lines := by
  rw [reassembled.delivered, carried, cut_join_lines whole]

/-! ### The network -/

/-- The server, the links of the open connections, and the links of the closed ones with the
lines their queues had accepted. -/
structure Network where
  server : Server := {}
  links : Socket → Link := fun _ => {}
  closed : List (Link × List Outgoing) := []

/-- One thing that happens in the network. -/
inductive Network.Action where
  /-- The server does something. -/
  | serve (action : SignalingServer.Action)
  /-- A connected client receives bytes. -/
  | receive (socket : Socket) (count : Nat)
  /-- The client of a closed connection receives bytes that were still in flight. -/
  | receiveClosed (index count : Nat)

/-- The lines that `ReadClient` hands to `RouteMessage` hold no newline. -/
def Action.OneLine : Action → Prop
  | .route _ json _ => newline ∉ json
  | _ => True

instance : ∀ action : Action, Decidable action.OneLine
  | .route _ json _ => inferInstanceAs (Decidable (newline ∉ json))
  | .accept _ | .receive _ _ | .write _ _ | .disconnect _ => isTrue trivial

def Network.allowed (network : Network) : Network.Action → Prop
  | .serve action => network.server.allowed action ∧ action.OneLine
  | _ => True

/-- The links behind an action of the server: what `WriteClient` sends enters a link, and a
closed connection keeps its link. -/
def Network.serve (network : Network) (action : SignalingServer.Action) : Network :=
  match action with
  | .write socket results =>
    match network.server.clients.lookup socket with
    | none => { network with server := network.server.next action }
    | some client =>
      { network with
        server := network.server.next action
        links := Function.update network.links socket
          ((network.links socket).send (client.writeClient results).2.1) }
  | .disconnect socket =>
    match network.server.clients.lookup socket with
    | none => { network with server := network.server.next action }
    | some client =>
      { server := network.server.next action
        links := Function.update network.links socket {}
        closed := network.closed ++ [(network.links socket, client.queued)] }
  | _ => { network with server := network.server.next action }

def Network.next (network : Network) : Network.Action → Network
  | .serve action => network.serve action
  | .receive socket count =>
    { network with
      links := Function.update network.links socket ((network.links socket).receive count) }
  | .receiveClosed index count =>
    { network with
      closed := network.closed.modify index fun entry => (entry.1.receive count, entry.2) }

/-- The network, started without connections. -/
def networkSystem : Transition.System Network Network.Action where
  initial network := network = {}
  allowed := Network.allowed
  next := Network.next

instance (network : Network) : ∀ action, Decidable (network.allowed action)
  | .serve action =>
    inferInstanceAs (Decidable (network.server.allowed action ∧ action.OneLine))
  | .receive _ _ | .receiveClosed _ _ => isTrue trivial

instance (network : Network) (action : Network.Action) :
    Decidable (networkSystem.allowed network action) :=
  inferInstanceAs (Decidable (network.allowed action))

/-! ### The invariant -/

/-- A link that carries what has left a queue. -/
structure Link.Carries (link : Link) (departed : ByteString) : Prop where
  reassembled : link.Reassembled
  conserved : link.received ++ link.inFlight = departed

theorem Link.carries_nil : ({} : Link).Carries [] := ⟨⟨rfl, rfl⟩, rfl⟩

theorem Link.Carries.send {link : Link} {departed : ByteString} (carries : link.Carries departed)
    (text : ByteString) : (link.send text).Carries (departed ++ text) where
  reassembled := ⟨carries.reassembled.delivered, carries.reassembled.pending⟩
  conserved := by
    rw [← carries.conserved, List.append_assoc]
    rfl

theorem Link.Carries.receive {link : Link} {departed : ByteString}
    (carries : link.Carries departed) (count : Nat) : (link.receive count).Carries departed where
  reassembled := carries.reassembled.receive count
  conserved := (link.receive_bytes count).trans carries.conserved

/-- A closed connection: its link carries the front of what its queue had accepted. -/
structure Settled (entry : Link × List Outgoing) : Prop where
  carries : ∃ departed, entry.1.Carries departed ∧
    departed <+: join newline (entry.2.map Outgoing.line)
  oneLine : ∀ outgoing ∈ entry.2, outgoing.OneLine

/-- What holds of the network in every state. -/
structure Network.Sound (network : Network) : Prop where
  bounded : network.server.Each Client.Bounded
  accounts : network.server.Each Client.Accounts
  oneLine : network.server.Each (Client.All Outgoing.OneLine)
  carries : ∀ socket client, network.server.clients.lookup socket = some client →
    (network.links socket).Carries client.gone
  idle : ∀ socket, network.server.clients.lookup socket = none → network.links socket = {}
  settled : ∀ entry ∈ network.closed, Settled entry

theorem Network.sound_start : Network.Sound {} where
  bounded socket client present := by cases present
  accounts socket client present := by cases present
  oneLine socket client present := by cases present
  carries socket client present := by cases present
  idle socket _ := rfl
  settled entry member := by cases member

theorem Network.serve_server (network : Network) (action : SignalingServer.Action) :
    (network.serve action).server = network.server.next action := by
  rw [Network.serve.eq_def]
  split
  · split <;> rfl
  · split <;> rfl
  · rfl

/-- A client that is neither written nor disconnected goes on with its link. -/
theorem Network.Sound.carries_next {network : Network} (sound : network.Sound) {socket : Socket}
    {client : Client} {action : SignalingServer.Action}
    (present : (network.server.next action).clients.lookup socket = some client)
    (quiet : ∀ results, action = .write socket results →
      network.server.clients.lookup socket = none)
    (stays : action = .disconnect socket → network.server.clients.lookup socket = none) :
    (network.links socket).Carries client.gone := by
  cases before : network.server.clients.lookup socket with
  | none =>
    have fresh := (network.server.lookup_next_of_absent before action).resolve_left
      (by rw [present]; simp)
    rw [present, Option.some_inj] at fresh
    rw [fresh, sound.idle socket before]
    exact Link.carries_nil
  | some earlier =>
    rw [before] at quiet stays
    have same := unmoved_gone.next (fun _ _ => trivial) (by rw [before]; rfl)
      (network.server.relays_any action) (fun _ _ _ => rfl)
      (fun results written => absurd (quiet results written) (by simp))
      (fun disconnected => absurd (stays disconnected) (by simp))
    rw [Server.observed, Server.observed, present, before, Option.map_some, Option.map_some,
      Option.some_inj] at same
    rw [same]
    exact sound.carries socket earlier before

/-- When nobody is connected on a socket after an action, nobody was, or the client was
disconnected. -/
theorem lookup_of_next_absent {server : Server} {socket : Socket} {action : Action}
    (absent : (server.next action).clients.lookup socket = none)
    (stays : action ≠ .disconnect socket) : server.clients.lookup socket = none := by
  cases before : server.clients.lookup socket with
  | none => rfl
  | some earlier =>
    have same := unmoved_presence.next (fun _ _ => trivial) (by rw [before]; rfl)
      (server.relays_any action) (fun _ _ _ => rfl) (fun _ _ _ => rfl) stays
    rw [Server.observed, Server.observed, absent, before] at same
    cases same

/-- What a disconnected client leaves behind is settled. -/
theorem Network.Sound.settled_entry {network : Network} (sound : network.Sound) {socket : Socket}
    {client : Client} (present : network.server.clients.lookup socket = some client) :
    Settled (network.links socket, client.queued) where
  carries := by
    refine ⟨client.gone, sound.carries socket client present, client.sendBuffer, ?_⟩
    exact (sound.accounts socket client present).gone_append
  oneLine := sound.oneLine socket client present

/-- The links fit the clients of a server: every client's link carries what has left its queue,
the other links are unused, and the closed ones are settled. -/
structure Network.Linked (network : Network) : Prop where
  carries : ∀ socket client, network.server.clients.lookup socket = some client →
    (network.links socket).Carries client.gone
  idle : ∀ socket, network.server.clients.lookup socket = none → network.links socket = {}
  settled : ∀ entry ∈ network.closed, Settled entry

/-- An action that neither writes to a client nor disconnects one leaves the links as they are. -/
theorem Network.Sound.linked_next {network : Network} (sound : network.Sound)
    {action : SignalingServer.Action}
    (quiet : ∀ socket results, action = .write socket results →
      network.server.clients.lookup socket = none)
    (stays : ∀ socket, action = .disconnect socket →
      network.server.clients.lookup socket = none) :
    Network.Linked { network with server := network.server.next action } where
  carries socket client present := sound.carries_next present (quiet socket) (stays socket)
  idle socket absent := by
    by_cases disconnected : action = .disconnect socket
    · exact sound.idle socket (stays socket disconnected)
    · exact sound.idle socket (lookup_of_next_absent absent disconnected)
  settled := sound.settled

/-- `WriteClient` moves what it sends from the queue into the link. -/
theorem Network.Sound.linked_write {network : Network} (sound : network.Sound) (place : Socket)
    (results : List SendResult) : (network.serve (.write place results)).Linked := by
  cases there : network.server.clients.lookup place with
  | none =>
    rw [Network.serve, there]
    refine sound.linked_next (fun socket _ same => ?_) (fun socket same => ?_)
    · cases same
      exact there
    · cases same
  | some writer =>
    rw [Network.serve, there]
    have after : (network.server.next (.write place results)).clients.lookup place =
        some (writer.writeClient results).1 := by
      show (Table.modify place _ network.server.clients).lookup place = _
      rw [Table.lookup_modify_self, there]
      rfl
    refine ⟨fun socket client present => ?_, fun socket absent => ?_, sound.settled⟩
    · dsimp only at present ⊢
      by_cases here : socket = place
      · rw [here, after, Option.some_inj] at present
        rw [here, ← present, (sound.accounts place writer there).gone_write, Function.update_self]
        exact (sound.carries place writer there).send _
      · rw [Function.update_of_ne here]
        refine sound.carries_next present (fun _ same => ?_) (fun same => ?_)
        · cases same
          exact absurd rfl here
        · cases same
    · dsimp only at absent ⊢
      have elsewhere : socket ≠ place := by
        rintro rfl
        rw [after] at absent
        cases absent
      rw [Function.update_of_ne elsewhere]
      refine sound.idle socket (lookup_of_next_absent absent fun same => ?_)
      cases same

/-- `DisconnectClient` closes the link of the client. -/
theorem Network.Sound.linked_disconnect {network : Network} (sound : network.Sound)
    (place : Socket) : (network.serve (.disconnect place)).Linked := by
  cases there : network.server.clients.lookup place with
  | none =>
    rw [Network.serve, there]
    refine sound.linked_next (fun socket _ same => ?_) (fun socket same => ?_)
    · cases same
    · cases same
      exact there
  | some leaver =>
    rw [Network.serve, there]
    have after : (network.server.next (.disconnect place)).clients.lookup place = none := by
      rw [Server.next, Server.lookup_disconnectClient there, if_pos rfl]
    refine ⟨fun socket client present => ?_, fun socket absent => ?_, fun entry member => ?_⟩
    · dsimp only at present ⊢
      have elsewhere : socket ≠ place := by
        rintro rfl
        rw [after] at present
        cases present
      rw [Function.update_of_ne elsewhere]
      refine sound.carries_next present (fun _ same => ?_) (fun same => ?_)
      · cases same
      · cases same
        exact absurd rfl elsewhere
    · dsimp only at absent ⊢
      by_cases here : socket = place
      · rw [here]
        exact Function.update_self _ _ _
      · rw [Function.update_of_ne here]
        refine sound.idle socket (lookup_of_next_absent absent fun same => ?_)
        cases same
        exact here rfl
    · rcases List.mem_append.mp member with earlier | last
      · exact sound.settled entry earlier
      · rw [List.mem_singleton.mp last]
        exact sound.settled_entry there

/-- Every action of the server keeps the links fitting. -/
theorem Network.Sound.linked_serve {network : Network} (sound : network.Sound)
    (action : SignalingServer.Action) : (network.serve action).Linked := by
  cases action with
  | write place results => exact sound.linked_write place results
  | disconnect place => exact sound.linked_disconnect place
  | accept _ | receive _ _ | route _ _ _ =>
    refine sound.linked_next (fun _ _ same => ?_) (fun _ same => ?_)
    · cases same
    · cases same

theorem Network.Sound.serve {network : Network} (sound : network.Sound)
    {action : SignalingServer.Action} (oneLine : action.OneLine) :
    (network.serve action).Sound := by
  have relays : network.server.Relays Outgoing.OneLine action := by
    cases action with
    | route socket json rehash =>
      exact fun client _ _ _ => newline_notMem_addSender oneLine client.userId
    | _ => trivial
  have any := network.server.relays_any action
  have bounded := kept_bounded.next (fun _ _ => trivial) sound.bounded any
  have accounts := kept_accounts.next (fun _ _ => trivial) sound.accounts any
  have lines := (kept_all Outgoing.OneLine).next (fun _ own => newline_notMem_own own)
    sound.oneLine relays
  rw [← network.serve_server] at bounded accounts lines
  have linked := sound.linked_serve action
  exact ⟨bounded, accounts, lines, linked.carries, linked.idle, linked.settled⟩

/-- A closed connection stays settled while the rest of its bytes arrive. -/
theorem Settled.receive {entry : Link × List Outgoing} (settled : Settled entry) (count : Nat) :
    Settled (entry.1.receive count, entry.2) where
  carries := by
    obtain ⟨departed, carries, front⟩ := settled.carries
    exact ⟨departed, carries.receive count, front⟩
  oneLine := settled.oneLine

theorem Network.Sound.next {network : Network} (sound : network.Sound) {action : Network.Action}
    (allowed : network.allowed action) : (network.next action).Sound := by
  cases action with
  | serve action => exact sound.serve allowed.2
  | receive place count =>
    refine ⟨sound.bounded, sound.accounts, sound.oneLine, fun socket client present => ?_,
      fun socket absent => ?_, sound.settled⟩
    · have carries := sound.carries socket client present
      rw [Network.next]
      dsimp only
      by_cases here : socket = place
      · rw [← here, Function.update_self]
        exact carries.receive count
      · rw [Function.update_of_ne here]
        exact carries
    · show (network.next (.receive place count)).links socket = {}
      have idle := sound.idle socket absent
      rw [Network.next]
      dsimp only
      by_cases here : socket = place
      · rw [← here, Function.update_self, idle]
        exact Link.receive_nil count
      · rw [Function.update_of_ne here, idle]
  | receiveClosed index count =>
    refine ⟨sound.bounded, sound.accounts, sound.oneLine, sound.carries, sound.idle,
      fun entry member => ?_⟩
    rw [Network.next] at member
    obtain ⟨place, found⟩ := List.mem_iff_getElem?.mp member
    rw [List.getElem?_modify] at found
    obtain ⟨earlier, known, same⟩ := Option.map_eq_some_iff.mp found
    have before := sound.settled earlier (List.mem_of_getElem? known)
    rw [← same]
    split
    · exact before.receive count
    · exact before

theorem Network.sound_of_reachable {network : Network}
    (reachable : networkSystem.Reachable network) : network.Sound :=
  reachable.invariant (fun _ initial => initial ▸ Network.sound_start)
    fun _ _ _ sound allowed => sound.next allowed

/-! ### What a client is given -/

/-- In every run no queued line holds a newline, the send buffer keeps its bound, so that the
subtraction in `QueueLine` does not wrap, and a refused line leaves its client as it was. What
a client's callback has got is the front of the messages its queue accepted, and all of them
once every byte has arrived; on a closed connection it is the front of what the queue had
accepted until then. -/
theorem outbound_integrity {network : Network} (reachable : networkSystem.Reachable network) :
    (∀ socket client, network.server.clients.lookup socket = some client →
      (∀ outgoing ∈ client.queued, newline ∉ outgoing.line) ∧
      client.sendBuffer.length ≤ maxPendingSendBytes ∧
      sizeSub maxPendingSendBytes client.sendBuffer.length =
        maxPendingSendBytes - client.sendBuffer.length ∧
      (∀ outgoing, (network.server.queueLine socket outgoing).2 = false →
        (network.server.queueLine socket outgoing).1.clients.lookup socket = some client) ∧
      (network.links socket).delivered <+: messages (client.queued.map Outgoing.line) ∧
      (client.sendBuffer = [] → (network.links socket).inFlight = [] →
        (network.links socket).delivered = messages (client.queued.map Outgoing.line))) ∧
    ∀ entry ∈ network.closed, entry.1.delivered <+: messages (entry.2.map Outgoing.line) := by
  have sound := Network.sound_of_reachable reachable
  have lines {queued : List Outgoing} (oneLine : ∀ outgoing ∈ queued, outgoing.OneLine) :
      ∀ line ∈ queued.map Outgoing.line, newline ∉ line := by
    intro line member
    obtain ⟨outgoing, queuedThere, rfl⟩ := List.mem_map.mp member
    exact oneLine outgoing queuedThere
  refine ⟨fun socket client present => ?_, fun entry member => ?_⟩
  · have oneLine := sound.oneLine socket client present
    have bounded := sound.bounded socket client present
    have whole := (sound.accounts socket client present).gone_append
    have carries := sound.carries socket client present
    refine ⟨oneLine, bounded, bounded.sizeSub, fun outgoing refused => ?_, ?_, ?_⟩
    · rw [Server.queueLine_result present] at refused
      rw [Server.lookup_queueLine_of_full present refused, present]
    · refine carries.reassembled.front (lines oneLine) ⟨(network.links socket).inFlight ++
        client.sendBuffer, ?_⟩
      rw [← List.append_assoc, carries.conserved, whole, Client.queuedText]
    · intro written arrived
      refine carries.reassembled.complete (lines oneLine) ?_
      have conserved := carries.conserved
      rw [arrived, List.append_nil] at conserved
      rw [conserved, ← Client.queuedText, ← whole, written, List.append_nil]
  · obtain ⟨⟨departed, carries, front⟩, oneLine⟩ := sound.settled entry member
    refine carries.reassembled.front (lines oneLine) (List.IsPrefix.trans ?_ front)
    rw [← carries.conserved]
    exact List.prefix_append _ _

/-- The short call on the network; the callee's bytes leave in two sends and arrive in two
parts. -/
def shortCallDelivered : List Network.Action :=
  (shortCall (bytes "alice") (bytes "bob")).map .serve ++
    [.serve (.write 2 [.sent 10, .sent 4096]), .receive 2 7, .receive 2 4096]

theorem outbound_integrity_shortCall :
    ((networkSystem.run {} shortCallDelivered).links 2).delivered =
      [snapshotLine [bytes "alice"],
        addSender (SignalingProtocol.offer (bytes "bob") (bytes "v=0")) (bytes "alice")] := by
  have reachable : networkSystem.Reachable (networkSystem.run {} shortCallDelivered) :=
    (Transition.System.Reachable.start rfl).run (by decide +kernel)
  obtain ⟨client, present, written, queued⟩ : ∃ client,
      (networkSystem.run {} shortCallDelivered).server.clients.lookup 2 = some client ∧
        client.sendBuffer = [] ∧ client.queued = [.snapshot [bytes "alice"],
          .routed (bytes "alice") (SignalingProtocol.offer (bytes "bob") (bytes "v=0"))] :=
    ⟨_, rfl, by decide +kernel, by decide +kernel⟩
  have arrived : ((networkSystem.run {} shortCallDelivered).links 2).inFlight = [] := by
    decide +kernel
  rw [((outbound_integrity reachable).1 2 client present).2.2.2.2.2 written arrived, queued]
  decide

end RemoteControl.SignalingServer

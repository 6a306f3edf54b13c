/-
This file follows a line from one client to another: `SignalingClient::Send`, the
bytes in flight to the server, the loops of `ReadClient`, `RouteMessage`, the
receiver's queue, and the network behind it.

A step is one `recv` or one turn of the inner loop of `ReadClient`, so that the
runs include those in which a call of `ReadClient` is not interrupted. Connections
are numbered, since a socket and a user id come back, and every line that is
forwarded is recorded with the numbers of its connections.
-/

import RemoteControl.Server.Inbound
import RemoteControl.Server.Outbound
import RemoteControl.Server.Routing

namespace RemoteControl.SignalingServer

open Lines

/-! ### The way to the server -/

/-- The client's direction of a connection. `sent` are the lines `Send` has put on it completely,
`taken` those `ReadClient` has taken out of its buffer; both are history, and so is `userId`, the
id the connection has logged in with. -/
structure Uplink where
  inFlight : ByteString := []
  sent : List ByteString := []
  /-- A `Send` has failed, and nothing more gets through. -/
  broken : Bool := false
  taken : List ByteString := []
  /-- `ReadClient` has returned false. -/
  dropped : Bool := false
  userId : ByteString := []

namespace Uplink

variable (uplink : Uplink)

/-- `Send` of a line; the newline ends it. -/
def send (line : ByteString) : Uplink :=
  { uplink with
    inFlight := uplink.inFlight ++ line ++ [newline]
    sent := uplink.sent ++ [line] }

/-- `Send` fails after a part of the line. -/
def sendFails (part : ByteString) : Uplink :=
  { uplink with inFlight := uplink.inFlight ++ part, broken := true }

/-- Bytes reach the server. -/
def receive (count : Nat) : Uplink := { uplink with inFlight := uplink.inFlight.drop count }

/-- `ReadClient` takes a line out of its buffer. -/
def take (line userId : ByteString) : Uplink :=
  { uplink with taken := uplink.taken ++ [line], userId }

/-- What was taken, what the server's buffer holds and what is in flight is what was sent. -/
structure Carries (held : ByteString) : Prop where
  stream : ∃ part, join newline uplink.taken ++ held ++ uplink.inFlight =
    join newline uplink.sent ++ part ∧ newline ∉ part ∧ (uplink.broken = false → part = [])
  sent : ∀ line ∈ uplink.sent, newline ∉ line
  taken : ∀ line ∈ uplink.taken, newline ∉ line

variable {uplink} {held : ByteString}

theorem carries_nil : ({} : Uplink).Carries [] where
  stream := ⟨[], by simp [join]⟩
  sent := by simp
  taken := by simp

theorem Carries.send (carries : uplink.Carries held) {line : ByteString}
    (whole : newline ∉ line) (usable : uplink.broken = false) :
    (uplink.send line).Carries held where
  stream := by
    obtain ⟨part, stream, -, complete⟩ := carries.stream
    rw [complete usable, List.append_nil] at stream
    refine ⟨[], ?_, by simp, fun _ => rfl⟩
    simp only [Uplink.send, join_append, ← stream]
    simp [join]
  sent other member := by
    simp only [Uplink.send, List.mem_append, List.mem_singleton] at member
    rcases member with before | rfl
    · exact carries.sent other before
    · exact whole
  taken := carries.taken

theorem Carries.sendFails (carries : uplink.Carries held) {part : ByteString}
    (open_ : newline ∉ part) (usable : uplink.broken = false) :
    (uplink.sendFails part).Carries held where
  stream := by
    obtain ⟨_, stream, -, complete⟩ := carries.stream
    rw [complete usable, List.append_nil] at stream
    refine ⟨part, ?_, open_, by simp [Uplink.sendFails]⟩
    simp only [Uplink.sendFails, ← stream, List.append_assoc]
  sent := carries.sent
  taken := carries.taken

theorem Carries.receive (carries : uplink.Carries held) (count : Nat) :
    (uplink.receive count).Carries (held ++ uplink.inFlight.take count) where
  stream := by
    obtain ⟨part, stream, rest⟩ := carries.stream
    refine ⟨part, ?_, rest⟩
    simp only [Uplink.receive, ← stream, List.append_assoc, List.take_append_drop]
  sent := carries.sent
  taken := carries.taken

theorem Carries.take {line rest : ByteString} (carries : uplink.Carries (line ++ newline :: rest))
    (whole : newline ∉ line) (userId : ByteString) : (uplink.take line userId).Carries rest where
  stream := by
    obtain ⟨part, stream, other⟩ := carries.stream
    refine ⟨part, ?_, other⟩
    simp only [Uplink.take, join_append, ← stream]
    simp [join]
  sent := carries.sent
  taken other member := by
    simp only [Uplink.take, List.mem_append, List.mem_singleton] at member
    rcases member with before | rfl
    · exact carries.taken other before
    · exact whole

/-- The server takes lines from the front of those that were sent. -/
theorem Carries.taken_prefix (carries : uplink.Carries held) : uplink.taken <+: uplink.sent := by
  obtain ⟨part, stream, open_, -⟩ := carries.stream
  have pieces := congrArg (fun text => (cut newline text).1) stream
  simp only [List.append_assoc, cut_join carries.taken, cut_join carries.sent,
    cut_of_notMem open_, List.append_nil] at pieces
  rw [← pieces]
  exact List.prefix_append _ _

/-- When nothing is left on the way, it has taken all of them. -/
theorem Carries.taken_eq (carries : uplink.Carries []) (arrived : uplink.inFlight = []) :
    uplink.taken = uplink.sent := by
  obtain ⟨part, stream, open_, -⟩ := carries.stream
  have pieces := congrArg (fun text => (cut newline text).1) stream
  rw [arrived, List.append_nil, List.append_nil, cut_join_lines carries.taken] at pieces
  simpa only [cut_join carries.sent, cut_of_notMem open_, List.append_nil] using pieces

end Uplink

/-! ### The record of what was forwarded -/

/-- A line `RouteMessage` has queued for another client, with the numbers of the connections it
came from and went to. -/
structure Forward where
  sender : Nat
  receiver : Nat
  senderId : ByteString
  json : ByteString

/-- The sender's id and the text of a routed line. -/
def Outgoing.relayed : Outgoing → Option (ByteString × ByteString)
  | .routed senderId json => some (senderId, json)
  | _ => none

/-- The routed lines a client's queue has accepted. -/
def Client.relayed (client : Client) : List (ByteString × ByteString) :=
  client.queued.filterMap Outgoing.relayed

/-- The client a line is queued for. -/
def Server.recipient (server : Server) (client : Client) (json : ByteString) : Option Socket :=
  match server.decision client json with
  | .deliver target =>
    if server.Forwards client json target then some target else none
  | _ => none

theorem Server.recipient_eq_some {server : Server} {client : Client} {json : ByteString}
    {target : Socket} :
    server.recipient client json = some target ↔ server.Forwards client json target := by
  unfold Server.recipient
  constructor
  · intro found
    split at found
    · split at found
      · cases found
        assumption
      · cases found
    · cases found
  · intro forwards
    rw [Server.decision_eq_deliver.mpr forwards.routable]
    exact if_pos forwards

theorem Client.relayed_queueLine {client : Client} {outgoing : Outgoing}
    (fits : client.accepts outgoing = true) :
    (client.queueLine outgoing).relayed = client.relayed ++ outgoing.relayed.toList := by
  rw [Client.queueLine_of_accepts fits, Client.relayed, List.filterMap_append]
  cases kind : outgoing.relayed <;> simp [kind, Client.relayed]

/-- A line the server makes up relays nothing. -/
theorem unmoved_relayed : Unmoved Outgoing.Own Client.relayed where
  queued client outgoing own := by
    cases fits : client.accepts outgoing with
    | false => rw [Client.queueLine_of_full fits]
    | true =>
      rw [Client.relayed_queueLine fits]
      cases outgoing with
      | routed sender json => cases own
      | _ => exact List.append_nil _
  enrolled _ _ := rfl

/-- A line of a client is added to the queue of its recipient. -/
theorem Server.relayed_routeMessage {server : Server} {sender : Socket} {client : Client}
    (present : server.clients.lookup sender = some client) (rehash : Rehash ByteString Socket)
    (json : ByteString) (place : Socket) :
    (server.routeMessage rehash sender json).observed Client.relayed place =
      (server.observed Client.relayed place).map
        (· ++
          if server.recipient client json = some place then [(client.userId, json)] else []) := by
  cases recipient : server.recipient client json with
  | none =>
    simp only [reduceCtorEq, if_false, List.append_nil, Option.map_id']
    refine unmoved_relayed.routeMessage (fun _ own => own) server rehash sender
      (fun other target found forwards => ?_) place
    rw [present, Option.some_inj] at found
    rw [Server.recipient_eq_some.mpr (found ▸ forwards)] at recipient
    cases recipient
  | some target =>
    have forwards := Server.recipient_eq_some.mp recipient
    obtain ⟨holder, known, fits⟩ := forwards.receiver
    rw [Server.routeMessage_of_forwards present forwards]
    by_cases here : place = target
    · subst here
      simp [Server.observed, Server.lookup_queueLine_self known, known,
        Client.relayed_queueLine fits, Outgoing.relayed]
    · rw [if_neg (by simpa using Ne.symm here),
        Server.observed_congr (Server.lookup_queueLine_of_ne here _ _)]
      simp

/-! ### User ids -/

theorem Server.observed_userId_queueLine (server : Server) (socket : Socket) (outgoing : Outgoing)
    (place : Socket) :
    (server.queueLine socket outgoing).1.observed Client.userId place =
      server.observed Client.userId place := by
  have lookup := server.lookup_queueLine socket outgoing place
  split at lookup
  · rename_i here
    subst here
    exact Server.observed_of_map lookup fun client => client.queueLine_userId outgoing
  · exact Server.observed_congr lookup

theorem Server.observed_modify {β : Type*} {observe : Client → β} (server : Server)
    (socket : Socket) (update : Client → Client)
    (keeps : ∀ client, observe (update client) = observe client) (place : Socket) :
    Server.observed { server with clients := Table.modify socket update server.clients } observe
      place = server.observed observe place := by
  have lookup := Table.lookup_modify socket update server.clients place
  split at lookup
  · rename_i here
    subst here
    exact Server.observed_of_map lookup keeps
  · exact Server.observed_congr lookup

/-- A line changes no user id but that of its sender, and that one only when it has none. -/
theorem Server.observed_userId_routeMessage (server : Server) (rehash : Rehash ByteString Socket)
    (sender : Socket) (json : ByteString) {place : Socket}
    (keeps : place = sender → server.observed Client.userId sender ≠ some []) :
    (server.routeMessage rehash sender json).observed Client.userId place =
      server.observed Client.userId place := by
  cases present : server.clients.lookup sender with
  | none => rw [Server.routeMessage_of_absent present]
  | some client =>
    cases decided : server.decision client json with
    | reply outgoing =>
      rw [Server.routeMessage_eq present, decided, Server.carryOut,
        Server.observed_userId_queueLine]
    | deliver target =>
      rw [Server.routeMessage_eq present, decided, Server.carryOut]
      split
      · rw [Server.observed_userId_queueLine]
      · rw [Server.refuse, Server.observed_userId_queueLine, Server.observed_userId_queueLine]
    | login userId =>
      have loggedOut := (Server.decision_eq_login decided).1
      have other : place ≠ sender := fun same => keeps same (by simp [Server.observed, present,
        loggedOut])
      rcases Server.lookup_routeMessage_of_not_loggedIn present loggedOut rehash json other with
        same | ⟨_, -, -, heard⟩
      · exact Server.observed_congr same
      · exact Server.observed_of_map heard fun client => client.hear_userId _ true

/-- A client that is logged in keeps its user id, and every client does until it sends a line. -/
theorem Server.observed_userId_next {server : Server} {socket : Socket}
    (present : socket ∈ server.clients) {action : Action} (fresh : server.allowed action)
    (stays : action ≠ .disconnect socket)
    (keeps : server.observed Client.userId socket ≠ some [] ∨
      ∀ json rehash, action ≠ .route socket json rehash) :
    (server.next action).observed Client.userId socket = server.observed Client.userId socket := by
  cases action with
  | accept accepted =>
    rcases server.acceptClient_cases accepted with same | ⟨-, opened⟩
    · rw [Server.next, same]
    · rw [Server.next, opened]
      refine Server.observed_congr ?_
      show (Table.emplace _ _ _ _).lookup socket = _
      rw [Table.lookup_emplace fresh, if_neg]
      rintro rfl
      exact fresh present
  | receive other buffer =>
    exact server.observed_modify other (fun client => { client with receiveBuffer := buffer })
      (fun _ => rfl) socket
  | write other results =>
    refine server.observed_modify other (fun client => (client.writeClient results).1)
      (fun client => ?_) socket
    obtain ⟨buffer, written, -⟩ := client.writeClient_spec results
    rw [written]
  | route other json rehash =>
    refine server.observed_userId_routeMessage rehash other json fun same => ?_
    subst same
    exact keeps.resolve_right fun never => never json rehash rfl
  | disconnect other =>
    cases there : server.clients.lookup other with
    | none => rw [Server.next, Server.disconnectClient_of_absent there]
    | some client =>
      have lookup := Server.lookup_disconnectClient there socket
      rw [if_neg fun here => stays (by rw [here])] at lookup
      refine Server.observed_of_map lookup fun entry => ?_
      split
      · exact entry.hear_userId _ false
      · rfl

/-! ### Transport -/

/-- The network with the clients' directions of its connections. `connection` is the number of
the connection on an open socket, `opened` how many there have been. -/
structure Transport where
  network : Network := {}
  opened : Nat := 0
  connection : Socket → Nat := fun _ => 0
  uplinks : Nat → Uplink := fun _ => {}
  forwards : List Forward := []

/-- One step of the transport. -/
inductive Transport.Action where
  | accept (accepted : Accepted)
  | send (socket : Socket) (line : ByteString)
  | sendFails (socket : Socket) (part : ByteString)
  /-- One `recv` of `ReadClient`, with the test of the buffer's size behind it. -/
  | receive (socket : Socket) (count : Nat)
  /-- `recv` returns zero or fails. -/
  | receiveFails (socket : Socket)
  /-- One turn of the inner loop of `ReadClient`. -/
  | take (socket : Socket) (rehash : Rehash ByteString Socket)
  | write (socket : Socket) (results : List SendResult)
  | disconnect (socket : Socket)
  /-- A client receives bytes, on an open or a closed connection. -/
  | deliver (socket : Socket) (count : Nat)
  | deliverClosed (index count : Nat)

namespace Transport

variable (transport : Transport)

def server : Server := transport.network.server

/-- The client's direction of the connection on a socket. -/
def uplink (socket : Socket) : Uplink := transport.uplinks (transport.connection socket)

def setUplink (socket : Socket) (uplink : Uplink) : Transport :=
  { transport with
    uplinks := Function.update transport.uplinks (transport.connection socket) uplink }

/-- The server does something. -/
def serve (action : SignalingServer.Action) : Transport :=
  { transport with network := transport.network.next (.serve action) }

/-- A connection is numbered. -/
def enlist (socket : Socket) : Transport :=
  { transport with
    opened := transport.opened + 1
    connection := Function.update transport.connection socket transport.opened }

/-- A message is routed, and recorded when it is forwarded. -/
def route (socket : Socket) (rehash : Rehash ByteString Socket) (message : ByteString) :
    Transport :=
  match transport.server.clients.lookup socket with
  | none => transport
  | some client =>
    { transport.serve (.route socket message rehash) with
      forwards := transport.forwards ++
        ((transport.server.recipient client message).map fun target =>
          ⟨transport.connection socket, transport.connection target, client.userId,
            message⟩).toList }

/-- The id of the client on a socket. -/
def userIdOf (socket : Socket) : ByteString :=
  (transport.server.observed Client.userId socket).getD []

/-- The body of the inner loop of `ReadClient`. -/
def takeLine (socket : Socket) (rehash : Rehash ByteString Socket) (line rest : ByteString) :
    Transport :=
  let stored := transport.serve (.receive socket rest)
  let message := stripReturn line
  let routed := if message = [] then stored else stored.route socket rehash message
  routed.setUplink socket ((routed.uplink socket).take line (routed.userIdOf socket))

def next : Action → Transport
  | .accept accepted =>
    if accepted.socket ∈ (transport.server.next (.accept accepted)).clients then
      (transport.serve (.accept accepted)).enlist accepted.socket
    else transport.serve (.accept accepted)
  | .send socket line => transport.setUplink socket ((transport.uplink socket).send line)
  | .sendFails socket part => transport.setUplink socket ((transport.uplink socket).sendFails part)
  | .receive socket count =>
    let buffer := transport.server.receiveBuffer socket ++
      (transport.uplink socket).inFlight.take count
    (transport.serve (.receive socket buffer)).setUplink socket
      { (transport.uplink socket).receive count with dropped := maxMessageSize < buffer.length }
  | .receiveFails socket =>
    transport.setUplink socket { transport.uplink socket with dropped := true }
  | .take socket rehash =>
    let buffer := transport.server.receiveBuffer socket
    match ListSearch.find buffer [newline] 0 with
    | none => transport
    | some position =>
      transport.takeLine socket rehash (buffer.take position) (buffer.drop (position + 1))
  | .write socket results => transport.serve (.write socket results)
  | .disconnect socket => transport.serve (.disconnect socket)
  | .deliver socket count =>
    { transport with network := transport.network.next (.receive socket count) }
  | .deliverClosed index count =>
    { transport with network := transport.network.next (.receiveClosed index count) }

/-- `ReadClient` receives only with an empty line buffer and never after it has returned false. A
client sends lines without newlines, and nothing on a connection that a `Send` has failed on. -/
def Allowed : Action → Prop
  | .accept accepted => transport.server.allowed (.accept accepted)
  | .send socket line =>
    socket ∈ transport.server.clients ∧ (transport.uplink socket).broken = false ∧ newline ∉ line
  | .sendFails socket part =>
    socket ∈ transport.server.clients ∧ (transport.uplink socket).broken = false ∧ newline ∉ part
  | .receive socket count =>
    socket ∈ transport.server.clients ∧ (transport.uplink socket).dropped = false ∧
      newline ∉ transport.server.receiveBuffer socket ∧
      0 < count ∧ count ≤ readChunkSize ∧ count ≤ (transport.uplink socket).inFlight.length
  | .receiveFails socket =>
    socket ∈ transport.server.clients ∧ (transport.uplink socket).dropped = false ∧
      newline ∉ transport.server.receiveBuffer socket
  | .take socket _ =>
    socket ∈ transport.server.clients ∧ (transport.uplink socket).dropped = false
  | .write _ _ | .disconnect _ | .deliver _ _ | .deliverClosed _ _ => True

instance : ∀ action, Decidable (transport.Allowed action)
  | .accept accepted => inferInstanceAs (Decidable (transport.server.allowed (.accept accepted)))
  | .send _ _ | .sendFails _ _ | .receive _ _ | .receiveFails _ | .take _ _ =>
    inferInstanceAs (Decidable (_ ∧ _))
  | .write _ _ | .disconnect _ | .deliver _ _ | .deliverClosed _ _ =>
    inferInstanceAs (Decidable True)

end Transport

/-- Client programs, the network and the server, started without connections. -/
def transportSystem : Transition.System Transport Transport.Action where
  initial transport := transport = {}
  allowed := Transport.Allowed
  next := Transport.next

instance : ∀ state action, Decidable (transportSystem.allowed state action) :=
  fun state action => inferInstanceAs (Decidable (state.Allowed action))

end RemoteControl.SignalingServer

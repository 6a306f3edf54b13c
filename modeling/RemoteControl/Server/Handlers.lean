/-
This file models the signaling server: its two global tables, the client
record, and every handler between `QueueLine` and the body of the main loop.

A line is queued as an `Outgoing`, which says why it is sent and determines its
text. `Client.queued` and `Server.refusals` are history: `QueueLine` appends to
the first exactly when it appends to the send buffer, counts in the second
exactly when it returns false, and no handler reads either. Sockets are
numbers; what the operating system answers (`accept`, `recv`, `send`, the
order an insertion leaves a hash table in) is an argument.
-/

import RemoteControl.Library.Lines
import RemoteControl.Library.Table
import RemoteControl.Signaling.Protocol

namespace RemoteControl.SignalingServer

open ListSearch

/-! ### Limits -/

/-- `kReadChunkSize`. -/
def readChunkSize : Nat := 16 * 1024

/-- `kMaxMessageSize`. -/
def maxMessageSize : Nat := 4 * 1024 * 1024

/-- `kMaxPendingSendBytes`. -/
def maxPendingSendBytes : Nat := 4 * 1024 * 1024

/-- `FD_SETSIZE`, which the source sets on Windows and Linux defines to the same value. -/
def fdSetSize : Nat := 1024

/-- `kMaxClients`. -/
def maxClients : Nat := if fdSetSize > 32 then fdSetSize - 16 else 16

/-- Subtraction of two `size_t`, which wraps below zero. -/
def sizeSub (minuend subtrahend : Nat) : Nat := (((minuend : Int) - subtrahend) % 2 ^ 64).toNat

/-! ### Lines the server sends -/

/-- The error replies. -/
inductive ErrorCode where
  | loginFailed
  | notLoggedIn
  | unsupportedMessage
  | senderFieldForbidden
  | targetOffline (userId : ByteString)
  | routeFailed
  deriving DecidableEq

def ErrorCode.line : ErrorCode → ByteString
  | .loginFailed => bytes "\x7b\"type\":\"error\",\"code\":\"login_failed\"\x7d"
  | .notLoggedIn => bytes "\x7b\"type\":\"error\",\"code\":\"not_logged_in\"\x7d"
  | .unsupportedMessage => bytes "\x7b\"type\":\"error\",\"code\":\"unsupported_message\"\x7d"
  | .senderFieldForbidden => bytes "\x7b\"type\":\"error\",\"code\":\"sender_field_forbidden\"\x7d"
  | .targetOffline userId =>
    bytes "\x7b\"type\":\"error\",\"code\":\"target_offline\",\"userId\":\"" ++ escapeJson userId ++
      bytes "\"\x7d"
  | .routeFailed => bytes "\x7b\"type\":\"error\",\"code\":\"route_failed\"\x7d"

/-- The text of a presence snapshot that lists the given users. -/
def snapshotLine (users : List ByteString) : ByteString :=
  bytes "\x7b\"type\":\"presence.snapshot\",\"users\":[" ++
    List.intercalate [comma]
      (users.map fun userId => bytes "\x7b\"userId\":\"" ++ escapeJson userId ++ bytes "\"\x7d") ++
    bytes "]\x7d"

/-- The text of a presence change. -/
def presenceLine (userId : ByteString) (online : Bool) : ByteString :=
  bytes "\x7b\"type\":\"presence.changed\",\"userId\":\"" ++ escapeJson userId ++
    bytes "\",\"online\":" ++ (if online then bytes "true" else bytes "false") ++ bytes "\x7d"

/-- The member `AddSender` inserts. -/
def senderMember (sender : ByteString) : ByteString :=
  bytes ",\"fromUserId\":\"" ++ escapeJson sender ++ bytes "\""

/-- `AddSender`: the sender's id before the last closing brace; nothing without a brace. -/
def addSender (json sender : ByteString) : ByteString :=
  match lastIndexOf closeBrace json with
  | none => []
  | some position => insertAt json position (senderMember sender)

/-- A line the server sends, with what it is about. -/
inductive Outgoing where
  | pong
  | error (code : ErrorCode)
  | snapshot (users : List ByteString)
  | presence (userId : ByteString) (online : Bool)
  | routed (sender json : ByteString)
  deriving DecidableEq

def Outgoing.line : Outgoing → ByteString
  | .pong => bytes "\x7b\"type\":\"pong\"\x7d"
  | .error code => code.line
  | .snapshot users => snapshotLine users
  | .presence userId online => presenceLine userId online
  | .routed sender json => addSender json sender

/-! ### State -/

/-- A socket handle. -/
abbrev Socket := Nat

/-- `Client`, with the history of the lines its queue has accepted. -/
structure Client where
  socket : Socket
  userId : ByteString := []
  receiveBuffer : ByteString := []
  sendBuffer : ByteString := []
  queued : List Outgoing := []
  deriving DecidableEq

/-- The global tables `g_clients` and `g_users`, and how often `QueueLine` has returned false. -/
structure Server where
  clients : Table Socket Client := ∅
  users : Table ByteString Socket := ∅
  refusals : Nat := 0

/-- Whether a user id is one `RegisterClient` admits. -/
def Registrable (userId : ByteString) : Prop :=
  userId ≠ [] ∧ userId.length ≤ 128 ∧
    ∀ byte ∈ userId, 0x20 ≤ byte ∧ byte ≠ quote ∧ byte ≠ backslash

instance (userId : ByteString) : Decidable (Registrable userId) :=
  have := List.decidableBAll (fun byte => 0x20 ≤ byte ∧ byte ≠ quote ∧ byte ≠ backslash) userId
  inferInstanceAs (Decidable (userId ≠ [] ∧ userId.length ≤ 128 ∧ _))

/-! ### Queueing -/

/-- The test of `QueueLine`: the line and its newline fit into the send buffer. -/
def Client.accepts (client : Client) (outgoing : Outgoing) : Bool :=
  outgoing.line.length + 1 ≤ sizeSub maxPendingSendBytes client.sendBuffer.length

/-- `QueueLine` on one client: all of the line or nothing. -/
def Client.queueLine (client : Client) (outgoing : Outgoing) : Client :=
  if client.accepts outgoing then
    { client with
      sendBuffer := client.sendBuffer ++ outgoing.line ++ [newline]
      queued := client.queued ++ [outgoing] }
  else client

/-- `QueueLine` on a client of the table, and its result. -/
def Server.queueLine (server : Server) (socket : Socket) (outgoing : Outgoing) : Server × Bool :=
  match server.clients.lookup socket with
  | none => (server, false)
  | some client =>
    ({ server with
        clients := Table.modify socket (·.queueLine outgoing) server.clients
        refusals := if client.accepts outgoing then server.refusals else server.refusals + 1 },
      client.accepts outgoing)

/-- The users a snapshot lists, in the iteration order of `g_users`. -/
def Server.snapshotUsers (server : Server) (currentUser : ByteString) : List ByteString :=
  server.users.keys.filter (· ≠ currentUser)

/-- `BuildPresenceSnapshot`. -/
def Server.buildPresenceSnapshot (server : Server) (currentUser : ByteString) : Outgoing :=
  .snapshot (server.snapshotUsers currentUser)

/-- The clients `BroadcastPresence` addresses. -/
def Client.hears (client : Client) (userId : ByteString) : Bool :=
  client.userId ≠ [] ∧ client.userId ≠ userId

/-- `BroadcastPresence`. -/
def Server.broadcastPresence (server : Server) (userId : ByteString) (online : Bool) : Server :=
  { server with
    clients := Table.mapValues
      (fun _ client =>
        if client.hears userId then client.queueLine (.presence userId online) else client)
      server.clients
    refusals := server.refusals + (Table.values server.clients).countP fun client =>
      client.hears userId && !client.accepts (.presence userId online) }

/-! ### Logging in and routing -/

/-- `RegisterClient`. The tables are updated before the snapshot is queued, and stay updated
when it does not fit. -/
def Server.registerClient (server : Server) (rehash : Rehash ByteString Socket) (socket : Socket)
    (userId : ByteString) : Server × Bool :=
  match server.clients.lookup socket with
  | none => (server, false)
  | some client =>
    if userId = [] ∨ 128 < userId.length ∨ userId ∈ server.users then (server, false)
    else if ∃ byte ∈ userId, byte < 0x20 ∨ byte = quote ∨ byte = backslash then (server, false)
    else
      let registered : Server :=
        { server with
          clients := Table.modify socket (fun client => { client with userId }) server.clients
          users := Table.emplace rehash userId client.socket server.users }
      let (queued, fits) := registered.queueLine socket (registered.buildPresenceSnapshot userId)
      if fits then (queued.broadcastPresence userId true, true) else (queued, false)

/-- The client a user id resolves to: `g_users`, then `g_clients`. -/
def Server.resolve (server : Server) (userId : ByteString) : Option Socket :=
  match server.users.lookup userId with
  | none => none
  | some socket => if socket ∈ server.clients then some socket else none

/-- Queue an error reply. -/
def Server.refuse (server : Server) (socket : Socket) (code : ErrorCode) : Server :=
  (server.queueLine socket (.error code)).1

/-- `RouteMessage`. -/
def Server.routeMessage (server : Server) (rehash : Rehash ByteString Socket) (sender : Socket)
    (json : ByteString) : Server :=
  match server.clients.lookup sender with
  | none => server
  | some client =>
    let type := stringField json (bytes "type")
    if type = bytes "ping" then (server.queueLine sender .pong).1
    else if type = bytes "login" then
      if client.userId ≠ [] then server.refuse sender .loginFailed
      else
        let (registered, accepted) :=
          server.registerClient rehash sender (stringField json (bytes "userId"))
        if accepted then registered else registered.refuse sender .loginFailed
    else if client.userId = [] then server.refuse sender .notLoggedIn
    else if type ∉ callTypes then server.refuse sender .unsupportedMessage
    else if stringField json (bytes "fromUserId") ≠ [] then
      server.refuse sender .senderFieldForbidden
    else
      let targetId := stringField json (bytes "toUserId")
      match server.resolve targetId with
      | none => server.refuse sender (.targetOffline targetId)
      | some target =>
        if addSender json client.userId = [] then server.refuse sender .routeFailed
        else
          let (queued, fits) := server.queueLine target (.routed client.userId json)
          if fits then queued else queued.refuse sender .routeFailed

/-! ### Connections -/

/-- `DisconnectClient`. -/
def Server.disconnectClient (server : Server) (socket : Socket) : Server :=
  match server.clients.lookup socket with
  | none => server
  | some client =>
    let users :=
      if client.userId ≠ [] ∧ server.users.lookup client.userId = some socket then
        server.users.erase client.userId
      else server.users
    let removed : Server := { server with clients := server.clients.erase socket, users }
    if client.userId ≠ [] then removed.broadcastPresence client.userId false else removed

/-- One connection `accept` returns: its socket, and whether it can be made nonblocking and
lies below `FD_SETSIZE`. -/
structure Accepted where
  socket : Socket
  usable : Bool
  rehash : Rehash Socket Client

/-- One turn of the loop in `AcceptClients`. -/
def Server.acceptClient (server : Server) (accepted : Accepted) : Server :=
  if maxClients ≤ Table.size server.clients ∨ accepted.usable = false then server
  else
    { server with
      clients := Table.emplace accepted.rehash accepted.socket { socket := accepted.socket }
        server.clients }

/-- `AcceptClients`, for the connections `accept` returns before it would block. -/
def Server.acceptClients (server : Server) (accepted : List Accepted) : Server :=
  accepted.foldl Server.acceptClient server

end RemoteControl.SignalingServer

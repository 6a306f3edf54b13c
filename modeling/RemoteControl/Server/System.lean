/-
This file assembles the handlers into the server as a system that runs. Its
actions are what the main loop does to one client at a time, with the answers of
the operating system as arguments; any order of actions is a run, so whatever
holds of every run holds of every order in which `select` reports sockets and
of every delay between a failed read and the deferred disconnect.

`RouteMessage` decides about a line before it touches a queue, and only three
decisions exist: a reply to the sender, a login, a delivery. Every later
invariant is proved from that split and from what each handler does to a lookup.
-/

import RemoteControl.Library.Transition
import RemoteControl.Server.Handlers

namespace RemoteControl.SignalingServer

open ListSearch

/-! ### Writing -/

/-- What `send` answers, until it would block. -/
inductive SendResult where
  | sent (count : Nat)
  | failed

/-- The bytes `WriteClient` offers to one `send`. -/
def Client.requested (client : Client) : Nat := min client.sendBuffer.length 0x7fffffff

/-- `WriteClient`: the client, the bytes that left its queue, and the result. The answers are
those before `send` would block; it takes at most what it was offered. -/
def Client.writeClient (client : Client) : List SendResult → Client × ByteString × Bool
  | [] => (client, [], true)
  | result :: rest =>
    if client.sendBuffer = [] then (client, [], true)
    else
      match result with
      | .failed => (client, [], false)
      | .sent count =>
        if count = 0 then (client, [], false)
        else
          let taken := min count client.requested
          let (written, bytes, alive) := Client.writeClient
            { client with sendBuffer := client.sendBuffer.drop taken } rest
          (written, client.sendBuffer.take taken ++ bytes, alive)

/-- `WriteClient` moves the front of the queue to the network and touches nothing else. -/
theorem Client.writeClient_spec (client : Client) (results : List SendResult) :
    ∃ buffer, (client.writeClient results).1 = { client with sendBuffer := buffer } ∧
      client.sendBuffer = (client.writeClient results).2.1 ++ buffer := by
  induction results generalizing client with
  | nil => exact ⟨client.sendBuffer, rfl, rfl⟩
  | cons result rest inductionHypothesis =>
    unfold Client.writeClient
    split
    · exact ⟨client.sendBuffer, rfl, rfl⟩
    · cases result with
      | failed => exact ⟨client.sendBuffer, rfl, rfl⟩
      | sent count =>
        simp only
        split
        · exact ⟨client.sendBuffer, rfl, rfl⟩
        · obtain ⟨buffer, written, split⟩ := inductionHypothesis
            { client with sendBuffer := client.sendBuffer.drop (min count client.requested) }
          refine ⟨buffer, written, ?_⟩
          rw [List.append_assoc, ← split, List.take_append_drop]

/-! ### The system -/

/-- One thing the main loop does. -/
inductive Action where
  /-- `accept` returned a connection. -/
  | accept (accepted : Accepted)
  /-- `ReadClient` left this text in the client's buffer. -/
  | receive (socket : Socket) (buffer : ByteString)
  /-- `RouteMessage` on a line of the client. -/
  | route (socket : Socket) (json : ByteString) (rehash : Rehash ByteString Socket)
  /-- `WriteClient`. -/
  | write (socket : Socket) (results : List SendResult)
  /-- `DisconnectClient`. -/
  | disconnect (socket : Socket)

/-- The operating system never accepts a connection on a socket that is still open. -/
def Server.allowed (server : Server) : Action → Prop
  | .accept accepted => accepted.socket ∉ server.clients
  | _ => True

/-- What an action does. -/
def Server.next (server : Server) : Action → Server
  | .accept accepted => server.acceptClient accepted
  | .receive socket buffer =>
    { server with
      clients := Table.modify socket (fun client => { client with receiveBuffer := buffer })
        server.clients }
  | .route socket json rehash => server.routeMessage rehash socket json
  | .write socket results =>
    { server with
      clients := Table.modify socket (fun client => (client.writeClient results).1)
        server.clients }
  | .disconnect socket => server.disconnectClient socket

/-- The signaling server, started with empty tables. -/
def system : Transition.System Server Action where
  initial server := server = {}
  allowed := Server.allowed
  next := Server.next

instance (server : Server) : ∀ action, Decidable (server.allowed action)
  | .accept accepted => inferInstanceAs (Decidable (accepted.socket ∉ server.clients))
  | .receive _ _ | .route _ _ _ | .write _ _ | .disconnect _ => isTrue trivial

instance (server : Server) (action : Action) : Decidable (system.allowed server action) :=
  inferInstanceAs (Decidable (server.allowed action))

/-- Whatever the allowed actions of the environment lead to is reachable. -/
theorem reachable_run {actions : List Action} (allows : system.Allows {} actions) :
    system.Reachable (system.run {} actions) := (Transition.System.Reachable.start rfl).run allows

/-- Two clients connect and log in with the lines their programs build. -/
def logins (first second : ByteString) : List Action :=
  [.accept ⟨1, true, .keep⟩, .accept ⟨2, true, .keep⟩,
    .route 1 (SignalingClient.loginLine first) .keep,
    .route 2 (SignalingClient.loginLine second) .keep]

/-- A call between two users: one offer is delivered, then the callee hangs up. -/
def shortCall (first second : ByteString) : List Action :=
  logins first second ++
    [.route 1 (SignalingProtocol.offer second (bytes "v=0")) .keep,
      .route 2 (SignalingProtocol.hangup first) .keep]

/-! ### What queueing does -/

theorem Client.queueLine_of_accepts {client : Client} {outgoing : Outgoing}
    (fits : client.accepts outgoing = true) :
    client.queueLine outgoing =
      { client with
        sendBuffer := client.sendBuffer ++ outgoing.line ++ [newline]
        queued := client.queued ++ [outgoing] } := if_pos fits

theorem Client.queueLine_of_full {client : Client} {outgoing : Outgoing}
    (full : client.accepts outgoing = false) : client.queueLine outgoing = client :=
  if_neg (by rw [full]; exact Bool.false_ne_true)

@[simp]
theorem Client.queueLine_socket (client : Client) (outgoing : Outgoing) :
    (client.queueLine outgoing).socket = client.socket := by
  rw [Client.queueLine]
  split <;> rfl

@[simp]
theorem Client.queueLine_userId (client : Client) (outgoing : Outgoing) :
    (client.queueLine outgoing).userId = client.userId := by
  rw [Client.queueLine]
  split <;> rfl

theorem Server.lookup_queueLine (server : Server) (socket : Socket) (outgoing : Outgoing)
    (other : Socket) :
    (server.queueLine socket outgoing).1.clients.lookup other =
      if other = socket then (server.clients.lookup other).map (·.queueLine outgoing)
      else server.clients.lookup other := by
  rw [Server.queueLine]
  split
  · rename_i absent
    split
    · rename_i same
      rw [same, absent]
      rfl
    · rfl
  · exact Table.lookup_modify _ _ _ _

theorem Server.lookup_queueLine_self {server : Server} {socket : Socket} {client : Client}
    (present : server.clients.lookup socket = some client) (outgoing : Outgoing) :
    (server.queueLine socket outgoing).1.clients.lookup socket =
      some (client.queueLine outgoing) := by
  rw [Server.lookup_queueLine, if_pos rfl, present]
  rfl

theorem Server.lookup_queueLine_of_ne {socket other : Socket} (different : other ≠ socket)
    (server : Server) (outgoing : Outgoing) :
    (server.queueLine socket outgoing).1.clients.lookup other = server.clients.lookup other := by
  rw [Server.lookup_queueLine, if_neg different]

/-- A line that does not fit leaves every client as it was. -/
theorem Server.lookup_queueLine_of_full {server : Server} {socket : Socket} {client : Client}
    (present : server.clients.lookup socket = some client) {outgoing : Outgoing}
    (full : client.accepts outgoing = false) (place : Socket) :
    (server.queueLine socket outgoing).1.clients.lookup place = server.clients.lookup place := by
  rw [Server.lookup_queueLine]
  split
  · rename_i here
    rw [here, present, Option.map_some, Client.queueLine_of_full full]
  · rfl

@[simp]
theorem Server.queueLine_users (server : Server) (socket : Socket) (outgoing : Outgoing) :
    (server.queueLine socket outgoing).1.users = server.users := by
  rw [Server.queueLine]
  split <;> rfl

@[simp]
theorem Server.size_queueLine (server : Server) (socket : Socket) (outgoing : Outgoing) :
    Table.size (server.queueLine socket outgoing).1.clients = Table.size server.clients := by
  rw [Server.queueLine]
  split
  · rfl
  · exact Table.size_modify _ _ _

theorem Server.queueLine_result {server : Server} {socket : Socket} {client : Client}
    (present : server.clients.lookup socket = some client) (outgoing : Outgoing) :
    (server.queueLine socket outgoing).2 = client.accepts outgoing := by
  rw [Server.queueLine, present]

/-- A call is counted when it returns false. -/
theorem Server.refusals_queueLine {server : Server} {socket : Socket} {client : Client}
    (present : server.clients.lookup socket = some client) (outgoing : Outgoing) :
    (server.queueLine socket outgoing).1.refusals =
      if client.accepts outgoing then server.refusals else server.refusals + 1 := by
  rw [Server.queueLine, present]

theorem Server.refusals_le_queueLine (server : Server) (socket : Socket) (outgoing : Outgoing) :
    server.refusals ≤ (server.queueLine socket outgoing).1.refusals := by
  rw [Server.queueLine]
  split
  · exact Nat.le_refl _
  · simp only
    split
    · exact Nat.le_refl _
    · exact Nat.le_succ _

/-! ### What a broadcast does -/

/-- One client's part of a broadcast. -/
def Client.hear (client : Client) (userId : ByteString) (online : Bool) : Client :=
  if client.hears userId then client.queueLine (.presence userId online) else client

@[simp]
theorem Client.hear_socket (client : Client) (userId : ByteString) (online : Bool) :
    (client.hear userId online).socket = client.socket := by
  rw [Client.hear]
  split
  · exact client.queueLine_socket _
  · rfl

@[simp]
theorem Client.hear_userId (client : Client) (userId : ByteString) (online : Bool) :
    (client.hear userId online).userId = client.userId := by
  rw [Client.hear]
  split
  · exact client.queueLine_userId _
  · rfl

theorem Server.lookup_broadcastPresence (server : Server) (userId : ByteString) (online : Bool)
    (socket : Socket) :
    (server.broadcastPresence userId online).clients.lookup socket =
      (server.clients.lookup socket).map fun client => client.hear userId online :=
  Table.lookup_mapValues _ _ _

@[simp]
theorem Server.broadcastPresence_users (server : Server) (userId : ByteString) (online : Bool) :
    (server.broadcastPresence userId online).users = server.users := rfl

@[simp]
theorem Server.size_broadcastPresence (server : Server) (userId : ByteString) (online : Bool) :
    Table.size (server.broadcastPresence userId online).clients = Table.size server.clients :=
  Table.size_mapValues _ _

/-- A broadcast without a refusal reached every client it addresses. -/
theorem Server.accepts_of_broadcastPresence {server : Server} {userId : ByteString} {online : Bool}
    (smooth : (server.broadcastPresence userId online).refusals = 0) {socket : Socket}
    {client : Client} (present : server.clients.lookup socket = some client)
    (hears : client.hears userId = true) : client.accepts (.presence userId online) = true := by
  have counted : server.refusals + (Table.values server.clients).countP (fun client =>
      client.hears userId && !client.accepts (.presence userId online)) = 0 := smooth
  have none := List.countP_eq_zero.mp (Nat.add_eq_zero_iff.mp counted).2
  have entry : client ∈ Table.values server.clients :=
    List.mem_map.mpr ⟨_, AList.mem_lookup_iff.mp (Option.mem_def.mpr present), rfl⟩
  have refused := none client entry
  rw [hears, Bool.true_and, Bool.not_eq_true, Bool.not_eq_false'] at refused
  exact refused

end RemoteControl.SignalingServer

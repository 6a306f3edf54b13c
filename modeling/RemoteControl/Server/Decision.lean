/-
This file splits `RouteMessage` into what it decides about a line and how it
carries the decision out. The decision reads the server and the line and touches
nothing; carrying it out is one of three small programs. Every statement about a
line is proved on the decision first and then on the one program it selects.
-/

import RemoteControl.Server.System

namespace RemoteControl.SignalingServer

open ListSearch

/-! ### The decision about a line -/

/-- What `RouteMessage` does with a line. -/
inductive Decision where
  /-- Answer the sender and nobody else. -/
  | reply (outgoing : Outgoing)
  /-- Register the sender under a user id. -/
  | login (userId : ByteString)
  /-- Forward the line, with its sender, to a client. -/
  | deliver (target : Socket)
  deriving DecidableEq

/-- The tests of `RouteMessage`, in the order of the source. -/
def Server.decision (server : Server) (client : Client) (json : ByteString) : Decision :=
  let type := stringField json (bytes "type")
  if type = bytes "ping" then .reply .pong
  else if type = bytes "login" then
    if client.userId ≠ [] then .reply (.error .loginFailed)
    else .login (stringField json (bytes "userId"))
  else if client.userId = [] then .reply (.error .notLoggedIn)
  else if type ∉ callTypes then .reply (.error .unsupportedMessage)
  else if stringField json (bytes "fromUserId") ≠ [] then .reply (.error .senderFieldForbidden)
  else
    match server.resolve (stringField json (bytes "toUserId")) with
    | none => .reply (.error (.targetOffline (stringField json (bytes "toUserId"))))
    | some target =>
      if addSender json client.userId = [] then .reply (.error .routeFailed) else .deliver target

/-- Carry a decision out for a line of the given sender. -/
def Server.carryOut (server : Server) (rehash : Rehash ByteString Socket) (sender : Socket)
    (senderId json : ByteString) : Decision → Server
  | .reply outgoing => (server.queueLine sender outgoing).1
  | .login userId =>
    if (server.registerClient rehash sender userId).2 then
      (server.registerClient rehash sender userId).1
    else (server.registerClient rehash sender userId).1.refuse sender .loginFailed
  | .deliver target =>
    if (server.queueLine target (.routed senderId json)).2 then
      (server.queueLine target (.routed senderId json)).1
    else (server.queueLine target (.routed senderId json)).1.refuse sender .routeFailed

theorem Server.routeMessage_of_absent {server : Server} {sender : Socket}
    (absent : server.clients.lookup sender = none) (rehash : Rehash ByteString Socket)
    (json : ByteString) : server.routeMessage rehash sender json = server := by
  rw [Server.routeMessage, absent]

/-- `RouteMessage` carries out its decision. -/
theorem Server.routeMessage_eq {server : Server} {sender : Socket} {client : Client}
    (present : server.clients.lookup sender = some client) (rehash : Rehash ByteString Socket)
    (json : ByteString) :
    server.routeMessage rehash sender json =
      server.carryOut rehash sender client.userId json (server.decision client json) := by
  rw [Server.routeMessage, present, Server.decision]
  simp only
  split
  · rfl
  split
  · split <;> rfl
  split
  · rfl
  split
  · rfl
  split
  · rfl
  cases server.resolve (stringField json (bytes "toUserId")) with
  | none => rfl
  | some target =>
    simp only
    split <;> rfl

/-- A reply is a pong or an error. -/
theorem Server.decision_eq_reply {server : Server} {client : Client} {json : ByteString}
    {outgoing : Outgoing} (decided : server.decision client json = .reply outgoing) :
    outgoing = .pong ∨ ∃ code, outgoing = .error code := by
  rw [Server.decision] at decided
  split at decided
  · cases decided
    exact Or.inl rfl
  split at decided
  · split at decided
    · cases decided
      exact Or.inr ⟨_, rfl⟩
    · cases decided
  split at decided
  · cases decided
    exact Or.inr ⟨_, rfl⟩
  split at decided
  · cases decided
    exact Or.inr ⟨_, rfl⟩
  split at decided
  · cases decided
    exact Or.inr ⟨_, rfl⟩
  split at decided
  · cases decided
    exact Or.inr ⟨_, rfl⟩
  split at decided
  · cases decided
    exact Or.inr ⟨_, rfl⟩
  · cases decided

/-- A line that is delivered passed every test. -/
structure Server.Routable (server : Server) (client : Client) (json : ByteString)
    (target : Socket) : Prop where
  loggedIn : client.userId ≠ []
  callType : stringField json (bytes "type") ∈ callTypes
  noSender : stringField json (bytes "fromUserId") = []
  resolves : server.resolve (stringField json (bytes "toUserId")) = some target
  braced : addSender json client.userId ≠ []

instance (server : Server) (client : Client) (json : ByteString) (target : Socket) :
    Decidable (server.Routable client json target) :=
  decidable_of_iff (client.userId ≠ [] ∧ stringField json (bytes "type") ∈ callTypes ∧
      stringField json (bytes "fromUserId") = [] ∧
      server.resolve (stringField json (bytes "toUserId")) = some target ∧
      addSender json client.userId ≠ [])
    ⟨fun tests => ⟨tests.1, tests.2.1, tests.2.2.1, tests.2.2.2.1, tests.2.2.2.2⟩,
      fun tests => ⟨tests.1, tests.2, tests.3, tests.4, tests.5⟩⟩

/-- A call's type is neither of the two types the server answers itself. -/
theorem ne_of_mem_callTypes {type : ByteString} (callType : type ∈ callTypes) :
    type ≠ bytes "ping" ∧ type ≠ bytes "login" := by
  have others : bytes "ping" ∉ callTypes ∧ bytes "login" ∉ callTypes := by decide
  exact ⟨fun same => others.1 (same ▸ callType), fun same => others.2 (same ▸ callType)⟩

/-- A line is delivered exactly when it passes every test. -/
theorem Server.decision_eq_deliver {server : Server} {client : Client} {json : ByteString}
    {target : Socket} :
    server.decision client json = .deliver target ↔ server.Routable client json target := by
  constructor
  · intro decided
    rw [Server.decision] at decided
    split at decided
    · cases decided
    split at decided
    · split at decided <;> cases decided
    split at decided
    · cases decided
    rename_i loggedIn
    split at decided
    · cases decided
    rename_i callType
    split at decided
    · cases decided
    rename_i noSender
    split at decided
    · cases decided
    rename_i resolved resolves
    split at decided
    · cases decided
    rename_i braced
    cases decided
    exact ⟨loggedIn, not_not.mp callType, not_not.mp noSender, resolves, braced⟩
  · rintro ⟨loggedIn, callType, noSender, resolves, braced⟩
    rw [Server.decision, if_neg (ne_of_mem_callTypes callType).1,
      if_neg (ne_of_mem_callTypes callType).2, if_neg loggedIn,
      if_neg (not_not.mpr callType), if_neg (not_not.mpr noSender), resolves]
    exact if_neg braced

/-- A line passes every test of `RouteMessage` and fits into the queue of the client it
addresses. -/
structure Server.Forwards (server : Server) (client : Client) (json : ByteString)
    (target : Socket) : Prop where
  routable : server.Routable client json target
  room : (server.clients.lookup target).any (·.accepts (.routed client.userId json)) = true

instance (server : Server) (client : Client) (json : ByteString) (target : Socket) :
    Decidable (server.Forwards client json target) :=
  decidable_of_iff (server.Routable client json target ∧
      (server.clients.lookup target).any (·.accepts (.routed client.userId json)) = true)
    ⟨fun both => ⟨both.1, both.2⟩, fun forwards => ⟨forwards.1, forwards.2⟩⟩

theorem Server.Forwards.receiver {server : Server} {client : Client} {json : ByteString}
    {target : Socket} (forwards : server.Forwards client json target) :
    ∃ receiver, server.clients.lookup target = some receiver ∧
      receiver.accepts (.routed client.userId json) = true := by
  have room := forwards.room
  cases known : server.clients.lookup target with
  | none =>
    rw [known] at room
    cases room
  | some receiver =>
    rw [known] at room
    exact ⟨receiver, rfl, room⟩

/-- A line with a call's type from a logged-in client is delivered or answered with an error. -/
theorem Server.decision_of_callType (server : Server) {client : Client} {json : ByteString}
    (loggedIn : client.userId ≠ []) (callType : stringField json (bytes "type") ∈ callTypes) :
    (∃ target, server.decision client json = .deliver target) ∨
      ∃ code, server.decision client json = .reply (.error code) := by
  rw [Server.decision, if_neg (ne_of_mem_callTypes callType).1,
    if_neg (ne_of_mem_callTypes callType).2, if_neg loggedIn,
    if_neg (not_not.mpr callType)]
  split
  · exact Or.inr ⟨_, rfl⟩
  split
  · exact Or.inr ⟨_, rfl⟩
  split
  · exact Or.inr ⟨_, rfl⟩
  · exact Or.inl ⟨_, rfl⟩

/-- A client that is not logged in logs in or gets a reply. -/
theorem Server.decision_of_not_loggedIn (server : Server) {client : Client} (json : ByteString)
    (loggedOut : client.userId = []) :
    (∃ userId, server.decision client json = .login userId) ∨
      ∃ outgoing, server.decision client json = .reply outgoing := by
  rw [Server.decision, loggedOut]
  split
  · exact Or.inr ⟨_, rfl⟩
  split
  · exact Or.inl ⟨_, rfl⟩
  · exact Or.inr ⟨_, rfl⟩

/-- Only a client without a user id logs in. -/
theorem Server.decision_eq_login {server : Server} {client : Client} {json userId : ByteString}
    (decided : server.decision client json = .login userId) :
    client.userId = [] ∧ stringField json (bytes "type") = bytes "login" := by
  rw [Server.decision] at decided
  split at decided
  · cases decided
  split at decided
  · rename_i login
    split at decided
    · cases decided
    · rename_i loggedOut
      exact ⟨not_not.mp loggedOut, login⟩
  split at decided
  · cases decided
  split at decided
  · cases decided
  split at decided
  · cases decided
  split at decided
  · cases decided
  split at decided <;> cases decided

/-- A resolved target is an open connection that `g_users` names. -/
theorem Server.resolve_eq_some {server : Server} {userId : ByteString} {target : Socket} :
    server.resolve userId = some target ↔
      server.users.lookup userId = some target ∧ target ∈ server.clients := by
  rw [Server.resolve]
  cases server.users.lookup userId with
  | none => simp
  | some socket =>
    simp only [Option.some_inj]
    constructor
    · intro taken
      split at taken
      · rename_i open_
        rw [Option.some_inj] at taken
        exact ⟨taken, taken ▸ open_⟩
      · cases taken
    · rintro ⟨rfl, open_⟩
      exact if_pos open_

/-! ### Registering -/

/-- The tables as `RegisterClient` leaves them before the snapshot is queued. -/
def Server.enrol (server : Server) (rehash : Rehash ByteString Socket) (socket owner : Socket)
    (userId : ByteString) : Server :=
  { server with
    clients := Table.modify socket (fun client => { client with userId }) server.clients
    users := Table.emplace rehash userId owner server.users }

/-- The id is well formed and free. -/
def Server.Admits (server : Server) (userId : ByteString) : Prop :=
  Registrable userId ∧ userId ∉ server.users

instance (server : Server) (userId : ByteString) : Decidable (server.Admits userId) :=
  inferInstanceAs (Decidable (Registrable userId ∧ userId ∉ server.users))

theorem Server.registerClient_of_not_admitted {server : Server} {userId : ByteString}
    (refused : ¬ server.Admits userId) (rehash : Rehash ByteString Socket) (socket : Socket) :
    server.registerClient rehash socket userId = (server, false) := by
  rw [Server.registerClient]
  split
  · rfl
  split
  · rfl
  rename_i bounds
  rw [if_pos]
  by_contra harmless
  refine refused ⟨⟨fun empty => bounds (Or.inl empty), ?_, fun byte member => ?_⟩,
    fun taken => bounds (Or.inr (Or.inr taken))⟩
  · by_contra long
    exact bounds (Or.inr (Or.inl (not_le.mp long)))
  · refine ⟨?_, fun same => harmless ⟨byte, member, Or.inr (Or.inl same)⟩,
      fun same => harmless ⟨byte, member, Or.inr (Or.inr same)⟩⟩
    by_contra control
    exact harmless ⟨byte, member, Or.inl (UInt8.not_le.mp control)⟩

/-- The snapshot a new user is sent. -/
def Server.greeting (server : Server) (rehash : Rehash ByteString Socket) (socket : Socket)
    (client : Client) (userId : ByteString) : Outgoing :=
  (server.enrol rehash socket client.socket userId).buildPresenceSnapshot userId

/-- The server when `RegisterClient` has queued the snapshot. -/
def Server.greet (server : Server) (rehash : Rehash ByteString Socket) (socket : Socket)
    (client : Client) (userId : ByteString) : Server :=
  ((server.enrol rehash socket client.socket userId).queueLine socket
    (server.greeting rehash socket client userId)).1

theorem Server.lookup_enrol (server : Server) (rehash : Rehash ByteString Socket)
    (socket owner : Socket) (userId : ByteString) (other : Socket) :
    (server.enrol rehash socket owner userId).clients.lookup other =
      if other = socket then (server.clients.lookup other).map fun client => { client with userId }
      else server.clients.lookup other := Table.lookup_modify _ _ _ _

theorem Server.lookup_enrol_self {server : Server} {socket : Socket} {client : Client}
    (present : server.clients.lookup socket = some client) (rehash : Rehash ByteString Socket)
    (owner : Socket) (userId : ByteString) :
    (server.enrol rehash socket owner userId).clients.lookup socket =
      some { client with userId } := by
  rw [Server.lookup_enrol, if_pos rfl, present]
  rfl

theorem Server.users_enrol {server : Server} {userId : ByteString} (free : userId ∉ server.users)
    (rehash : Rehash ByteString Socket) (socket owner : Socket) (other : ByteString) :
    (server.enrol rehash socket owner userId).users.lookup other =
      if other = userId then some owner else server.users.lookup other :=
  Table.lookup_emplace free _ _

@[simp]
theorem Server.size_enrol (server : Server) (rehash : Rehash ByteString Socket)
    (socket owner : Socket) (userId : ByteString) :
    Table.size (server.enrol rehash socket owner userId).clients = Table.size server.clients :=
  Table.size_modify _ _ _

theorem Server.lookup_greet {server : Server} {socket : Socket} {client : Client}
    (present : server.clients.lookup socket = some client) (rehash : Rehash ByteString Socket)
    (userId : ByteString) (other : Socket) :
    (server.greet rehash socket client userId).clients.lookup other =
      if other = socket then
        some (({ client with userId } : Client).queueLine
          (server.greeting rehash socket client userId))
      else server.clients.lookup other := by
  rw [Server.greet]
  split
  · rename_i here
    rw [here]
    exact Server.lookup_queueLine_self (Server.lookup_enrol_self present rehash _ userId) _
  · rename_i elsewhere
    rw [Server.lookup_queueLine_of_ne elsewhere, Server.lookup_enrol, if_neg elsewhere]

@[simp]
theorem Server.greet_users (server : Server) (rehash : Rehash ByteString Socket) (socket : Socket)
    (client : Client) (userId : ByteString) :
    (server.greet rehash socket client userId).users =
      (server.enrol rehash socket client.socket userId).users := Server.queueLine_users _ _ _

theorem Server.refusals_greet {server : Server} {socket : Socket} {client : Client}
    (present : server.clients.lookup socket = some client) (rehash : Rehash ByteString Socket)
    (userId : ByteString) :
    (server.greet rehash socket client userId).refusals =
      if client.accepts (server.greeting rehash socket client userId) then server.refusals
      else server.refusals + 1 :=
  Server.refusals_queueLine (Server.lookup_enrol_self present rehash _ userId) _

/-- The three ways a registration ends: the id is not admitted; it is, but the snapshot does not
fit and the tables stay as they are by then; or the others are told. -/
theorem Server.registerClient_cases {server : Server} {socket : Socket} {client : Client}
    (present : server.clients.lookup socket = some client) (rehash : Rehash ByteString Socket)
    (userId : ByteString) :
    (¬ server.Admits userId ∧ server.registerClient rehash socket userId = (server, false)) ∨
    (server.Admits userId ∧
      client.accepts (server.greeting rehash socket client userId) = false ∧
      server.registerClient rehash socket userId =
        (server.greet rehash socket client userId, false)) ∨
    (server.Admits userId ∧
      client.accepts (server.greeting rehash socket client userId) = true ∧
      server.registerClient rehash socket userId =
        ((server.greet rehash socket client userId).broadcastPresence userId true, true)) := by
  by_cases admitted : server.Admits userId
  swap
  · exact Or.inl ⟨admitted, Server.registerClient_of_not_admitted admitted rehash socket⟩
  refine Or.inr ?_
  have result := Server.queueLine_result (Server.lookup_enrol_self present rehash client.socket
    userId) (server.greeting rehash socket client userId)
  have carried : server.registerClient rehash socket userId =
      if ((server.enrol rehash socket client.socket userId).queueLine socket
          (server.greeting rehash socket client userId)).2 then
        ((server.greet rehash socket client userId).broadcastPresence userId true, true)
      else (server.greet rehash socket client userId, false) := by
    obtain ⟨⟨nonempty, short, harmless⟩, free⟩ := admitted
    rw [Server.registerClient, present]
    simp only
    rw [if_neg, if_neg]
    · rfl
    · rintro ⟨byte, member, control | isQuote | isBackslash⟩
      · exact absurd (harmless byte member).1 (UInt8.not_le.mpr control)
      · exact (harmless byte member).2.1 isQuote
      · exact (harmless byte member).2.2 isBackslash
    · rintro (empty | long | taken)
      · exact nonempty empty
      · exact absurd short (not_le.mpr long)
      · exact free taken
  rw [carried, result]
  cases fits : client.accepts (server.greeting rehash socket client userId) with
  | false =>
    exact Or.inl ⟨admitted, rfl,
      if_neg fun accepted => Bool.false_ne_true (fits.symm.trans accepted)⟩
  | true => exact Or.inr ⟨admitted, rfl, if_pos fits⟩

/-- What a registration that succeeds leaves in the queues. -/
theorem Server.lookup_registered {server : Server} {socket : Socket} {client : Client}
    (present : server.clients.lookup socket = some client) (rehash : Rehash ByteString Socket)
    (userId : ByteString) (other : Socket) :
    ((server.greet rehash socket client userId).broadcastPresence userId true).clients.lookup
        other =
      if other = socket then
        some (({ client with userId } : Client).queueLine
          (server.greeting rehash socket client userId))
      else (server.clients.lookup other).map fun client => client.hear userId true := by
  rw [Server.lookup_broadcastPresence, Server.lookup_greet present]
  split
  · have deaf : ((({ client with userId } : Client).queueLine
        (server.greeting rehash socket client userId)).hears userId) = false := by
      simp [Client.hears]
    rw [Option.map_some, Client.hear, if_neg (by rw [deaf]; exact Bool.false_ne_true)]
  · rfl

/-! ### Disconnecting -/

/-- The tables without a client, before its absence is broadcast. -/
def Server.remove (server : Server) (socket : Socket) (userId : ByteString) : Server :=
  { server with
    clients := server.clients.erase socket
    users :=
      if userId ≠ [] ∧ server.users.lookup userId = some socket then server.users.erase userId
      else server.users }

theorem Server.disconnectClient_eq {server : Server} {socket : Socket} {client : Client}
    (present : server.clients.lookup socket = some client) :
    server.disconnectClient socket =
      if client.userId ≠ [] then
        (server.remove socket client.userId).broadcastPresence client.userId false
      else server.remove socket client.userId := by
  rw [Server.disconnectClient, present]
  rfl

theorem Server.disconnectClient_of_absent {server : Server} {socket : Socket}
    (absent : server.clients.lookup socket = none) : server.disconnectClient socket = server := by
  rw [Server.disconnectClient, absent]

theorem Server.lookup_remove (server : Server) (socket : Socket) (userId : ByteString)
    (other : Socket) :
    (server.remove socket userId).clients.lookup other =
      if other = socket then none else server.clients.lookup other := Table.lookup_erase _ _ _

/-- What a disconnect leaves of a client: nothing of its own entry, and a presence change in the
queues of the others. -/
theorem Server.lookup_disconnectClient {server : Server} {socket : Socket} {client : Client}
    (present : server.clients.lookup socket = some client) (other : Socket) :
    (server.disconnectClient socket).clients.lookup other =
      if other = socket then none
      else (server.clients.lookup other).map fun other =>
        if client.userId ≠ [] then other.hear client.userId false else other := by
  rw [Server.disconnectClient_eq present]
  by_cases loggedIn : client.userId ≠ []
  · rw [if_pos loggedIn, Server.lookup_broadcastPresence, Server.lookup_remove]
    simp only [if_pos loggedIn]
    split <;> rfl
  · rw [if_neg loggedIn, Server.lookup_remove]
    simp only [if_neg loggedIn, Option.map_id']

/-! ### Accepting -/

/-- What `AcceptClients` does with one connection: nothing, or a fresh entry. -/
theorem Server.acceptClient_cases (server : Server) (accepted : Accepted) :
    server.acceptClient accepted = server ∨
      Table.size server.clients < maxClients ∧
        server.acceptClient accepted =
          { server with
            clients := Table.emplace accepted.rehash accepted.socket { socket := accepted.socket }
              server.clients } := by
  rw [Server.acceptClient]
  split
  · exact Or.inl rfl
  · rename_i room
    rw [not_or, not_le] at room
    exact Or.inr ⟨room.1, rfl⟩

end RemoteControl.SignalingServer

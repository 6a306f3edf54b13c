/-
This file proves that the two tables of the server stay mutually inverse.

A handler changes the registry in three places only: a login enters an id, a
disconnect removes a client, and `accept` opens one. Everything else a handler
does, a refused snapshot and a broadcast included, leaves every socket, every
user id and `g_users` as they were; `SameRegistry` says so once, and the
invariant passes through it.
-/

import RemoteControl.Server.Decision

namespace RemoteControl.SignalingServer

/-! ### The invariant -/

/-- The tables agree. -/
structure Consistent (server : Server) : Prop where
  /-- An entry is stored under its own socket. -/
  ownSocket : ∀ socket client, server.clients.lookup socket = some client → client.socket = socket
  /-- `g_users` names exactly the clients that carry an id. -/
  registered : ∀ userId socket, server.users.lookup userId = some socket ↔
    userId ≠ [] ∧ ∃ client, server.clients.lookup socket = some client ∧ client.userId = userId
  /-- Every id in use passed the test of `RegisterClient`. -/
  registrable : ∀ userId, userId ∈ server.users → Registrable userId
  /-- There is room left below `FD_SETSIZE`. -/
  bounded : Table.size server.clients ≤ maxClients

/-- A client with an id is the one its id names. -/
theorem Consistent.lookup_users {server : Server} (consistent : Consistent server) {socket : Socket}
    {client : Client} (present : server.clients.lookup socket = some client)
    (loggedIn : client.userId ≠ []) : server.users.lookup client.userId = some socket :=
  (consistent.registered _ _).mpr ⟨loggedIn, client, present, rfl⟩

/-- Two clients never share an id. -/
theorem Consistent.unique {server : Server} (consistent : Consistent server)
    {first second : Socket} {client other : Client}
    (present : server.clients.lookup first = some client)
    (alsoPresent : server.clients.lookup second = some other) (loggedIn : client.userId ≠ [])
    (same : client.userId = other.userId) : first = second := by
  have named := consistent.lookup_users present loggedIn
  have alsoNamed := consistent.lookup_users alsoPresent (same ▸ loggedIn)
  rw [← same, named, Option.some_inj] at alsoNamed
  exact alsoNamed

/-- A logged-in client's id is registrable. -/
theorem Consistent.registrable_userId {server : Server} (consistent : Consistent server)
    {socket : Socket} {client : Client} (present : server.clients.lookup socket = some client)
    (loggedIn : client.userId ≠ []) : Registrable client.userId :=
  consistent.registrable _ (Table.mem_iff_lookup.mpr ⟨_, consistent.lookup_users present loggedIn⟩)

/-! ### Steps that leave the registry alone -/

/-- What the registry knows of a client. -/
def Client.identity (client : Client) : Socket × ByteString := (client.socket, client.userId)

/-- Two servers with the same users and the same clients, up to buffers. -/
structure SameRegistry (before after : Server) : Prop where
  users : after.users = before.users
  identity : ∀ socket, (after.clients.lookup socket).map Client.identity =
    (before.clients.lookup socket).map Client.identity
  size : Table.size after.clients = Table.size before.clients

theorem SameRegistry.refl (server : Server) : SameRegistry server server := ⟨rfl, fun _ => rfl, rfl⟩

theorem SameRegistry.trans {first second third : Server} (left : SameRegistry first second)
    (right : SameRegistry second third) : SameRegistry first third where
  users := right.users.trans left.users
  identity socket := (right.identity socket).trans (left.identity socket)
  size := right.size.trans left.size

/-- A client of one server has its counterpart in the other. -/
theorem SameRegistry.lookup {before after : Server} (same : SameRegistry before after)
    {socket : Socket} {client : Client} (present : after.clients.lookup socket = some client) :
    ∃ earlier, before.clients.lookup socket = some earlier ∧ earlier.socket = client.socket ∧
      earlier.userId = client.userId := by
  have identity := same.identity socket
  rw [present, Option.map_some] at identity
  obtain ⟨earlier, known, agrees⟩ := Option.map_eq_some_iff.mp identity.symm
  exact ⟨earlier, known, congrArg Prod.fst agrees, congrArg Prod.snd agrees⟩

theorem SameRegistry.symm {before after : Server} (same : SameRegistry before after) :
    SameRegistry after before where
  users := same.users.symm
  identity socket := (same.identity socket).symm
  size := same.size.symm

theorem SameRegistry.consistent {before after : Server} (same : SameRegistry before after)
    (consistent : Consistent before) : Consistent after where
  ownSocket socket client present := by
    obtain ⟨earlier, known, sameSocket, -⟩ := same.lookup present
    rw [← sameSocket]
    exact consistent.ownSocket socket earlier known
  registered userId socket := by
    rw [same.users, consistent.registered]
    refine and_congr_right fun _ => ⟨?_, ?_⟩
    · rintro ⟨earlier, known, named⟩
      obtain ⟨client, present, -, sameId⟩ := same.symm.lookup known
      exact ⟨client, present, sameId.trans named⟩
    · rintro ⟨client, present, named⟩
      obtain ⟨earlier, known, -, sameId⟩ := same.lookup present
      exact ⟨earlier, known, sameId.trans named⟩
  registrable userId member := consistent.registrable userId (same.users ▸ member)
  bounded := same.size ▸ consistent.bounded

/-- An update in place that keeps a client's identity keeps the registry. -/
theorem sameRegistry_modify (server : Server) (socket : Socket) {update : Client → Client}
    (keeps : ∀ client, (update client).identity = client.identity) :
    SameRegistry server { server with clients := Table.modify socket update server.clients } where
  users := rfl
  identity other := by
    rw [Table.lookup_modify]
    split
    · rw [Option.map_map]
      exact congrArg (fun view => Option.map view _) (funext keeps)
    · rfl
  size := Table.size_modify _ _ _

theorem sameRegistry_queueLine (server : Server) (socket : Socket) (outgoing : Outgoing) :
    SameRegistry server (server.queueLine socket outgoing).1 where
  users := server.queueLine_users socket outgoing
  identity other := by
    rw [Server.lookup_queueLine]
    split
    · rw [Option.map_map]
      refine congrArg (fun view => Option.map view _) (funext fun client => ?_)
      exact Prod.ext (client.queueLine_socket outgoing) (client.queueLine_userId outgoing)
    · rfl
  size := server.size_queueLine socket outgoing

theorem sameRegistry_broadcastPresence (server : Server) (userId : ByteString) (online : Bool) :
    SameRegistry server (server.broadcastPresence userId online) where
  users := rfl
  identity socket := by
    rw [Server.lookup_broadcastPresence, Option.map_map]
    refine congrArg (fun view => Option.map view _) (funext fun client => ?_)
    exact Prod.ext (client.hear_socket userId online) (client.hear_userId userId online)
  size := server.size_broadcastPresence userId online

/-- Queueing a line and then perhaps an error reply. -/
theorem sameRegistry_refuse (server : Server) (socket : Socket) (code : ErrorCode) :
    SameRegistry server (server.refuse socket code) := sameRegistry_queueLine _ _ _

/-! ### The three steps that change the registry -/

/-- Entering a free id for a client without one. -/
theorem Consistent.enrol {server : Server} (consistent : Consistent server) {socket : Socket}
    {client : Client} (present : server.clients.lookup socket = some client)
    (loggedOut : client.userId = []) {userId : ByteString} (admitted : server.Admits userId)
    (rehash : Rehash ByteString Socket) :
    Consistent (server.enrol rehash socket client.socket userId) where
  ownSocket other entry found := by
    rw [Server.lookup_enrol] at found
    split at found
    · obtain ⟨earlier, known, same⟩ := Option.map_eq_some_iff.mp found
      rw [← same]
      exact consistent.ownSocket other earlier known
    · exact consistent.ownSocket other entry found
  registered other holder := by
    rw [Server.users_enrol admitted.2, Server.lookup_enrol,
      consistent.ownSocket socket client present]
    by_cases isNew : other = userId
    · rw [if_pos isNew, isNew, Option.some_inj]
      constructor
      · rintro rfl
        rw [if_pos rfl, present]
        exact ⟨admitted.1.1, _, rfl, rfl⟩
      · rintro ⟨nonempty, entry, found, named⟩
        by_contra elsewhere
        rw [if_neg (Ne.symm elsewhere)] at found
        have taken := (consistent.registered userId holder).mpr ⟨nonempty, entry, found, named⟩
        exact admitted.2 (Table.mem_iff_lookup.mpr ⟨holder, taken⟩)
    · rw [if_neg isNew, consistent.registered]
      refine and_congr_right fun nonempty => ?_
      by_cases here : holder = socket
      · rw [if_pos here, here, present, Option.map_some]
        constructor
        · rintro ⟨entry, found, named⟩
          rw [Option.some_inj] at found
          exact absurd (named.symm.trans (found ▸ loggedOut)) nonempty
        · rintro ⟨entry, found, named⟩
          rw [Option.some_inj] at found
          exact absurd (named.symm.trans (congrArg Client.userId found).symm) isNew
      · rw [if_neg here]
  registrable other member := by
    obtain ⟨holder, named⟩ := Table.mem_iff_lookup.mp member
    rw [Server.users_enrol admitted.2] at named
    split at named
    · rename_i isNew
      exact isNew ▸ admitted.1
    · exact consistent.registrable other (Table.mem_iff_lookup.mpr ⟨holder, named⟩)
  bounded := by
    rw [Server.size_enrol]
    exact consistent.bounded

/-- The users a disconnect leaves: all but the one of the client. -/
theorem Consistent.users_remove {server : Server} (consistent : Consistent server) {socket : Socket}
    {client : Client} (present : server.clients.lookup socket = some client) (other : ByteString) :
    (server.remove socket client.userId).users.lookup other =
      if other = client.userId then none else server.users.lookup other := by
  show (if client.userId ≠ [] ∧ server.users.lookup client.userId = some socket then
    server.users.erase client.userId else server.users).lookup other = _
  by_cases loggedIn : client.userId = []
  · rw [if_neg fun both => both.1 loggedIn]
    split
    · rename_i same
      cases found : server.users.lookup other with
      | none => rfl
      | some holder =>
        exact absurd (same.trans loggedIn) ((consistent.registered other holder).mp found).1
    · rfl
  · rw [if_pos ⟨loggedIn, consistent.lookup_users present loggedIn⟩]
    exact Table.lookup_erase _ _ _

/-- Removing a client together with its id. -/
theorem Consistent.remove {server : Server} (consistent : Consistent server) {socket : Socket}
    {client : Client} (present : server.clients.lookup socket = some client) :
    Consistent (server.remove socket client.userId) where
  ownSocket other entry found := by
    rw [Server.lookup_remove] at found
    split at found
    · cases found
    · exact consistent.ownSocket other entry found
  registered other holder := by
    rw [consistent.users_remove present, Server.lookup_remove]
    by_cases here : holder = socket
    · rw [if_pos here]
      constructor
      · intro named
        split at named
        · cases named
        · rename_i different
          obtain ⟨-, entry, found, sameId⟩ := (consistent.registered other holder).mp named
          rw [here, present, Option.some_inj] at found
          exact absurd (sameId.symm.trans (congrArg Client.userId found).symm) different
      · rintro ⟨-, entry, found, -⟩
        cases found
    · rw [if_neg here]
      by_cases same : other = client.userId
      · rw [if_pos same]
        constructor
        · intro named
          cases named
        · rintro ⟨nonempty, entry, found, sameId⟩
          refine absurd (consistent.unique found present (sameId ▸ nonempty) ?_) here
          rw [sameId, same]
      · rw [if_neg same]
        exact consistent.registered other holder
  registrable other member := by
    obtain ⟨holder, named⟩ := Table.mem_iff_lookup.mp member
    rw [consistent.users_remove present] at named
    split at named
    · cases named
    · exact consistent.registrable other (Table.mem_iff_lookup.mpr ⟨holder, named⟩)
  bounded := (Table.size_erase_le _ _).trans consistent.bounded

/-- A fresh connection on a socket that is not open. -/
theorem Consistent.acceptClient {server : Server} (consistent : Consistent server)
    {accepted : Accepted} (fresh : accepted.socket ∉ server.clients) :
    Consistent (server.acceptClient accepted) := by
  rcases server.acceptClient_cases accepted with same | ⟨room, opened⟩
  · rw [same]
    exact consistent
  rw [opened]
  have lookup (socket : Socket) :
      (Table.emplace accepted.rehash accepted.socket { socket := accepted.socket }
        server.clients).lookup socket =
      if socket = accepted.socket then some { socket := accepted.socket }
      else server.clients.lookup socket := Table.lookup_emplace fresh _ socket
  refine ⟨fun socket client found => ?_, fun userId socket => ?_, consistent.registrable, ?_⟩
  · rw [lookup] at found
    split at found
    · rename_i same
      rw [Option.some_inj] at found
      rw [← found, same]
    · exact consistent.ownSocket socket client found
  · rw [lookup, consistent.registered]
    refine and_congr_right fun nonempty => ?_
    by_cases same : socket = accepted.socket
    · rw [if_pos same, same]
      constructor
      · rintro ⟨client, found, -⟩
        exact absurd (Table.mem_iff_lookup.mpr ⟨client, found⟩) fresh
      · rintro ⟨client, found, named⟩
        rw [Option.some_inj] at found
        exact absurd (named.symm.trans (congrArg Client.userId found).symm) nonempty
    · rw [if_neg same]
  · exact (Table.size_emplace_le _ _ _ _).trans room

/-! ### Every action -/

theorem Consistent.registerClient {server : Server} (consistent : Consistent server)
    {socket : Socket} {client : Client} (present : server.clients.lookup socket = some client)
    (loggedOut : client.userId = []) (rehash : Rehash ByteString Socket) (userId : ByteString) :
    Consistent (server.registerClient rehash socket userId).1 := by
  have greeted (admitted : server.Admits userId) :
      Consistent (server.greet rehash socket client userId) :=
    (sameRegistry_queueLine _ _ _).consistent (consistent.enrol present loggedOut admitted rehash)
  rcases Server.registerClient_cases present rehash userId with
    ⟨-, refused⟩ | ⟨admitted, -, failed⟩ | ⟨admitted, -, succeeded⟩
  · rw [refused]
    exact consistent
  · rw [failed]
    exact greeted admitted
  · rw [succeeded]
    exact (sameRegistry_broadcastPresence _ userId true).consistent (greeted admitted)

theorem Consistent.routeMessage {server : Server} (consistent : Consistent server)
    (rehash : Rehash ByteString Socket) (sender : Socket) (json : ByteString) :
    Consistent (server.routeMessage rehash sender json) := by
  cases present : server.clients.lookup sender with
  | none =>
    rw [Server.routeMessage_of_absent present]
    exact consistent
  | some client =>
    rw [Server.routeMessage_eq present]
    cases decided : server.decision client json with
    | reply outgoing => exact (sameRegistry_queueLine _ _ _).consistent consistent
    | login userId =>
      have registered := consistent.registerClient present
        (Server.decision_eq_login decided).1 rehash userId
      rw [Server.carryOut]
      split
      · exact registered
      · exact (sameRegistry_refuse _ _ _).consistent registered
    | deliver target =>
      have queued := (sameRegistry_queueLine server target
        (.routed client.userId json)).consistent consistent
      rw [Server.carryOut]
      split
      · exact queued
      · exact (sameRegistry_refuse _ _ _).consistent queued

theorem Consistent.disconnectClient {server : Server} (consistent : Consistent server)
    (socket : Socket) : Consistent (server.disconnectClient socket) := by
  cases present : server.clients.lookup socket with
  | none =>
    rw [Server.disconnectClient_of_absent present]
    exact consistent
  | some client =>
    rw [Server.disconnectClient_eq present]
    split
    · exact (sameRegistry_broadcastPresence _ _ _).consistent (consistent.remove present)
    · exact consistent.remove present

theorem Consistent.next {server : Server} (consistent : Consistent server) {action : Action}
    (allowed : server.allowed action) : Consistent (server.next action) := by
  cases action with
  | accept accepted => exact consistent.acceptClient allowed
  | receive socket buffer =>
    refine (sameRegistry_modify _ _ fun client => ?_).consistent consistent
    rfl
  | route socket json rehash => exact consistent.routeMessage rehash socket json
  | write socket results =>
    refine (sameRegistry_modify _ _ fun client => ?_).consistent consistent
    obtain ⟨buffer, written, -⟩ := client.writeClient_spec results
    rw [written]
    rfl
  | disconnect socket => exact consistent.disconnectClient socket

theorem consistent_start : Consistent {} where
  ownSocket socket client present := by cases present
  registered userId socket := by
    refine ⟨fun named => ?_, ?_⟩
    · cases named
    · rintro ⟨-, client, present, -⟩
      cases present
  registrable userId member := absurd member (AList.notMem_empty userId)
  bounded := Nat.zero_le _

/-- The tables agree in every reachable state. -/
theorem consistent_of_reachable {server : Server} (reachable : system.Reachable server) :
    Consistent server :=
  reachable.invariant (fun _ initial => initial ▸ consistent_start)
    fun _ _ _ consistent allowed => consistent.next allowed

/-- In every state that any interleaving of connections, lines, writes and disconnects leads to,
`g_users` and the ids of the clients are inverse to each other, ids are well formed and unique,
entries are filed under their own socket, and the server holds at most `kMaxClients` of them. -/
theorem user_registry_consistent {server : Server} (reachable : system.Reachable server) :
    (∀ userId socket, server.users.lookup userId = some socket ↔
      userId ≠ [] ∧ ∃ client, server.clients.lookup socket = some client ∧
        client.userId = userId) ∧
    (∀ first second client other, server.clients.lookup first = some client →
      server.clients.lookup second = some other → client.userId ≠ [] →
      client.userId = other.userId → first = second) ∧
    (∀ userId, userId ∈ server.users → 1 ≤ userId.length ∧ userId.length ≤ 128 ∧
      ∀ byte ∈ userId, 0x20 ≤ byte ∧ byte ≠ quote ∧ byte ≠ backslash) ∧
    (∀ socket client, server.clients.lookup socket = some client → client.socket = socket) ∧
    Table.size server.clients ≤ maxClients := by
  have consistent := consistent_of_reachable reachable
  refine ⟨consistent.registered, fun _ _ _ _ present alsoPresent loggedIn same =>
    consistent.unique present alsoPresent loggedIn same, fun userId member => ?_,
    consistent.ownSocket, consistent.bounded⟩
  obtain ⟨nonempty, short, harmless⟩ := consistent.registrable userId member
  exact ⟨List.length_pos_of_ne_nil nonempty, short, harmless⟩

theorem user_registry_consistent_logins :
    let server := system.run {} (logins (bytes "alice") (bytes "bob"))
    server.users.lookup (bytes "alice") = some 1 ∧
      ∃ client, server.clients.lookup 1 = some client ∧ client.userId = bytes "alice" := by
  have named : (system.run {} (logins (bytes "alice") (bytes "bob"))).users.lookup
      (bytes "alice") = some 1 := by decide
  have agrees := (user_registry_consistent (reachable_run
    (show system.Allows {} (logins (bytes "alice") (bytes "bob")) by decide))).1
  exact ⟨named, ((agrees _ _).mp named).2⟩

end RemoteControl.SignalingServer

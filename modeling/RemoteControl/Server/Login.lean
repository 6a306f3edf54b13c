/-
This file asks whether a login happens whole or not at all. `RegisterClient`
enters the user in both tables before it queues the snapshot; when the snapshot
does not fit it reports a failure and takes nothing back. A login is atomic
exactly when that does not happen, and it happens to a client whose queue is
full of answers it has not read.
-/

import RemoteControl.Server.Presence
import RemoteControl.Server.Queues

namespace RemoteControl.SignalingServer

open ListSearch

/-! ### The size of a snapshot -/

theorem length_intercalate {α : Type*} (separator : List α) (parts : List (List α)) :
    (List.intercalate separator parts).length =
      (parts.map List.length).sum + separator.length * (parts.length - 1) := by
  induction parts with
  | nil => rfl
  | cons part rest ih =>
    cases rest with
    | nil =>
      rw [List.intercalate_singleton]
      exact (Nat.add_zero _).symm
    | cons next rest =>
      rw [List.intercalate_cons_cons, List.length_append, List.length_append, ih]
      simp only [List.map_cons, List.sum_cons, List.length_cons, Nat.add_sub_cancel, Nat.mul_add,
        Nat.mul_one]
      omega

/-- The order of the users does not change the size of a snapshot. -/
theorem length_snapshotLine_perm {users users' : List ByteString} (perm : users.Perm users') :
    (snapshotLine users).length = (snapshotLine users').length := by
  have entries := perm.map fun userId =>
    bytes "\x7b\"userId\":\"" ++ escapeJson userId ++ bytes "\"\x7d"
  rw [snapshotLine, snapshotLine, List.length_append, List.length_append, List.length_append,
    List.length_append, length_intercalate, length_intercalate,
    (entries.map List.length).sum_nat, entries.length_eq]

section

variable {server : Server} {socket : Socket} {client : Client} {userId : ByteString}

/-- The table a new user's snapshot is made from has its others in some order. -/
theorem Server.snapshotUsers_enrol (free : userId ∉ server.users)
    (rehash : Rehash ByteString Socket) (socket owner : Socket) :
    ((server.enrol rehash socket owner userId).snapshotUsers userId).Perm
      (server.snapshotUsers userId) := by
  have keys : (server.enrol rehash socket owner userId).users.keys.Perm
      (userId :: server.users.keys) := by
    rw [Server.enrol, Table.emplace, if_neg free]
    refine ((rehash.perm _).map Sigma.fst).trans ?_
    rw [AList.entries_insert_of_notMem free]
    exact List.Perm.refl _
  refine (keys.filter _).trans ?_
  rw [List.filter_cons, if_neg (by simp)]
  exact List.Perm.refl _

/-- Whether the snapshot fits can be told before the user is entered. -/
theorem Client.accepts_greeting (free : userId ∉ server.users)
    (rehash : Rehash ByteString Socket) :
    client.accepts (server.greeting rehash socket client userId) =
      client.accepts (server.buildPresenceSnapshot userId) := by
  have size := length_snapshotLine_perm
    (Server.snapshotUsers_enrol free rehash socket client.socket)
  rw [Client.accepts, Client.accepts]
  change decide ((snapshotLine _).length + 1 ≤ _) = decide ((snapshotLine _).length + 1 ≤ _)
  rw [size]

end

/-! ### What a login owes -/

/-- The path on which `RouteMessage` queues `login_failed`. -/
def Server.LoginFails (server : Server) (rehash : Rehash ByteString Socket) (socket : Socket)
    (client : Client) (userId : ByteString) : Prop :=
  client.userId ≠ [] ∨ (server.registerClient rehash socket userId).2 = false

/-- No user is entered and nobody but the sender is written to. -/
structure LoginUndone (before after : Server) (socket : Socket) : Prop where
  users : after.users = before.users
  userIds : ∀ other, (after.clients.lookup other).map Client.userId =
    (before.clients.lookup other).map Client.userId
  others : ∀ other ≠ socket, (after.clients.lookup other).map Client.sendBuffer =
    (before.clients.lookup other).map Client.sendBuffer

/-- The user is entered, its queue takes one snapshot of the others, and every other user is
offered one notification. -/
structure LoginDone (before after : Server) (socket : Socket) (client : Client)
    (userId : ByteString) : Prop where
  registered : after.users.lookup userId = some socket
  greeted : ∃ users, users.Perm (before.snapshotUsers userId) ∧
    after.clients.lookup socket =
      some { client with
        userId
        sendBuffer := client.sendBuffer ++ snapshotLine users ++ [newline]
        queued := client.queued ++ [.snapshot users] }
  told : ∀ other ≠ socket, ∀ listener, before.clients.lookup other = some listener →
    listener.userId ≠ [] →
      after.clients.lookup other = some (listener.queueLine (.presence userId true))

/-- A login line has one of the two effects, by the path it takes. -/
def Server.LoginAtomic (server : Server) (rehash : Rehash ByteString Socket) (socket : Socket)
    (client : Client) (json : ByteString) : Prop :=
  let userId := stringField json (bytes "userId")
  (server.LoginFails rehash socket client userId →
      LoginUndone server (server.routeMessage rehash socket json) socket) ∧
    (¬ server.LoginFails rehash socket client userId →
      LoginDone server (server.routeMessage rehash socket json) socket client userId)

/-- The id is free and well formed, but the snapshot does not fit behind what the client has not
read yet. -/
def Server.Unwelcome (server : Server) (client : Client) (userId : ByteString) : Prop :=
  client.userId = [] ∧ server.Admits userId ∧
    client.accepts (server.buildPresenceSnapshot userId) = false

section

variable {server : Server} {socket : Socket} {client : Client} {userId json : ByteString}

/-- An error reply undoes nothing and does nothing. -/
theorem loginUndone_refuse (server : Server) (socket : Socket) (code : ErrorCode) :
    LoginUndone server (server.refuse socket code) socket where
  users := (sameRegistry_refuse server socket code).users
  userIds other := by
    have same := congrArg (Option.map Prod.snd)
      ((sameRegistry_refuse server socket code).identity other)
    rw [Option.map_map, Option.map_map] at same
    exact same
  others other elsewhere := by
    rw [Server.refuse, Server.lookup_queueLine_of_ne elsewhere]

/-- A login line of a client without a user id is decided by `RegisterClient`. -/
theorem Server.routeMessage_login (present : server.clients.lookup socket = some client)
    (login : stringField json (bytes "type") = bytes "login") (rehash : Rehash ByteString Socket) :
    server.routeMessage rehash socket json =
      if client.userId ≠ [] then server.refuse socket .loginFailed
      else server.carryOut rehash socket client.userId json
        (.login (stringField json (bytes "userId"))) := by
  rw [Server.routeMessage_eq present, Server.decision, login]
  simp only
  rw [if_neg (by decide), if_pos trivial]
  split <;> rfl

/-- A user whose snapshot does not fit is entered all the same. -/
theorem Server.users_of_unwelcome (present : server.clients.lookup socket = some client)
    (login : stringField json (bytes "type") = bytes "login") (rehash : Rehash ByteString Socket)
    (unwelcome : server.Unwelcome client (stringField json (bytes "userId"))) :
    server.LoginFails rehash socket client (stringField json (bytes "userId")) ∧
      stringField json (bytes "userId") ∈ (server.routeMessage rehash socket json).users := by
  obtain ⟨loggedOut, admitted, full⟩ := unwelcome
  have failed : server.registerClient rehash socket (stringField json (bytes "userId")) =
      (server.greet rehash socket client (stringField json (bytes "userId")), false) := by
    rcases Server.registerClient_cases present rehash (stringField json (bytes "userId")) with
      ⟨refused, -⟩ | ⟨-, -, failed⟩ | ⟨-, fits, -⟩
    · exact absurd admitted refused
    · exact failed
    · rw [Client.accepts_greeting admitted.2 rehash, full] at fits
      exact absurd fits Bool.false_ne_true
  refine ⟨Or.inr (congrArg Prod.snd failed), ?_⟩
  rw [Server.routeMessage_login present login, if_neg (not_not.mpr loggedOut), Server.carryOut,
    failed, if_neg Bool.false_ne_true, (sameRegistry_refuse _ _ _).users, Server.greet_users,
    Table.mem_iff_lookup, Server.users_enrol admitted.2, if_pos rfl]
  exact ⟨_, rfl⟩

/-- A registration that succeeds keeps every promise of a login. -/
theorem loginDone_registered (consistent : Consistent server)
    (present : server.clients.lookup socket = some client) (admitted : server.Admits userId)
    (rehash : Rehash ByteString Socket)
    (fits : client.accepts (server.greeting rehash socket client userId) = true) :
    LoginDone server ((server.greet rehash socket client userId).broadcastPresence userId true)
      socket client userId where
  registered := by
    rw [Server.broadcastPresence_users, Server.greet_users, Server.users_enrol admitted.2,
      if_pos rfl, consistent.ownSocket socket client present]
  greeted := by
    refine ⟨_, Server.snapshotUsers_enrol admitted.2 rehash socket client.socket, ?_⟩
    rw [Server.lookup_registered present, if_pos rfl]
    exact congrArg some (Client.queueLine_of_accepts fits)
  told other elsewhere listener there loggedIn := by
    have different : listener.userId ≠ userId := fun same =>
      admitted.2 (Table.mem_iff_lookup.mpr ⟨other, same ▸ consistent.lookup_users there loggedIn⟩)
    have hears : listener.hears userId = true := decide_eq_true ⟨loggedIn, different⟩
    rw [Server.lookup_registered present, if_neg elsewhere, there, Option.map_some, Client.hear,
      if_pos hears]

/-- A login that fails although the snapshot was not in the way enters nobody. -/
theorem loginUndone_of_not_unwelcome (present : server.clients.lookup socket = some client)
    (login : stringField json (bytes "type") = bytes "login") (rehash : Rehash ByteString Socket)
    (welcome : ¬ server.Unwelcome client (stringField json (bytes "userId")))
    (fails : server.LoginFails rehash socket client (stringField json (bytes "userId"))) :
    LoginUndone server (server.routeMessage rehash socket json) socket := by
  rw [Server.routeMessage_login present login]
  by_cases loggedOut : client.userId = []
  swap
  · rw [if_pos loggedOut]
    exact loginUndone_refuse server socket _
  rw [if_neg (not_not.mpr loggedOut), Server.carryOut]
  have refused := fails.resolve_left (not_not.mpr loggedOut)
  rw [if_neg (by rw [refused]; exact Bool.false_ne_true)]
  rcases Server.registerClient_cases present rehash (stringField json (bytes "userId")) with
    ⟨-, kept⟩ | ⟨admitted, full, -⟩ | ⟨-, -, succeeded⟩
  · rw [kept]
    exact loginUndone_refuse server socket _
  · rw [Client.accepts_greeting admitted.2 rehash] at full
    exact absurd ⟨loggedOut, admitted, full⟩ welcome
  · rw [succeeded] at refused
    exact absurd refused Bool.noConfusion

/-- A login that does not fail is done. -/
theorem loginDone_of_not_fails (consistent : Consistent server)
    (present : server.clients.lookup socket = some client)
    (login : stringField json (bytes "type") = bytes "login") (rehash : Rehash ByteString Socket)
    (succeeds : ¬ server.LoginFails rehash socket client (stringField json (bytes "userId"))) :
    LoginDone server (server.routeMessage rehash socket json) socket client
      (stringField json (bytes "userId")) := by
  obtain ⟨loggedOut, accepted⟩ := not_or.mp succeeds
  rw [Server.routeMessage_login present login, if_neg loggedOut, Server.carryOut]
  rcases Server.registerClient_cases present rehash (stringField json (bytes "userId")) with
    ⟨-, kept⟩ | ⟨-, -, failed⟩ | ⟨admitted, fits, succeeded⟩
  · exact absurd (congrArg Prod.snd kept) accepted
  · exact absurd (congrArg Prod.snd failed) accepted
  · rw [succeeded, if_pos rfl]
    exact loginDone_registered consistent present admitted rehash fits

end

/-! ### A client that does not read -/

/-- A line that asks for a pong. -/
def pingLine : ByteString := bytes "\x7b\"type\":\"ping\"\x7d"

/-- A client connects and sends pings. -/
def pings (count : Nat) : List Action :=
  .accept ⟨1, true, .keep⟩ :: List.replicate count (.route 1 pingLine .keep)

theorem pings_succ (count : Nat) :
    pings (count + 1) = pings count ++ [.route 1 pingLine .keep] := by
  rw [pings, List.replicate_succ', ← List.cons_append, pings]

theorem allows_pings (count : Nat) : system.Allows {} (pings count) := by
  induction count with
  | zero => decide
  | succ count ih =>
    rw [pings_succ, Transition.System.allows_append]
    exact ⟨ih, trivial, trivial⟩

theorem routeMessage_ping {server : Server} {client : Client}
    (present : server.clients.lookup 1 = some client) :
    server.routeMessage .keep 1 pingLine = (server.queueLine 1 .pong).1 := by
  have ping : stringField pingLine (bytes "type") = bytes "ping" := by decide
  rw [Server.routeMessage, present]
  simp only
  rw [if_pos ping]

/-- Pongs collect in the queue of a client that reads none of them. -/
theorem run_pings {count : Nat} (within : 16 * count ≤ maxPendingSendBytes) :
    (system.run {} (pings count)).users = ∅ ∧
      ∃ client, (system.run {} (pings count)).clients.lookup 1 = some client ∧
        client.userId = [] ∧ client.sendBuffer.length = 16 * count := by
  induction count with
  | zero => exact ⟨rfl, { socket := 1 }, rfl, rfl, rfl⟩
  | succ count ih =>
    obtain ⟨users, client, present, loggedOut, length⟩ := ih (by omega)
    have next : system.run {} (pings (count + 1)) =
        ((system.run {} (pings count)).queueLine 1 .pong).1 := by
      rw [pings_succ, Transition.System.run_append]
      exact routeMessage_ping present
    have fits : client.accepts .pong = true := by
      have room : sizeSub maxPendingSendBytes client.sendBuffer.length =
          maxPendingSendBytes - client.sendBuffer.length := sizeSub_of_le (by omega) (by decide)
      have pong : (Outgoing.line .pong).length = 15 := by decide
      rw [Client.accepts, room, pong, decide_eq_true_eq]
      omega
    rw [next]
    refine ⟨(Server.queueLine_users _ _ _).trans users, _,
      Server.lookup_queueLine_self present .pong, ?_, ?_⟩
    · rw [Client.queueLine_userId, loggedOut]
    · have pong : (Outgoing.line .pong).length = 15 := by decide
      rw [Client.queueLine_of_accepts fits]
      simp only [List.length_append, List.length_singleton, pong, length]
      omega

/-- No snapshot fits behind a queue full of pongs. -/
theorem unwelcome_pings {count : Nat} (full : 16 * count = maxPendingSendBytes) :
    ∃ client, (system.run {} (pings count)).clients.lookup 1 = some client ∧
      (system.run {} (pings count)).Unwelcome client (bytes "alice") := by
  obtain ⟨users, client, present, loggedOut, length⟩ := run_pings full.le
  have free : bytes "alice" ∉ (system.run {} (pings count)).users := by
    rw [users]
    exact AList.notMem_empty _
  refine ⟨client, present, loggedOut, ⟨by decide, free⟩, ?_⟩
  have room : sizeSub maxPendingSendBytes client.sendBuffer.length = 0 := by
    rw [sizeSub_of_le (length.trans full).le (by decide), length, full, Nat.sub_self]
  rw [Client.accepts, room]
  exact decide_eq_false (Nat.not_succ_le_zero _)

/-- A client whose queue is full of pongs logs in: the login fails, and the user is online. -/
theorem login_not_atomic :
    system.Reachable (system.run {} (pings 262144)) ∧
      ∃ client, (system.run {} (pings 262144)).clients.lookup 1 = some client ∧
        ¬ (system.run {} (pings 262144)).LoginAtomic .keep 1 client
          (SignalingClient.loginLine (bytes "alice")) := by
  have login : stringField (SignalingClient.loginLine (bytes "alice")) (bytes "type") =
      bytes "login" := by decide
  have alice : stringField (SignalingClient.loginLine (bytes "alice")) (bytes "userId") =
      bytes "alice" := by decide
  have full : 16 * 262144 = maxPendingSendBytes := by decide
  obtain ⟨client, present, unwelcome⟩ := unwelcome_pings full
  rw [← alice] at unwelcome
  refine ⟨reachable_run (allows_pings _), client, present, fun atomic => ?_⟩
  obtain ⟨fails, entered⟩ := Server.users_of_unwelcome present login .keep unwelcome
  rw [(atomic.1 fails).users] at entered
  exact unwelcome.2.1.2 entered

/-- In every reachable state a login line is atomic unless its id is free and well formed, its
client has none yet, and the snapshot does not fit into the client's queue. -/
theorem login_atomic_iff {server : Server} (reachable : system.Reachable server) {socket : Socket}
    {client : Client} (present : server.clients.lookup socket = some client) {json : ByteString}
    (login : stringField json (bytes "type") = bytes "login") (rehash : Rehash ByteString Socket) :
    server.LoginAtomic rehash socket client json ↔
      ¬ server.Unwelcome client (stringField json (bytes "userId")) := by
  constructor
  · intro atomic unwelcome
    obtain ⟨fails, entered⟩ := Server.users_of_unwelcome present login rehash unwelcome
    rw [(atomic.1 fails).users] at entered
    exact unwelcome.2.1.2 entered
  · intro welcome
    exact ⟨loginUndone_of_not_unwelcome present login rehash welcome,
      loginDone_of_not_fails (consistent_of_reachable reachable) present login rehash⟩

/-- Bob has logged in, and another client connects. -/
def bobOnline : List Action :=
  [.accept ⟨1, true, .keep⟩, .route 1 (SignalingClient.loginLine (bytes "bob")) .keep,
    .accept ⟨2, true, .keep⟩]

/-- Alice logs in while bob is online. -/
theorem login_atomic_iff_bobOnline :
    (system.run {} bobOnline).LoginAtomic .keep 2 { socket := 2 }
        (SignalingClient.loginLine (bytes "alice")) ∧
      (((system.run {} bobOnline).routeMessage .keep 2
        (SignalingClient.loginLine (bytes "alice"))).clients.lookup 1).map Client.queued =
          some [.snapshot [], .presence (bytes "alice") true] := by
  have present : (system.run {} bobOnline).clients.lookup 2 = some { socket := 2 } := by decide
  have atomic : (system.run {} bobOnline).LoginAtomic .keep 2 { socket := 2 }
      (SignalingClient.loginLine (bytes "alice")) :=
    (login_atomic_iff (reachable_run (by decide)) present (by decide) .keep).mpr
      fun unwelcome => absurd unwelcome.2.2 (by decide)
  exact ⟨atomic, by decide⟩

end RemoteControl.SignalingServer

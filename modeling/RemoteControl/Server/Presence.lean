/-
This file proves that every logged-in client can reconstruct who is online.

The presence lines in a client's queue history are the updates of a replica of
`g_users` that leaves out the client itself. A login and a disconnect change the
original and tell every other client in the same step; the invariant relates
each client's whole history to the current table, for as long as no line has
been refused.
-/

import RemoteControl.Library.Replica
import RemoteControl.Server.Registry

namespace RemoteControl.SignalingServer

open Replica

/-! ### The replica of a client -/

/-- The presence lines among the lines of the server. -/
def Outgoing.update : Outgoing → Option (Update ByteString)
  | .snapshot users => some (.snapshot users)
  | .presence userId true => some (.join userId)
  | .presence userId false => some (.leave userId)
  | _ => none

/-- The presence updates a client's queue has accepted. -/
def Client.updates (client : Client) : List (Update ByteString) :=
  client.queued.filterMap Outgoing.update

/-- The key set of `g_users`. -/
def Server.online (server : Server) : Finset ByteString := server.users.keys.toFinset

theorem Server.mem_online {server : Server} {userId : ByteString} :
    userId ∈ server.online ↔ ∃ socket, server.users.lookup userId = some socket := by
  rw [Server.online, List.mem_toFinset, Table.mem_keys_iff_lookup]

/-- A client's replica is up to date and every update it got made sense. -/
structure Client.Informed (online : Finset ByteString) (client : Client) : Prop where
  coherent : Coherent client.updates
  upToDate : client.userId ≠ [] → view client.updates = online.erase client.userId

theorem Client.updates_queueLine {client : Client} {outgoing : Outgoing}
    (fits : client.accepts outgoing = true) :
    (client.queueLine outgoing).updates = client.updates ++ outgoing.update.toList := by
  rw [Client.queueLine_of_accepts fits, Client.updates, List.filterMap_append]
  cases kind : outgoing.update <;> simp [kind, Client.updates]

/-- A line that is no presence line leaves the replica alone, accepted or not. -/
theorem Client.Informed.queueLine {online : Finset ByteString} {client : Client}
    (informed : client.Informed online) {outgoing : Outgoing} (other : outgoing.update = none) :
    (client.queueLine outgoing).Informed online := by
  cases fits : client.accepts outgoing with
  | false =>
    rw [Client.queueLine_of_full fits]
    exact informed
  | true =>
    have same : (client.queueLine outgoing).updates = client.updates := by
      rw [Client.updates_queueLine fits, other, Option.toList_none, List.append_nil]
    refine ⟨same ▸ informed.coherent, ?_⟩
    rw [same, Client.queueLine_userId]
    exact informed.upToDate

/-- The snapshot a new user gets makes its replica up to date, whatever it was before. -/
theorem Client.informed_snapshot {online : Finset ByteString} {client : Client}
    (coherent : Coherent client.updates) {users : List ByteString}
    (fits : client.accepts (.snapshot users) = true)
    (whole : users.toFinset = online.erase client.userId) :
    (client.queueLine (.snapshot users)).Informed online := by
  have updates : (client.queueLine (.snapshot users)).updates =
      client.updates ++ [.snapshot users] := Client.updates_queueLine fits
  refine ⟨?_, fun _ => ?_⟩
  · rw [updates]
    exact coherent.append_singleton trivial
  · rw [updates, Client.queueLine_userId, ← whole]
    exact view_append_singleton _ _

/-- Another user's login or disconnect reaches a client, whose replica follows the table. -/
theorem Client.Informed.hear {before after : Finset ByteString} {client : Client}
    (informed : client.Informed before) {userId : ByteString} {online : Bool}
    {update : Update ByteString} (told : (Outgoing.presence userId online).update = some update)
    (distinct : client.userId ≠ [] → client.userId ≠ userId)
    (fits : client.hears userId = true → client.accepts (.presence userId online) = true)
    (makesSense : ∀ owner, userId ≠ owner → update.Fits (before.erase owner))
    (follows : ∀ owner, userId ≠ owner → update.apply (before.erase owner) = after.erase owner) :
    (client.hear userId online).Informed after := by
  rw [Client.hear]
  by_cases loggedIn : client.userId = []
  · have deaf : client.hears userId = false := by simp [Client.hears, loggedIn]
    rw [if_neg (by rw [deaf]; exact Bool.false_ne_true)]
    exact ⟨informed.coherent, fun nonempty => absurd loggedIn nonempty⟩
  have other := (distinct loggedIn).symm
  have hears : client.hears userId = true := by simp [Client.hears, loggedIn, distinct loggedIn]
  have updates := Client.updates_queueLine (fits hears)
  rw [told, Option.toList_some] at updates
  have current := informed.upToDate loggedIn
  rw [if_pos hears]
  refine ⟨?_, fun _ => ?_⟩
  · rw [updates]
    refine informed.coherent.append_singleton ?_
    rw [current]
    exact makesSense _ other
  · rw [updates, Client.queueLine_userId, view_append_singleton, current]
    exact follows _ other

/-! ### Refused lines are counted -/

theorem Server.refusals_le_greet {server : Server} {socket : Socket} {client : Client}
    (present : server.clients.lookup socket = some client) (rehash : Rehash ByteString Socket)
    (userId : ByteString) :
    server.refusals ≤ (server.greet rehash socket client userId).refusals := by
  rw [Server.refusals_greet present]
  split
  · exact Nat.le_refl _
  · exact Nat.le_succ _

theorem Server.refusals_le_registerClient {server : Server} {socket : Socket} {client : Client}
    (present : server.clients.lookup socket = some client) (rehash : Rehash ByteString Socket)
    (userId : ByteString) :
    server.refusals ≤ (server.registerClient rehash socket userId).1.refusals := by
  have greeted := Server.refusals_le_greet present rehash userId
  rcases Server.registerClient_cases present rehash userId with
    ⟨-, refused⟩ | ⟨-, -, failed⟩ | ⟨-, -, succeeded⟩
  · rw [refused]
  · rw [failed]
    exact greeted
  · rw [succeeded]
    exact greeted.trans (Nat.le_add_right _ _)

theorem Server.refusals_le_routeMessage (server : Server) (rehash : Rehash ByteString Socket)
    (sender : Socket) (json : ByteString) :
    server.refusals ≤ (server.routeMessage rehash sender json).refusals := by
  cases present : server.clients.lookup sender with
  | none => rw [Server.routeMessage_of_absent present]
  | some client =>
    rw [Server.routeMessage_eq present]
    cases server.decision client json with
    | reply outgoing => exact server.refusals_le_queueLine sender outgoing
    | login userId =>
      have registered := Server.refusals_le_registerClient present rehash userId
      rw [Server.carryOut]
      split
      · exact registered
      · exact registered.trans (Server.refusals_le_queueLine _ _ _)
    | deliver target =>
      have queued := server.refusals_le_queueLine target (.routed client.userId json)
      rw [Server.carryOut]
      split
      · exact queued
      · exact queued.trans (Server.refusals_le_queueLine _ _ _)

theorem Server.refusals_le_disconnectClient (server : Server) (socket : Socket) :
    server.refusals ≤ (server.disconnectClient socket).refusals := by
  cases present : server.clients.lookup socket with
  | none => rw [Server.disconnectClient_of_absent present]
  | some client =>
    rw [Server.disconnectClient_eq present]
    split
    · exact Nat.le_add_right _ _
    · exact Nat.le_refl _

/-- The count of refused lines never goes down. -/
theorem Server.refusals_le_next (server : Server) (action : Action) :
    server.refusals ≤ (server.next action).refusals := by
  cases action with
  | accept accepted =>
    rcases server.acceptClient_cases accepted with same | ⟨-, opened⟩
    · exact (congrArg Server.refusals same).ge
    · exact (congrArg Server.refusals opened).ge
  | receive socket buffer => exact Nat.le_refl _
  | route socket json rehash => exact server.refusals_le_routeMessage rehash socket json
  | write socket results => exact Nat.le_refl _
  | disconnect socket => exact server.refusals_le_disconnectClient socket

/-! ### Every action -/

/-- Every client's replica is up to date. -/
def Server.Informed (server : Server) : Prop :=
  ∀ socket client, server.clients.lookup socket = some client → client.Informed server.online

/-- A reply that is no presence line keeps everybody informed. -/
theorem Server.Informed.queueLine {server : Server} (informed : server.Informed) (socket : Socket)
    {outgoing : Outgoing} (other : outgoing.update = none) :
    (server.queueLine socket outgoing).1.Informed := by
  intro place client found
  have sameUsers : (server.queueLine socket outgoing).1.online = server.online := by
    rw [Server.online, Server.queueLine_users, Server.online]
  rw [sameUsers]
  rw [Server.lookup_queueLine] at found
  split at found
  · obtain ⟨earlier, known, same⟩ := Option.map_eq_some_iff.mp found
    rw [← same]
    exact (informed place earlier known).queueLine other
  · exact informed place client found

/-- Reading and writing touch neither ids nor histories. -/
theorem Server.Informed.modify {server : Server} (informed : server.Informed) (socket : Socket)
    {update : Client → Client}
    (keeps : ∀ client, (update client).userId = client.userId ∧
      (update client).queued = client.queued) :
    Server.Informed
      { server with clients := Table.modify socket update server.clients } := by
  intro place client found
  rw [Table.lookup_modify] at found
  split at found
  · obtain ⟨earlier, known, same⟩ := Option.map_eq_some_iff.mp found
    have updates : client.updates = earlier.updates := by
      rw [← same, Client.updates, (keeps earlier).2, Client.updates]
    have before := informed place earlier known
    refine ⟨updates ▸ before.coherent, ?_⟩
    rw [updates, ← same, (keeps earlier).1]
    exact before.upToDate
  · exact informed place client found

theorem Server.online_enrol {server : Server} {userId : ByteString} (free : userId ∉ server.users)
    (rehash : Rehash ByteString Socket) (socket owner : Socket) :
    (server.enrol rehash socket owner userId).online = insert userId server.online := by
  refine Finset.ext fun other => ?_
  rw [Server.mem_online, Finset.mem_insert, Server.mem_online]
  simp only [Server.users_enrol free]
  by_cases same : other = userId <;> simp [same]

theorem Server.snapshotUsers_toFinset (server : Server) (userId : ByteString) :
    (server.snapshotUsers userId).toFinset = server.online.erase userId := by
  refine Finset.ext fun other => ?_
  rw [Server.snapshotUsers, List.mem_toFinset, List.mem_filter, Finset.mem_erase, Server.online,
    List.mem_toFinset, decide_eq_true_eq, and_comm]

/-- A login that is not refused tells the new user who is there and the others who came. -/
theorem Server.Informed.registerClient {server : Server} (informed : server.Informed)
    (consistent : Consistent server) {socket : Socket} {client : Client}
    (present : server.clients.lookup socket = some client) (rehash : Rehash ByteString Socket)
    (userId : ByteString)
    (smooth : (server.registerClient rehash socket userId).1.refusals = 0) :
    (server.registerClient rehash socket userId).1.Informed := by
  have greeted := Server.refusals_greet present rehash userId
  rcases Server.registerClient_cases present rehash userId with
    ⟨-, refused⟩ | ⟨-, full, failed⟩ | ⟨admitted, fits, succeeded⟩
  · rw [refused]
    exact informed
  · rw [failed] at smooth
    rw [smooth, full] at greeted
    cases greeted
  rw [succeeded] at smooth ⊢
  have grown : ((server.greet rehash socket client userId).broadcastPresence userId true).online =
      insert userId server.online := by
    rw [Server.online, Server.broadcastPresence_users, Server.greet_users,
      ← Server.online_enrol admitted.2 rehash socket client.socket, Server.online]
  intro place entry found
  rw [Server.lookup_registered present] at found
  rw [grown]
  split at found
  · rw [Option.some_inj] at found
    rw [← found, ← Server.online_enrol admitted.2 rehash socket client.socket]
    have coherent : Coherent ({ client with userId } : Client).updates :=
      (informed socket client present).coherent
    exact Client.informed_snapshot coherent fits (Server.snapshotUsers_toFinset _ userId)
  · rename_i elsewhere
    obtain ⟨earlier, known, heard⟩ := Option.map_eq_some_iff.mp found
    rw [← heard]
    have absent : userId ∉ server.online := fun member =>
      admitted.2 (Table.mem_iff_lookup.mpr (Server.mem_online.mp member))
    refine (informed place earlier known).hear rfl (fun loggedIn same => ?_) (fun hears => ?_)
      (fun owner _ => join_fits owner absent) fun owner other => join_erase other
    · exact absent (Server.mem_online.mpr ⟨place, same ▸ consistent.lookup_users known loggedIn⟩)
    · have there : (server.greet rehash socket client userId).clients.lookup place =
          some earlier := by
        rw [Server.lookup_greet present, if_neg elsewhere, known]
      exact Server.accepts_of_broadcastPresence smooth there hears

theorem Consistent.online_remove {server : Server} (consistent : Consistent server)
    {socket : Socket} {client : Client} (present : server.clients.lookup socket = some client) :
    (server.remove socket client.userId).online = server.online.erase client.userId := by
  refine Finset.ext fun other => ?_
  rw [Finset.mem_erase, Server.mem_online, Server.mem_online]
  simp only [consistent.users_remove present]
  by_cases same : other = client.userId <;> simp [same]

/-- Nobody is online under the empty id. -/
theorem Consistent.nil_notMem_online {server : Server} (consistent : Consistent server) :
    [] ∉ server.online := fun member =>
  have ⟨socket, named⟩ := Server.mem_online.mp member
  ((consistent.registered [] socket).mp named).1 rfl

/-- A disconnect without a refusal tells the others who left. -/
theorem Server.Informed.disconnectClient {server : Server} (informed : server.Informed)
    (consistent : Consistent server) (socket : Socket)
    (smooth : (server.disconnectClient socket).refusals = 0) :
    (server.disconnectClient socket).Informed := by
  cases present : server.clients.lookup socket with
  | none =>
    rw [Server.disconnectClient_of_absent present]
    exact informed
  | some client =>
    have shrunk := consistent.online_remove present
    intro place entry found
    rw [Server.lookup_disconnectClient present] at found
    split at found
    · cases found
    rename_i elsewhere
    obtain ⟨earlier, known, heard⟩ := Option.map_eq_some_iff.mp found
    rw [← heard]
    rw [Server.disconnectClient_eq present] at smooth ⊢
    by_cases loggedIn : client.userId = []
    · rw [if_neg (not_not.mpr loggedIn), if_neg (not_not.mpr loggedIn), shrunk, loggedIn,
        Finset.erase_eq_of_notMem consistent.nil_notMem_online]
      exact informed place earlier known
    · rw [if_pos loggedIn] at smooth ⊢
      have told : ((server.remove socket client.userId).broadcastPresence client.userId
          false).online = server.online.erase client.userId := shrunk
      rw [if_pos loggedIn, told]
      have member : client.userId ∈ server.online :=
        Server.mem_online.mpr ⟨socket, consistent.lookup_users present loggedIn⟩
      refine (informed place earlier known).hear rfl (fun _ same => elsewhere ?_) (fun hears => ?_)
        (fun owner other => leave_fits other member) fun owner _ => leave_erase _ owner _
      · exact (consistent.unique present known loggedIn same.symm).symm
      · have there : (server.remove socket client.userId).clients.lookup place = some earlier := by
          rw [Server.lookup_remove, if_neg elsewhere, known]
        exact Server.accepts_of_broadcastPresence smooth there hears

theorem Server.Informed.routeMessage {server : Server} (informed : server.Informed)
    (consistent : Consistent server) (rehash : Rehash ByteString Socket) (sender : Socket)
    (json : ByteString) (smooth : (server.routeMessage rehash sender json).refusals = 0) :
    (server.routeMessage rehash sender json).Informed := by
  cases present : server.clients.lookup sender with
  | none =>
    rw [Server.routeMessage_of_absent present]
    exact informed
  | some client =>
    rw [Server.routeMessage_eq present] at smooth ⊢
    cases decided : server.decision client json with
    | reply outgoing =>
      refine informed.queueLine sender ?_
      rcases Server.decision_eq_reply decided with rfl | ⟨code, rfl⟩ <;> rfl
    | login userId =>
      rw [decided, Server.carryOut] at smooth
      rw [Server.carryOut]
      split at smooth
      · rename_i accepted
        rw [if_pos accepted]
        exact informed.registerClient consistent present rehash userId smooth
      · rename_i refused
        rw [if_neg refused]
        refine (informed.registerClient consistent present rehash userId ?_).queueLine sender rfl
        exact Nat.le_zero.mp (smooth ▸ Server.refusals_le_queueLine _ _ _)
    | deliver target =>
      have delivered : (server.queueLine target (.routed client.userId json)).1.Informed :=
        informed.queueLine target rfl
      rw [Server.carryOut]
      split
      · exact delivered
      · exact delivered.queueLine sender rfl

theorem Server.Informed.next {server : Server} (informed : server.Informed)
    (consistent : Consistent server) {action : Action} (allowed : server.allowed action)
    (smooth : (server.next action).refusals = 0) : (server.next action).Informed := by
  cases action with
  | accept accepted =>
    rcases server.acceptClient_cases accepted with same | ⟨-, opened⟩
    · rw [Server.next, same]
      exact informed
    rw [Server.next, opened]
    intro socket client found
    rw [Table.lookup_emplace allowed] at found
    split at found
    · rw [Option.some_inj] at found
      rw [← found]
      exact ⟨coherent_nil, fun nonempty => absurd rfl nonempty⟩
    · exact informed socket client found
  | receive socket buffer => exact informed.modify socket fun _ => ⟨rfl, rfl⟩
  | route socket json rehash => exact informed.routeMessage consistent rehash socket json smooth
  | write socket results =>
    refine informed.modify socket fun client => ?_
    obtain ⟨buffer, written, -⟩ := client.writeClient_spec results
    rw [written]
    exact ⟨rfl, rfl⟩
  | disconnect socket => exact informed.disconnectClient consistent socket smooth

/-- Everybody is informed in every reachable state without a refusal. -/
theorem informed_of_reachable {server : Server} (reachable : system.Reachable server)
    (smooth : server.refusals = 0) : server.Informed := by
  induction reachable with
  | start initial =>
    cases initial
    intro socket client present
    cases present
  | step earlier allowed inductionHypothesis =>
    have before := Nat.le_zero.mp ((Server.refusals_le_next _ _).trans_eq smooth)
    exact (inductionHypothesis before).next (consistent_of_reachable earlier) allowed smooth

/-- In every run in which no `QueueLine` has returned false, folding the presence lines queued to
a logged-in client gives the key set of `g_users` without the client's own id; every online
change names an id the client did not yet see, every offline change one that it saw. -/
theorem presence_streams_consistent {server : Server} (reachable : system.Reachable server)
    (smooth : server.refusals = 0) {socket : Socket} {client : Client}
    (present : server.clients.lookup socket = some client) (loggedIn : client.userId ≠ []) :
    view client.updates = server.users.keys.toFinset.erase client.userId ∧
      ∀ before update after, client.updates = before ++ update :: after →
        update.Fits (view before) :=
  have informed := informed_of_reachable reachable smooth socket client present
  ⟨informed.upToDate loggedIn, informed.coherent⟩

theorem presence_streams_consistent_logins :
    ∃ client, (system.run {} (logins (bytes "alice") (bytes "bob"))).clients.lookup 1 =
        some client ∧ view client.updates = {bytes "bob"} := by
  have reachable := reachable_run
    (show system.Allows {} (logins (bytes "alice") (bytes "bob")) by decide)
  have smooth : (system.run {} (logins (bytes "alice") (bytes "bob"))).refusals = 0 := by
    decide
  obtain ⟨client, present, named⟩ : ∃ client, (system.run {} (logins (bytes "alice")
      (bytes "bob"))).clients.lookup 1 = some client ∧ client.userId = bytes "alice" :=
    ⟨_, rfl, by decide⟩
  refine ⟨client, present, ?_⟩
  rw [(presence_streams_consistent reachable smooth present
    (by rw [named]; decide)).1, named]
  decide

end RemoteControl.SignalingServer

/-
This file proves what a client is told first. Until a client has logged in it gets
no presence line; the login brings a snapshot, and everything else of that kind
comes behind it. So a client that starts anew with every snapshot sees nothing of
what an earlier connection left.
-/

import RemoteControl.Server.Presence
import RemoteControl.Server.Transport

namespace RemoteControl.SignalingServer

open Replica

/-! ### What a step tells a client -/

/-- The ids an update is about. -/
def elements : Update ByteString → List ByteString
  | .snapshot users => users
  | .join userId => [userId]
  | .leave userId => [userId]

/-- A user id and the presence updates that were queued for it. -/
abbrev Record := ByteString × List (Update ByteString)

/-- What `observed` sees of a client here. -/
def Client.record (client : Client) : Record := (client.userId, client.updates)

/-- What a step without a refusal does to a client: it tells nothing about presence, or it gives it
a user id with a snapshot, or it tells a user that somebody came or went. -/
inductive Told : Record → Record → Prop where
  | nothing {record : Record} : Told record record
  | welcome {userId : ByteString} {users : List ByteString} {updates : List (Update ByteString)}
      (named : userId ≠ []) (once : users.Nodup)
      (registrable : ∀ userId ∈ users, Registrable userId) :
      Told ([], updates) (userId, updates ++ [.snapshot users])
  | change {userId other : ByteString} {update : Update ByteString}
      {updates : List (Update ByteString)} (named : userId ≠ []) (about : elements update = [other])
      (registrable : Registrable other) :
      Told (userId, updates) (userId, updates ++ [update])

section

variable {client : Client} {userId : ByteString}

theorem Client.record_queueLine {outgoing : Outgoing} (other : outgoing.update = none) :
    (client.queueLine outgoing).record = client.record := by
  rw [Client.record, Client.queueLine_userId, Client.record]
  cases fits : client.accepts outgoing with
  | false => rw [Client.queueLine_of_full fits]
  | true => rw [Client.updates_queueLine fits, other, Option.toList_none, List.append_nil]

theorem Client.told_hear {online : Bool} (registrable : Registrable userId)
    (fits : client.hears userId = true → client.accepts (.presence userId online) = true) :
    Told client.record (client.hear userId online).record := by
  rw [Client.hear]
  split
  · rename_i hears
    have named : client.userId ≠ [] := (of_decide_eq_true hears).1
    rw [Client.record, Client.record, Client.queueLine_userId,
      Client.updates_queueLine (fits hears)]
    cases online <;> exact .change named rfl registrable
  · exact .nothing

/-- The snapshot of a login. -/
theorem Client.told_greeting {users : List ByteString} (anonymous : client.userId = [])
    (named : userId ≠ []) (once : users.Nodup) (registrable : ∀ userId ∈ users, Registrable userId)
    (fits : client.accepts (.snapshot users) = true) :
    Told client.record (({ client with userId } : Client).queueLine (.snapshot users)).record := by
  have queued : (({ client with userId } : Client).queueLine (.snapshot users)).updates =
      client.updates ++ [.snapshot users] := Client.updates_queueLine fits
  rw [Client.record, Client.record, Client.queueLine_userId, queued, anonymous]
  exact .welcome named once registrable

end

/-- What a step of the server tells its clients; one that was just accepted was told nothing. -/
def Server.Tells (before after : Server) : Prop :=
  ∀ place, ∀ record ∈ after.observed Client.record place,
    record = ([], []) ∨ ∃ earlier ∈ before.observed Client.record place, Told earlier record

section

variable {server : Server}

theorem Server.tells_of_observed {after : Server}
    (same : ∀ place, after.observed Client.record place = server.observed Client.record place) :
    server.Tells after :=
  fun place record found => Or.inr ⟨record, same place ▸ found, .nothing⟩

/-- A step that changes clients one by one. -/
theorem Server.tells_of_lookup {after : Server}
    (found : ∀ place client, after.clients.lookup place = some client →
      ∃ earlier, server.clients.lookup place = some earlier ∧
        Told earlier.record client.record) : server.Tells after := by
  intro place record seen
  obtain ⟨client, there, rfl⟩ := Option.map_eq_some_iff.mp seen
  obtain ⟨earlier, before, told⟩ := found place client there
  exact Or.inr ⟨_, Option.map_eq_some_iff.mpr ⟨earlier, before, rfl⟩, told⟩

/-- A line that is no presence line. -/
theorem Server.observed_record_queueLine (server : Server) (socket : Socket) {outgoing : Outgoing}
    (other : outgoing.update = none) (place : Socket) :
    (server.queueLine socket outgoing).1.observed Client.record place =
      server.observed Client.record place := by
  have lookup := server.lookup_queueLine socket outgoing place
  split at lookup
  · rename_i here
    subst here
    exact Server.observed_of_map lookup fun client => Client.record_queueLine other
  · exact Server.observed_congr lookup

theorem Server.tells_registerClient (consistent : Consistent server) {socket : Socket}
    {client : Client} (present : server.clients.lookup socket = some client)
    (anonymous : client.userId = []) (rehash : Rehash ByteString Socket) (userId : ByteString)
    (smooth : (server.registerClient rehash socket userId).1.refusals = 0) :
    server.Tells (server.registerClient rehash socket userId).1 := by
  have greeted := Server.refusals_greet present rehash userId
  rcases Server.registerClient_cases present rehash userId with
    ⟨-, refused⟩ | ⟨-, full, failed⟩ | ⟨admitted, fits, succeeded⟩
  · rw [refused]
    exact Server.tells_of_observed fun _ => rfl
  · rw [failed] at smooth
    rw [smooth, full] at greeted
    cases greeted
  rw [succeeded] at smooth ⊢
  refine Server.tells_of_lookup fun place entry found => ?_
  rw [Server.lookup_registered present] at found
  split at found
  · rename_i here
    subst here
    cases Option.some_inj.mp found
    refine ⟨client, present, ?_⟩
    have once : ((server.enrol rehash place client.socket userId).snapshotUsers userId).Nodup :=
      AList.keys_nodup _ |>.filter _
    refine Client.told_greeting anonymous admitted.1.1 once (fun other member => ?_) fits
    have listed := List.mem_toFinset.mpr member
    rw [Server.snapshotUsers_toFinset, Server.online_enrol admitted.2, Finset.erase_insert_eq_erase]
      at listed
    exact consistent.registrable other
      (Table.mem_iff_lookup.mpr (Server.mem_online.mp (Finset.mem_of_mem_erase listed)))
  · rename_i elsewhere
    obtain ⟨earlier, known, rfl⟩ := Option.map_eq_some_iff.mp found
    refine ⟨earlier, known, Client.told_hear admitted.1 fun hears => ?_⟩
    have there : (server.greet rehash socket client userId).clients.lookup place =
        some earlier := by
      rw [Server.lookup_greet present, if_neg elsewhere, known]
    exact Server.accepts_of_broadcastPresence smooth there hears

theorem Server.tells_disconnectClient (consistent : Consistent server) (socket : Socket)
    (smooth : (server.disconnectClient socket).refusals = 0) :
    server.Tells (server.disconnectClient socket) := by
  cases present : server.clients.lookup socket with
  | none =>
    rw [Server.disconnectClient_of_absent present]
    exact Server.tells_of_observed fun _ => rfl
  | some client =>
    refine Server.tells_of_lookup fun place entry found => ?_
    rw [Server.lookup_disconnectClient present] at found
    split at found
    · cases found
    rename_i elsewhere
    obtain ⟨earlier, known, rfl⟩ := Option.map_eq_some_iff.mp found
    refine ⟨earlier, known, ?_⟩
    split
    · rename_i loggedIn
      refine Client.told_hear (consistent.registrable_userId present loggedIn) fun hears => ?_
      rw [Server.disconnectClient_eq present, if_pos loggedIn] at smooth
      have there : (server.remove socket client.userId).clients.lookup place = some earlier := by
        rw [Server.lookup_remove, if_neg elsewhere, known]
      exact Server.accepts_of_broadcastPresence smooth there hears
    · exact .nothing

theorem Server.tells_routeMessage (consistent : Consistent server)
    (rehash : Rehash ByteString Socket) (sender : Socket) (json : ByteString)
    (smooth : (server.routeMessage rehash sender json).refusals = 0) :
    server.Tells (server.routeMessage rehash sender json) := by
  cases present : server.clients.lookup sender with
  | none =>
    rw [Server.routeMessage_of_absent present]
    exact Server.tells_of_observed fun _ => rfl
  | some client =>
    rw [Server.routeMessage_eq present] at smooth ⊢
    cases decided : server.decision client json with
    | reply outgoing =>
      refine Server.tells_of_observed (server.observed_record_queueLine sender ?_)
      rcases Server.decision_eq_reply decided with rfl | ⟨code, rfl⟩ <;> rfl
    | login userId =>
      have anonymous := (Server.decision_eq_login decided).1
      rw [decided, Server.carryOut] at smooth
      rw [Server.carryOut]
      split at smooth
      · rename_i accepted
        rw [if_pos accepted]
        exact Server.tells_registerClient consistent present anonymous rehash userId smooth
      · rename_i refused
        rw [if_neg refused]
        have quiet : (server.registerClient rehash sender userId).1.refusals = 0 :=
          Nat.le_zero.mp (smooth ▸ Server.refusals_le_queueLine _ _ _)
        have tells :=
          Server.tells_registerClient consistent present anonymous rehash userId quiet
        intro place record seen
        rw [Server.refuse, Server.observed_record_queueLine _ _ rfl] at seen
        exact tells place record seen
    | deliver target =>
      refine Server.tells_of_observed fun place => ?_
      have delivered := server.observed_record_queueLine target
        (show (Outgoing.routed client.userId json).update = none from rfl) place
      rw [Server.carryOut]
      split
      · exact delivered
      · rw [Server.refuse, Server.observed_record_queueLine _ _ rfl, delivered]

/-- What every action of the server tells its clients, as long as no line is refused. -/
theorem Server.tells_next (consistent : Consistent server) {action : Action}
    (allowed : server.allowed action) (smooth : (server.next action).refusals = 0) :
    server.Tells (server.next action) := by
  cases action with
  | accept accepted =>
    rcases server.acceptClient_cases accepted with same | ⟨-, opened⟩
    · rw [Server.next, same]
      exact Server.tells_of_observed fun _ => rfl
    rw [Server.next, opened]
    intro place record seen
    obtain ⟨client, found, rfl⟩ := Option.map_eq_some_iff.mp seen
    rw [Table.lookup_emplace allowed] at found
    split at found
    · cases Option.some_inj.mp found
      exact Or.inl rfl
    · exact Or.inr ⟨_, Option.map_eq_some_iff.mpr ⟨client, found, rfl⟩, .nothing⟩
  | receive socket buffer =>
    exact Server.tells_of_observed (server.observed_modify socket _ fun _ => rfl)
  | route socket json rehash =>
    exact Server.tells_routeMessage consistent rehash socket json smooth
  | write socket results =>
    refine Server.tells_of_observed (server.observed_modify socket _ fun client => ?_)
    obtain ⟨buffer, written, -⟩ := client.writeClient_spec results
    rw [written]
    rfl
  | disconnect socket => exact Server.tells_disconnectClient consistent socket smooth

end

/-! ### The snapshot comes first -/

/-- A client without a user id was told nothing, one with a user id has its snapshot in front, and
every update is about registrable ids, which a snapshot lists once. -/
structure Welcomed (record : Record) : Prop where
  anonymous : record.1 = [] → record.2 = []
  snapshotFirst : record.1 ≠ [] → ∃ users rest, record.2 = .snapshot users :: rest
  registrable : ∀ update ∈ record.2, (elements update).Nodup ∧
    ∀ userId ∈ elements update, Registrable userId

theorem Welcomed.told {earlier record : Record} (welcomed : Welcomed earlier)
    (told : Told earlier record) : Welcomed record := by
  cases told with
  | nothing => exact welcomed
  | @welcome userId users updates named once registrable =>
    obtain rfl : updates = [] := welcomed.anonymous rfl
    refine ⟨fun nobody => absurd nobody named, fun _ => ⟨users, [], rfl⟩, fun update member => ?_⟩
    obtain rfl := List.mem_singleton.mp member
    exact ⟨once, registrable⟩
  | @change userId other update updates named about registrable =>
    refine ⟨fun nobody => absurd nobody named, fun _ => ?_, fun update member => ?_⟩
    · obtain ⟨users, rest, front⟩ := welcomed.snapshotFirst named
      exact ⟨users, rest ++ [update], by rw [show updates = _ from front, List.cons_append]⟩
    · rcases List.mem_append.mp member with before | last
      · exact welcomed.registrable update before
      · obtain rfl := List.mem_singleton.mp last
        rw [about]
        exact ⟨List.nodup_singleton _,
          fun userId named => List.mem_singleton.mp named ▸ registrable⟩

/-- Every client is welcomed in every reachable state without a refusal. -/
theorem welcomed_of_reachable {server : Server} (reachable : system.Reachable server)
    (smooth : server.refusals = 0) {socket : Socket} {client : Client}
    (present : server.clients.lookup socket = some client) : Welcomed client.record := by
  suffices all : ∀ place, ∀ record ∈ server.observed Client.record place, Welcomed record from
    all socket _ (Option.map_eq_some_iff.mpr ⟨client, present, rfl⟩)
  clear present
  induction reachable with
  | start initial =>
    cases initial
    intro place record seen
    cases seen
  | step earlier allowed inductionHypothesis =>
    have before := Nat.le_zero.mp ((Server.refusals_le_next _ _).trans_eq smooth)
    intro place record seen
    rcases Server.tells_next (consistent_of_reachable earlier) allowed smooth place record seen with
      rfl | ⟨old, there, told⟩
    · exact ⟨fun _ => rfl, fun named => absurd rfl named, nofun⟩
    · exact (inductionHypothesis before place old there).told told

end RemoteControl.SignalingServer

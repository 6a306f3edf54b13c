/-
This file follows the presence lines from the server into the list box: queued by
`QueueLine`, written in parts, cut into messages by the receiving thread and
dispatched in their order. Whatever the list showed before, from the snapshot on it
shows what the server has told so far, and once nothing is on the way it shows
exactly the users who are online.
-/

import RemoteControl.Peer.OnlineUsers
import RemoteControl.Server.Outbound
import RemoteControl.Server.Sender
import RemoteControl.Server.Snapshot
import RemoteControl.Server.Welcome

namespace RemoteControl.Call

open Peer Replica SignalingServer

/-! ### Updates of the list -/

/-- What a presence update does to the list. -/
def replay (windows : Windows) (items : List WideString) : Update ByteString → List WideString
  | .snapshot users => users.map windows.ca2w
  | .join userId => receive windows items ⟨userId, true⟩
  | .leave userId => receive windows items ⟨userId, false⟩

/-- The ids of some updates: they are ASCII, and no two differ in letter case only. -/
structure Distinguishable (updates : List (Update ByteString)) : Prop where
  ascii : ∀ update ∈ updates, ∀ userId ∈ elements update, IsAscii userId
  distinct : ∀ update ∈ updates, ∀ userId ∈ elements update, ∀ other ∈ updates,
    ∀ otherId ∈ elements other, SameLetters (widen otherId) (widen userId) → otherId = userId

theorem Distinguishable.of_prefix {earlier updates : List (Update ByteString)}
    (distinguishable : Distinguishable updates) (front : earlier <+: updates) :
    Distinguishable earlier where
  ascii update member := distinguishable.ascii update (front.subset member)
  distinct update member userId named other also :=
    distinguishable.distinct update (front.subset member) userId named other (front.subset also)

/-- The list behind some updates: it shows users who were told of. -/
structure Lists (updates : List (Update ByteString)) (items : List WideString)
    (users : List ByteString) : Prop where
  shown : items = users.map widen
  once : users.Nodup
  current : users.toFinset = view updates
  told : ∀ userId ∈ users, ∃ update ∈ updates, userId ∈ elements update

section

variable {windows : Windows} {updates : List (Update ByteString)} {items : List WideString}
  {users : List ByteString}

theorem Lists.snapshot {everybody : List ByteString} (once : everybody.Nodup)
    (ascii : ∀ userId ∈ everybody, IsAscii userId) :
    Lists (updates ++ [.snapshot everybody]) (replay windows items (.snapshot everybody))
      everybody where
  shown := map_ca2w windows ascii
  once := once
  current := by rw [view_append_singleton]; rfl
  told userId member := ⟨.snapshot everybody, by simp, member⟩

/-- Somebody comes or goes, as the list sees it. -/
theorem Lists.change (lists : Lists updates items users) {change : Change}
    {update : Update ByteString} (about : elements update = [change.userId])
    (follows : update.apply (view updates) = (follow users change).toFinset)
    (fits : change.online = true ↔ change.userId ∉ view updates)
    (registrable : Registrable change.userId)
    (distinguishable : Distinguishable (updates ++ [update])) :
    Lists (updates ++ [update]) (receive windows items change) (follow users change) := by
  have named : change.userId ∈ elements update := about ▸ List.mem_singleton_self _
  have last : update ∈ updates ++ [update] := List.mem_append_right _ (List.mem_singleton_self _)
  have ascii : ∀ userId ∈ users, IsAscii userId := by
    intro userId member
    obtain ⟨earlier, there, mentioned⟩ := lists.told userId member
    exact distinguishable.ascii earlier (List.mem_append_left _ there) userId mentioned
  have admissible : change.online = true ↔ change.userId ∉ users := by
    rw [fits, ← lists.current, List.mem_toFinset]
  refine ⟨?_, nodup_follow lists.once admissible, ?_, fun userId member => ?_⟩
  · rw [lists.shown]
    refine receive_of_not_clashes lists.once ascii registrable
      (distinguishable.ascii update last _ named) admissible ?_
    rintro ⟨other, member, different, letters⟩
    obtain ⟨earlier, there, mentioned⟩ := lists.told other member
    exact different (distinguishable.distinct update last _ named earlier
      (List.mem_append_left _ there) other mentioned letters)
  · rw [view_append_singleton, follows]
  · rw [follow] at member
    split at member
    · rcases List.mem_append.mp member with before | new
      · obtain ⟨earlier, there, mentioned⟩ := lists.told userId before
        exact ⟨earlier, List.mem_append_left _ there, mentioned⟩
      · exact ⟨update, last, List.mem_singleton.mp new ▸ named⟩
    · obtain ⟨earlier, there, mentioned⟩ := lists.told userId (List.mem_of_mem_erase member)
      exact ⟨earlier, List.mem_append_left _ there, mentioned⟩

/-- Behind a snapshot the list follows the updates. -/
theorem lists_replay (coherent : Coherent updates)
    (snapshotFirst : ∃ users rest, updates = .snapshot users :: rest)
    (registrable : ∀ update ∈ updates, (elements update).Nodup ∧
      ∀ userId ∈ elements update, Registrable userId)
    (distinguishable : Distinguishable updates) :
    ∃ users, Lists updates (updates.foldl (replay windows) items) users := by
  induction updates using List.reverseRecOn with
  | nil => obtain ⟨_, _, nothing⟩ := snapshotFirst; cases nothing
  | append_singleton updates update inductionHypothesis =>
    have last : update ∈ updates ++ [update] := List.mem_append_right _ (List.mem_singleton_self _)
    have fits := coherent updates update [] rfl
    rw [List.foldl_append, List.foldl_cons, List.foldl_nil]
    have before (change : ∀ users, update ≠ .snapshot users) :
        ∃ users, Lists updates (updates.foldl (replay windows) items) users := by
      refine inductionHypothesis (fun before update after whole => coherent before update
        (after ++ [_]) (by rw [whole, List.append_assoc, List.cons_append])) ?_
        (fun update member => registrable update (List.mem_append_left _ member))
        (distinguishable.of_prefix (List.prefix_append _ _))
      obtain ⟨users, rest, whole⟩ := snapshotFirst
      cases updates with
      | nil => exact absurd (List.cons.inj whole).1 (change users)
      | cons first others => exact ⟨users, others, by rw [(List.cons.inj whole).1]⟩
    cases update with
    | snapshot users =>
      exact ⟨users, .snapshot (registrable _ last).1 (distinguishable.ascii _ last)⟩
    | join userId =>
      obtain ⟨users, lists⟩ := before (by simp)
      refine ⟨follow users ⟨userId, true⟩, lists.change rfl ?_ (iff_of_true rfl fits)
        ((registrable _ last).2 userId (.head _)) distinguishable⟩
      rw [← lists.current]
      ext other
      simp only [Update.apply, follow, if_true, Finset.mem_insert, List.mem_toFinset,
        List.mem_append, List.mem_singleton]
      exact or_comm
    | leave userId =>
      obtain ⟨users, lists⟩ := before (by simp)
      refine ⟨follow users ⟨userId, false⟩, lists.change rfl ?_
        (iff_of_false Bool.false_ne_true (not_not.mpr fits))
        ((registrable _ last).2 userId (.head _)) distinguishable⟩
      rw [← lists.current]
      ext other
      simp [Update.apply, follow, lists.once.mem_erase_iff]

end

/-! ### Lines of the server -/

/-- A line that is no routed one, or whose type the client reads as that of a call. -/
def Readable : Outgoing → Prop :=
  Outgoing.Carries fun senderId json =>
    SignalingProtocol.stringField (addSender json senderId) (bytes "type") ∈ callTypes

section

variable {outgoing : Outgoing} {windows : Windows} {items : List WideString}

theorem line_ne_nil (readable : Readable outgoing) : outgoing.line ≠ [] := by
  cases outgoing with
  | routed senderId json =>
    intro empty
    rw [Readable, Outgoing.Carries, show addSender json senderId = [] from empty] at readable
    revert readable
    decide
  | error code => cases code <;> exact List.cons_ne_nil _ _
  | pong | snapshot users | presence userId online => exact List.cons_ne_nil _ _

/-- The type of a line that is no presence line. -/
theorem dispatchPresence_of_type {json type : ByteString}
    (read : SignalingProtocol.stringField json (bytes "type") = type)
    (noSnapshot : type ≠ bytes "presence.snapshot") (noChange : type ≠ bytes "presence.changed") :
    dispatchPresence windows items json = items := by
  rw [dispatchPresence, read]
  simp only
  rw [if_neg noSnapshot, if_neg noChange]

/-- A line changes the list as its update says. -/
theorem dispatchPresence_line (readable : Readable outgoing)
    (registrable : ∀ update ∈ outgoing.update, ∀ userId ∈ elements update,
      Registrable userId ∧ userId ≠ bytes "userId") :
    dispatchPresence windows items outgoing.line =
      outgoing.update.toList.foldl (replay windows) items := by
  cases outgoing with
  | pong => exact dispatchPresence_of_type rfl (by decide) (by decide)
  | error code =>
    have read : SignalingProtocol.stringField (Outgoing.error code).line (bytes "type") =
        bytes "error" := by cases code <;> rfl
    exact dispatchPresence_of_type read (by decide) (by decide)
  | routed senderId json =>
    have others : ∀ type ∈ callTypes,
        type ≠ bytes "presence.snapshot" ∧ type ≠ bytes "presence.changed" := by decide
    exact dispatchPresence_of_type rfl (others _ readable).1 (others _ readable).2
  | snapshot users =>
    have named : ∀ userId ∈ users, Registrable userId ∧ userId ≠ bytes "userId" :=
      registrable (.snapshot users) rfl
    have read : SignalingProtocol.stringField (snapshotLine users) (bytes "type") =
        bytes "presence.snapshot" := rfl
    have ids : SignalingProtocol.userIds (snapshotLine users) = users := by
      rw [userIds_snapshotLine fun userId member => (named userId member).1]
      exact readIds_eq_self fun member =>
        (named _ (List.mem_of_mem_dropLast member)).2 rfl
    show dispatchPresence windows items (snapshotLine users) = _
    rw [dispatchPresence, read, ids]
    rfl
  | presence userId online => cases online <;> rfl

/-- So do the lines of a queue. -/
theorem foldl_dispatchPresence {queued : List Outgoing} (readable : ∀ outgoing ∈ queued,
    Readable outgoing) (registrable : ∀ update ∈ queued.filterMap Outgoing.update,
      ∀ userId ∈ elements update, Registrable userId ∧ userId ≠ bytes "userId") :
    (queued.map Outgoing.line).foldl (dispatchPresence windows) items =
      (queued.filterMap Outgoing.update).foldl (replay windows) items := by
  induction queued generalizing items with
  | nil => rfl
  | cons outgoing rest inductionHypothesis =>
    have all : outgoing.update.toList ++ rest.filterMap Outgoing.update =
        (outgoing :: rest).filterMap Outgoing.update := by
      cases told : outgoing.update <;> simp [told]
    rw [List.map_cons, List.foldl_cons,
      dispatchPresence_line (readable _ (.head _)) fun update own =>
        registrable update (all ▸ List.mem_append_left _ (Option.mem_toList.mpr own)),
      inductionHypothesis (fun outgoing member => readable outgoing (.tail _ member))
        fun update member => registrable update (all ▸ List.mem_append_right _ member),
      ← List.foldl_append, all]

theorem messages_lines {queued : List Outgoing} (readable : ∀ outgoing ∈ queued,
    Readable outgoing) : messages (queued.map Outgoing.line) = queued.map Outgoing.line := by
  refine List.filter_eq_self.mpr fun line member => decide_eq_true ?_
  obtain ⟨outgoing, there, rfl⟩ := List.mem_map.mp member
  exact line_ne_nil (readable outgoing there)

end

/-! ### From the server to the list box -/

/-- A client whose lines the other side can read: the ids it was told of are distinguishable, none
of them is called like their field, and the type of every routed line is readable. -/
structure Legible (client : Client) : Prop where
  distinguishable : Distinguishable client.updates
  notField : ∀ update ∈ client.updates, bytes "userId" ∉ elements update
  readable : ∀ senderId json, .routed senderId json ∈ client.queued → TypeReadable senderId json

theorem server_of_reachable {network : Network} (reachable : networkSystem.Reachable network) :
    system.Reachable network.server := by
  induction reachable with
  | start initial =>
    cases initial
    exact .start rfl
  | @step network action _ allowed earlier =>
    cases action with
    | serve action =>
      show system.Reachable (network.serve action).server
      rw [network.serve_server]
      exact earlier.step allowed.1
    | receive socket count | receiveClosed index count => exact earlier

/-- Every routed line of a queue was checked. -/
theorem vetted_of_reachable {server : Server} (reachable : system.Reachable server) :
    server.Each (Client.All (Outgoing.Carries Vetted)) := by
  have meets : (system.restrict (Server.Submits fun _ _ => True)).Reachable server :=
    reachable.restrict fun server action _ => by cases action <;> simp [Server.Submits]
  exact carries_of_restrict (fun vetted _ => vetted) meets

theorem Legible.readable_line {client : Client} (legible : Legible client)
    (vetted : client.All (Outgoing.Carries Vetted)) : ∀ outgoing ∈ client.queued,
      Readable outgoing := by
  intro outgoing member
  have checked := vetted outgoing member
  cases outgoing with
  | routed senderId json =>
    have intact := checked.type_intact_iff.mpr (legible.readable senderId json member)
    rw [TypeIntact] at intact
    rw [Readable, Outgoing.Carries, intact]
    exact checked.callType
  | _ => trivial

/-- A list that shows some users shows them in any other order. -/
theorem shows_congr {windows : Windows} {items : List WideString} {users others : List ByteString}
    (same : users.toFinset = others.toFinset) (shows : Shows windows items users) :
    Shows windows items others := by
  refine ⟨shows.1, fun text => (shows.2 text).trans (exists_congr fun userId => ?_)⟩
  rw [← List.mem_toFinset, same, List.mem_toFinset]

/-- What a client with a snapshot in front is told. -/
structure Sound (client : Client) : Prop where
  coherent : Coherent client.updates
  welcomed : Welcomed client.record
  readable : ∀ outgoing ∈ client.queued, Readable outgoing

section

variable {client : Client} {queued : List Outgoing} {windows : Windows} {items : List WideString}

/-- A front of the queue changes the list as its updates say. -/
theorem Legible.foldl (legible : Legible client) (sound : Sound client)
    (front : queued <+: client.queued) :
    (queued.map Outgoing.line).foldl (dispatchPresence windows) items =
      (queued.filterMap Outgoing.update).foldl (replay windows) items := by
  refine foldl_dispatchPresence
    (fun outgoing member => sound.readable outgoing (front.subset member))
    fun update member userId named => ?_
  have there : update ∈ client.updates := (front.filterMap _).subset member
  exact ⟨(sound.welcomed.registrable update there).2 userId named,
    fun same => legible.notField update there (same ▸ named)⟩

/-- A front of the queue with an update in it shows the users it tells of. -/
theorem Legible.shows (legible : Legible client) (sound : Sound client)
    (loggedIn : client.userId ≠ []) (front : queued <+: client.queued)
    (told : queued.filterMap Outgoing.update ≠ []) :
    ∃ users, users.toFinset = view (queued.filterMap Outgoing.update) ∧
      Shows windows ((queued.map Outgoing.line).foldl (dispatchPresence windows) items) users := by
  have updates : queued.filterMap Outgoing.update <+: client.updates := front.filterMap _
  have ⟨more, whole⟩ := updates
  obtain ⟨everybody, rest, first⟩ := sound.welcomed.snapshotFirst loggedIn
  have distinguishable := legible.distinguishable.of_prefix updates
  obtain ⟨users, lists⟩ : ∃ users, Lists (queued.filterMap Outgoing.update)
      ((queued.filterMap Outgoing.update).foldl (replay windows) items) users := by
    refine lists_replay (fun before update after split => ?_) ?_
      (fun update member => sound.welcomed.registrable update (updates.subset member))
      distinguishable
    · exact sound.coherent before update (after ++ more) (by
        rw [← whole, split, List.append_assoc, List.cons_append])
    · cases some : queued.filterMap Outgoing.update with
      | nil => exact absurd some told
      | cons update others =>
        rw [some, List.cons_append, show client.updates = _ from first] at whole
        exact ⟨everybody, others, by rw [(List.cons.inj whole).1]⟩
  have ascii : ∀ userId ∈ users, IsAscii userId := by
    intro userId member
    obtain ⟨update, there, named⟩ := lists.told userId member
    exact distinguishable.ascii update there userId named
  refine ⟨users, lists.current, ?_⟩
  rw [legible.foldl sound front, lists.shown, ← map_ca2w windows ascii]
  exact shows_widen lists.once ascii

end

/-- What the list box of a logged-in user shows, whatever it showed before the connection: a user
who has been told of nothing yet sees it unchanged; else it shows exactly the users who are online
according to what has arrived; and once nothing is on the way these are the other users in
`g_users`. -/
theorem online_list_end_to_end {network : Network} (reachable : networkSystem.Reachable network)
    (smooth : network.server.refusals = 0) {socket : Socket} {client : Client}
    (present : network.server.clients.lookup socket = some client) (loggedIn : client.userId ≠ [])
    (legible : Legible client) (windows : Windows) (items : List WideString) :
    let shown := (network.links socket).delivered.foldl (dispatchPresence windows) items
    (∃ arrived, arrived <+: client.updates ∧ (arrived = [] → shown = items) ∧
      (arrived ≠ [] → ∃ users, users.toFinset = view arrived ∧ Shows windows shown users)) ∧
    (client.sendBuffer = [] → (network.links socket).inFlight = [] →
      Shows windows shown (network.server.snapshotUsers client.userId)) := by
  have server := server_of_reachable reachable
  have informed := informed_of_reachable server smooth socket client present
  have sound : Sound client := ⟨informed.coherent, welcomed_of_reachable server smooth present,
    legible.readable_line (vetted_of_reachable server socket client present)⟩
  obtain ⟨-, -, -, -, front, whole⟩ := (outbound_integrity reachable).1 socket client present
  rw [messages_lines sound.readable] at front whole
  refine ⟨?_, fun written received => ?_⟩
  · -- The lines that have arrived are those of a front of the queue.
    obtain ⟨count, taken⟩ : ∃ count, (network.links socket).delivered =
        (client.queued.take count).map Outgoing.line :=
      ⟨_, by rw [List.map_take]; exact List.prefix_iff_eq_take.mp front⟩
    have part : client.queued.take count <+: client.queued := List.take_prefix _ _
    rw [taken]
    refine ⟨_, part.filterMap Outgoing.update, fun nothing => ?_, legible.shows sound loggedIn part⟩
    rw [legible.foldl sound part, nothing]
    rfl
  · obtain ⟨everybody, rest, first⟩ := sound.welcomed.snapshotFirst loggedIn
    obtain ⟨users, current, shows⟩ := legible.shows sound loggedIn (List.prefix_refl _)
      (show client.updates ≠ [] from fun none => by cases first.symm.trans none)
    rw [whole written received]
    refine shows_congr ?_ shows
    rw [network.server.snapshotUsers_toFinset, ← informed.upToDate loggedIn]
    exact current

/-- Alice and bob log in, and what the server has for alice reaches her in two parts. -/
def bobArrives : List Network.Action :=
  (logins (bytes "alice") (bytes "bob")).map .serve ++
    [.serve (.write 1 [.sent 50, .sent 4096]), .receive 1 60, .receive 1 4096]

theorem online_list_end_to_end_bobArrives :
    Shows (.preferring [])
      (((networkSystem.run {} bobArrives).links 1).delivered.foldl
        (dispatchPresence (.preferring [])) [widen (bytes "carol")]) [bytes "bob"] := by
  have reachable : networkSystem.Reachable (networkSystem.run {} bobArrives) :=
    (Transition.System.Reachable.start rfl).run (by decide +kernel)
  obtain ⟨client, present, written, named, queued⟩ : ∃ client,
      (networkSystem.run {} bobArrives).server.clients.lookup 1 = some client ∧
        client.sendBuffer = [] ∧ client.userId = bytes "alice" ∧
        client.queued = [.snapshot [], .presence (bytes "bob") true] :=
    ⟨_, rfl, by decide +kernel, by decide +kernel, by decide +kernel⟩
  have updates : client.updates = [.snapshot [], .join (bytes "bob")] := by
    rw [Client.updates, queued]
    rfl
  have legible : Legible client := by
    refine ⟨⟨?_, ?_⟩, ?_, fun senderId json member => ?_⟩
    · simpa [updates, elements] using (by decide : IsAscii (bytes "bob"))
    · simp [updates, elements]
    · simpa [updates, elements] using (by decide : bytes "userId" ≠ bytes "bob")
    · simp [queued] at member
  have users : (networkSystem.run {} bobArrives).server.snapshotUsers (bytes "alice") =
      [bytes "bob"] := by decide +kernel
  have loggedIn : client.userId ≠ [] := by rw [named]; decide
  have smooth : (networkSystem.run {} bobArrives).server.refusals = 0 := by decide +kernel
  have shows := (online_list_end_to_end reachable smooth present loggedIn legible (.preferring [])
    [widen (bytes "carol")]).2 written (by decide +kernel)
  rwa [named, users] at shows

end RemoteControl.Call

/-
This file puts two clients and the server together. The lines a dialog sends are
routed by the server in their order, and the lines the server queues for a client
are dispatched by its dialog in their order; that the bytes in between are whole
lines in the same order is the subject of the framing modules. Handlers, routing,
writing and dispatching interleave in any way.

Of a line only what it tells matters here. It is under way from the moment it is
sent until it is dispatched, first unrouted and then queued.
-/

import RemoteControl.Peer.Standing
import RemoteControl.Server.Transparency

namespace RemoteControl.Call

open SignalingServer (Socket Outgoing Registrable addSender)

/-! ### The two clients and the server -/

/-- One of the two clients. -/
inductive Side where
  | left
  | right
  deriving DecidableEq

def Side.other : Side → Side
  | .left => .right
  | .right => .left

@[simp]
theorem Side.other_other (side : Side) : side.other.other = side := by
  cases side <;> rfl

theorem Side.other_ne (side : Side) : side.other ≠ side := by
  cases side <;> decide

theorem Side.eq_or_other (side place : Side) : place = side ∨ place = side.other := by
  cases side <;> cases place <;> decide

/-- Who the two are, and where the server is connected to them. -/
structure Parties where
  userId : Side → ByteString
  socket : Side → Socket
  apart : ∀ side, socket side.other ≠ socket side

/-- The server, the two dialogs, how many of the lines each has sent have been routed, and how
many of the lines queued for each have been dispatched. -/
structure World where
  server : SignalingServer.Server
  dialog : Side → Peer.Dialog
  routed : Side → Nat
  dispatched : Side → Nat

/-- One thing that happens. -/
inductive Action where
  /-- A handler runs that is not that of a signaling message. -/
  | handle (side : Side) (action : Peer.Action)
  /-- `RouteMessage` on the next line of a client. -/
  | route (side : Side) (rehash : Rehash ByteString Socket)
  /-- `WriteClient`. -/
  | write (side : Side) (results : List SignalingServer.SendResult)
  /-- `DispatchSignalingMessage` on the next line for a client. -/
  | dispatch (side : Side) (outcomes : Peer.Dialog.Outcomes)

section

variable (parties : Parties) (world : World)

/-- The lines the server has queued for a client. -/
def World.queued (side : Side) : List Outgoing :=
  ((world.server.clients.lookup (parties.socket side)).map SignalingServer.Client.queued).getD []

/-- A handler has run in a client. -/
def World.converse (side : Side) (dialog : Peer.Dialog) : World :=
  { world with dialog := Function.update world.dialog side dialog }

/-- The next line for a client has been taken from its queue. -/
def World.dequeue (side : Side) : World :=
  { world with dispatched := Function.update world.dispatched side (world.dispatched side + 1) }

/-- The next line of a client has been routed. -/
def World.serve (side : Side) (server : SignalingServer.Server) : World :=
  { world with
    server, routed := Function.update world.routed side (world.routed side + 1) }

/-- What an action does. -/
def World.next : Action → World
  | .handle side action => world.converse side ((world.dialog side).next action)
  | .route side rehash =>
    match (world.dialog side).sent[world.routed side]? with
    | none => world
    | some line => world.serve side (world.server.next (.route (parties.socket side) line rehash))
  | .write side results =>
    { world with server := world.server.next (.write (parties.socket side) results) }
  | .dispatch side outcomes =>
    match (world.queued parties side)[world.dispatched side]? with
    | none => world
    | some outgoing =>
      (world.converse side
        ((world.dialog side).next (.signalingMessage outcomes outgoing.line))).dequeue side

/-- Users call each other and nobody else, and connections do not fail once they are set up. -/
def allowed : Action → Prop
  | .handle side action => Peer.Dialog.Local (parties.userId side.other) action
  | _ => True

/-- Both clients are logged in, and what the server has queued for them is its own. -/
structure Ready : Prop where
  server : SignalingServer.system.Reachable world.server
  named : ∀ side, parties.userId side ≠ []
  present : ∀ side, ∃ client ∈ world.server.clients.lookup (parties.socket side),
    client.userId = parties.userId side ∧ client.All Outgoing.Own
  started : world.dialog = fun _ => {}
  unrouted : world.routed = fun _ => 0
  undispatched : world.dispatched = fun _ => 0

/-- Two clients that have just logged in, and whatever happens from then on. -/
def system : Transition.System World Action where
  initial := Ready parties
  allowed _ := allowed parties
  next := World.next parties

end

@[simp]
theorem converse_dialog (world : World) (side : Side) (dialog : Peer.Dialog) :
    (world.converse side dialog).dialog side = dialog := Function.update_self _ _ _

@[simp]
theorem converse_dialog_other (world : World) (side : Side) (dialog : Peer.Dialog) :
    (world.converse side dialog).dialog side.other = world.dialog side.other :=
  Function.update_of_ne side.other_ne _ _

@[simp]
theorem converse_routed (world : World) (side : Side) (dialog : Peer.Dialog) :
    (world.converse side dialog).routed = world.routed := rfl

@[simp]
theorem dequeue_dispatched (world : World) (side : Side) :
    (world.dequeue side).dispatched side = world.dispatched side + 1 := Function.update_self _ _ _

@[simp]
theorem dequeue_dispatched_other (world : World) (side : Side) :
    (world.dequeue side).dispatched side.other = world.dispatched side.other :=
  Function.update_of_ne side.other_ne _ _

@[simp]
theorem serve_routed (world : World) (side : Side) (server : SignalingServer.Server) :
    (world.serve side server).routed side = world.routed side + 1 := Function.update_self _ _ _

@[simp]
theorem serve_routed_other (world : World) (side : Side) (server : SignalingServer.Server) :
    (world.serve side server).routed side.other = world.routed side.other :=
  Function.update_of_ne side.other_ne _ _

/-! ### What the server makes of a line -/

/-- The lines the server makes up tell nothing. -/
theorem signal_own {outgoing : Outgoing} (own : outgoing.Own) : signal outgoing.line = none := by
  cases outgoing with
  | pong => rfl
  | error code => cases code <;> rfl
  | snapshot users => rfl
  | presence userId online => rfl
  | routed sender json => exact absurd own id

/-- A routed line tells what the message does. -/
theorem signal_routed {senderId : ByteString} (sender : Registrable senderId)
    (toUser : ByteString) (message : CallMessage) :
    signal (addSender (message.line toUser) senderId) = message.signal :=
  signal_eq (SignalingServer.client_type_routed message sender)

/-- A message that tells something is transparent, but for an offer to a user of one name. -/
theorem undisturbed_of_signal {toUser : ByteString} {message : CallMessage}
    (tells : message.signal ≠ none)
    (addressed : message.signal = some true → toUser ≠ bytes "fromUserId") :
    SignalingServer.Undisturbed toUser message := by
  cases message with
  | offer sdp => exact addressed rfl
  | hangup => trivial
  | answer sdp => exact absurd rfl tells
  | candidate mid mlineIndex candidate => exact absurd rfl tells

/-- What a step of the server adds to the queue of a client that stays logged in. -/
def Queues (before after : SignalingServer.Server) (socket : Socket) (added : List Outgoing) :
    Prop :=
  ∃ client grown, before.clients.lookup socket = some client ∧
    after.clients.lookup socket = some grown ∧ grown.userId = client.userId ∧
    grown.queued = client.queued ++ added

section

variable {server after : SignalingServer.Server} {socket sender target : Socket}
  {client receiver : SignalingServer.Client}

theorem queues_of_same (present : server.clients.lookup socket = some client)
    (same : after.clients.lookup socket = server.clients.lookup socket) :
    Queues server after socket [] :=
  ⟨client, client, present, same.trans present, rfl, (List.append_nil _).symm⟩

theorem queues_of_accepts {outgoing : Outgoing}
    (present : server.clients.lookup socket = some client)
    (queued : after.clients.lookup socket = some (client.queueLine outgoing))
    (fits : client.accepts outgoing = true) : Queues server after socket [outgoing] := by
  refine ⟨client, _, present, queued, client.queueLine_userId outgoing, ?_⟩
  rw [SignalingServer.Client.queueLine_of_accepts fits]

/-- Writing queues nothing. -/
theorem queues_write (present : server.clients.lookup socket = some client) (place : Socket)
    (results : List SignalingServer.SendResult) :
    Queues server (server.next (.write place results)) socket [] := by
  by_cases here : socket = place
  · subst here
    obtain ⟨buffer, written, -⟩ := client.writeClient_spec results
    refine ⟨client, (client.writeClient results).1, present, ?_, ?_, ?_⟩
    · show (Table.modify socket _ server.clients).lookup socket = _
      rw [Table.lookup_modify, if_pos rfl, present]
      rfl
    · rw [written]
    · rw [written, List.append_nil]
  · refine queues_of_same present ?_
    show (Table.modify place _ server.clients).lookup socket = _
    rw [Table.lookup_modify, if_neg here]

/-- A call message to a client that is logged in is queued for it or answered with an error. -/
theorem queues_route (reachable : SignalingServer.system.Reachable server)
    (present : server.clients.lookup sender = some client) (loggedIn : client.userId ≠ [])
    (known : server.clients.lookup target = some receiver) (addressable : receiver.userId ≠ [])
    (apart : sender ≠ target) (message : CallMessage) (rehash : Rehash ByteString Socket) :
    let line := message.line receiver.userId
    let routed := server.next (.route sender line rehash)
    Queues server routed target [.routed client.userId line] ∧ Queues server routed sender [] ∨
      ¬ (receiver.accepts (.routed client.userId line) = true ∧
          SignalingServer.Undisturbed receiver.userId message) ∧
        Queues server routed target [] ∧
        ∃ added, (∀ outgoing ∈ added, outgoing.Own) ∧ Queues server routed sender added := by
  intro line routed
  by_cases forwards : server.Forwards client line target
  · obtain ⟨holder, held, fits⟩ := forwards.receiver
    cases known.symm.trans held
    have result : routed = (server.queueLine target (.routed client.userId line)).1 :=
      SignalingServer.Server.routeMessage_of_forwards present forwards rehash
    rw [result]
    exact Or.inl ⟨queues_of_accepts known
        (SignalingServer.Server.lookup_queueLine_self known _) fits,
      queues_of_same present (SignalingServer.Server.lookup_queueLine_of_ne apart _ _)⟩
  · have callType : SignalingServer.stringField line (bytes "type") ∈ callTypes := by
      rw [(message.roundTrips receiver.userId).serverType]
      exact message.type_mem
    have held (other : Socket) : ¬ server.Forwards client line other := by
      intro also
      cases (SignalingServer.Server.resolve_line message reachable known addressable).symm.trans
        also.routable.resolves
      exact forwards also
    obtain ⟨code, refused⟩ := SignalingServer.Server.lookup_routeMessage_of_not_forwards present
      loggedIn callType held rehash
    have consistent := SignalingServer.consistent_of_reachable reachable
    refine Or.inr ⟨?_, queues_of_same known ((refused target).trans
      (SignalingServer.Server.lookup_queueLine_of_ne apart.symm _ _)), ?_⟩
    · rintro ⟨fits, undisturbed⟩
      have read := ((SignalingServer.transparent_iff
        (consistent.registrable_userId present loggedIn)
        (consistent.registrable_userId known addressable) message).mpr undisturbed).1
      exact forwards ((SignalingServer.Server.forwards_line_iff message reachable present loggedIn
        known addressable).mpr ⟨read, fits⟩)
    · have answered := (refused sender).trans
        (SignalingServer.Server.lookup_queueLine_self present (.error code))
      cases fits : client.accepts (.error code) with
      | true =>
        refine ⟨[.error code], fun outgoing member => ?_,
          queues_of_accepts present answered fits⟩
        rw [List.mem_singleton.mp member]
        trivial
      | false =>
        rw [SignalingServer.Client.queueLine_of_full fits] at answered
        exact ⟨[], fun _ member => absurd member List.not_mem_nil,
          queues_of_same present (answered.trans present.symm)⟩

end

/-! ### What holds of the two clients in every state -/

section

variable {parties : Parties} {world : World}

/-- A line for a client that tells something is read as one of the other client. -/
def Heard (peer : ByteString) (outgoing : Outgoing) : Prop :=
  signal outgoing.line ≠ none →
    SignalingProtocol.stringField outgoing.line (bytes "fromUserId") = peer

/-- A dialog that keeps to the calls with one user, and has had so many of its lines routed. -/
structure Converses (dialog : Peer.Dialog) (peer : ByteString) (routed : Nat) : Prop where
  reachable : Peer.system.Reachable dialog
  only : dialog.Only peer
  messages : ∀ line ∈ dialog.sent, ∃ message : CallMessage, line = message.line peer
  routed : routed ≤ dialog.sent.length

/-- Both clients are logged in and keep to each other, and what is queued for one that tells
something is from the other. -/
structure World.Sound (parties : Parties) (world : World) : Prop where
  server : SignalingServer.system.Reachable world.server
  named : ∀ side, parties.userId side ≠ []
  present : ∀ side, ∃ client, world.server.clients.lookup (parties.socket side) = some client ∧
    client.userId = parties.userId side
  converses : ∀ side,
    Converses (world.dialog side) (parties.userId side.other) (world.routed side)
  dispatched : ∀ side, world.dispatched side ≤ (world.queued parties side).length
  heard : ∀ side, ∀ outgoing ∈ (world.queued parties side).drop (world.dispatched side),
    Heard (parties.userId side.other) outgoing

/-- What the lines queued for a client will tell it. -/
def World.undispatched (parties : Parties) (world : World) (side : Side) : List Bool :=
  ((world.queued parties side).drop (world.dispatched side)).filterMap
    fun outgoing => signal outgoing.line

/-- What the lines of a client that are to be routed will tell the other. -/
def World.unrouted (world : World) (side : Side) : List Bool :=
  ((world.dialog side).sent.drop (world.routed side)).filterMap signal

/-- What is under way to a client. -/
def World.inbox (parties : Parties) (world : World) (side : Side) : List Bool :=
  world.undispatched parties side ++ world.unrouted side.other

theorem queued_of_present {side : Side} {client : SignalingServer.Client}
    (present : world.server.clients.lookup (parties.socket side) = some client) :
    world.queued parties side = client.queued := by
  rw [World.queued, present]
  rfl

/-- What a step of the server adds to the queues. -/
theorem queued_of_queues {after : World} {side : Side} {added : List Outgoing}
    (queues : Queues world.server after.server (parties.socket side) added) :
    after.queued parties side = world.queued parties side ++ added := by
  obtain ⟨client, grown, present, later, -, queued⟩ := queues
  rw [queued_of_present later, queued_of_present present, queued]

/-- A handler that tells its user something goes on conversing. -/
theorem Converses.tells {dialog after : Peer.Dialog} {peer : ByteString} {routed : Nat}
    (converses : Converses dialog peer routed) (reachable : Peer.system.Reachable after)
    {signals : List Bool} (tells : dialog.Tells after peer signals) :
    Converses after peer routed := by
  obtain ⟨lines, sent, told⟩ := tells.told
  refine ⟨reachable, tells.only, fun line member => ?_, ?_⟩
  · rw [sent, List.mem_append] at member
    exact member.elim (converses.messages line) (told.messages line)
  · rw [sent, List.length_append]
    exact Nat.le_add_right_of_le converses.routed

/-- A dialog that tells the other client something leaves the two sound. -/
theorem World.Sound.converse (sound : world.Sound parties) {side : Side} {after : Peer.Dialog}
    (reachable : Peer.system.Reachable after) {signals : List Bool}
    (tells : (world.dialog side).Tells after (parties.userId side.other) signals) :
    (world.converse side after).Sound parties := by
  refine { sound with converses := fun place => ?_ }
  rcases side.eq_or_other place with rfl | rfl
  · rw [converse_dialog]
    exact (sound.converses place).tells reachable tells
  · rw [converse_dialog_other]
    exact sound.converses side.other

/-- What a dialog tells is under way to the other. -/
theorem inbox_converse (sound : world.Sound parties) {side : Side} {after : Peer.Dialog}
    {signals : List Bool}
    (tells : (world.dialog side).Tells after (parties.userId side.other) signals) :
    (world.converse side after).inbox parties side = world.inbox parties side ∧
      (world.converse side after).inbox parties side.other =
        world.inbox parties side.other ++ signals := by
  obtain ⟨lines, sent, told⟩ := tells.told
  have routed := (sound.converses side).routed
  have own : (world.converse side after).unrouted side = world.unrouted side ++ signals := by
    rw [World.unrouted, World.unrouted, converse_dialog, converse_routed, sent,
      List.drop_append_of_le_length routed, List.filterMap_append, told.signals]
  have others : (world.converse side after).unrouted side.other = world.unrouted side.other := by
    rw [World.unrouted, World.unrouted, converse_dialog_other, converse_routed]
  refine ⟨congrArg (world.undispatched parties side ++ ·) others, ?_⟩
  rw [World.inbox, World.inbox, Side.other_other, own, ← List.append_assoc]
  rfl

/-! ### Handlers -/

/-- A handler makes one of the moves with the other client. -/
theorem World.Sound.moves (sound : world.Sound parties) {side : Side} {action : Peer.Action}
    (plain : Peer.Dialog.Local (parties.userId side.other) action) :
    (world.dialog side).Moves ((world.dialog side).next action) (parties.userId side.other)
      action :=
  Peer.Dialog.moves_next (sound.converses side).only (sound.named side.other)
    (Peer.Dialog.allBound_of_reachable (sound.converses side).reachable)
    (Peer.Dialog.ownCallbacks_of_reachable (sound.converses side).reachable) plain

/-! ### Dispatching -/

theorem filterMap_line {α : Type} (tells : α → Option Bool) (line : α) :
    [line].filterMap tells = (tells line).toList := by
  rw [List.filterMap_cons]
  cases tells line <;> rfl

/-- What the first of some lines tells, and those behind it. -/
theorem filterMap_drop_of_first {α : Type} {lines : List α} {position : Nat} {line : α}
    (first : lines[position]? = some line) (tells : α → Option Bool) :
    (lines.drop position).filterMap tells =
      (tells line).toList ++ (lines.drop (position + 1)).filterMap tells := by
  rw [List.drop_eq_getElem?_toList_append, first, Option.toList_some, List.filterMap_append,
    filterMap_line]

/-- The line that is taken from a queue is the first of those under way. -/
theorem inbox_dequeue {side : Side} {outgoing : Outgoing}
    (first : (world.queued parties side)[world.dispatched side]? = some outgoing) :
    world.inbox parties side =
        (signal outgoing.line).toList ++ (world.dequeue side).inbox parties side ∧
      (world.dequeue side).inbox parties side.other = world.inbox parties side.other := by
  constructor
  · rw [World.inbox, World.undispatched, filterMap_drop_of_first first, List.append_assoc,
      World.inbox, World.undispatched, dequeue_dispatched]
    rfl
  · rw [World.inbox, World.inbox, World.undispatched, World.undispatched,
      dequeue_dispatched_other]
    rfl

theorem World.Sound.dequeue (sound : world.Sound parties) {side : Side} {outgoing : Outgoing}
    (first : (world.queued parties side)[world.dispatched side]? = some outgoing) :
    (world.dequeue side).Sound parties := by
  refine { sound with dispatched := fun place => ?_, heard := fun place => ?_ }
  · rcases side.eq_or_other place with rfl | rfl
    · rw [dequeue_dispatched]
      exact (List.getElem?_eq_some_iff.mp first).1
    · rw [dequeue_dispatched_other]
      exact sound.dispatched side.other
  · rcases side.eq_or_other place with rfl | rfl
    · have heard := sound.heard place
      rw [List.drop_eq_getElem?_toList_append, first] at heard
      rw [dequeue_dispatched]
      exact fun outgoing member => heard outgoing (List.mem_append_right _ member)
    · rw [dequeue_dispatched_other]
      exact sound.heard side.other

/-- A line that arrives is heard, and answered by nothing. -/
theorem World.Sound.hears (sound : world.Sound parties) {side : Side} {outgoing : Outgoing}
    (first : (world.queued parties side)[world.dispatched side]? = some outgoing)
    (outcomes : Peer.Dialog.Outcomes) :
    let after := (world.dialog side).next (.signalingMessage outcomes outgoing.line)
    (world.dialog side).Tells after (parties.userId side.other) [] ∧
      (world.dialog side).Hears after outcomes (parties.userId side.other)
        (signal outgoing.line) := by
  have heard := sound.heard side
  rw [List.drop_eq_getElem?_toList_append, first] at heard
  exact Peer.Dialog.hears_dispatch (sound.converses side).only (sound.named side.other)
    (Peer.Dialog.allBound_of_reachable (sound.converses side).reachable) outcomes
    (heard outgoing List.mem_cons_self)

/-! ### Serving -/

/-- A step of the server leaves the two sound if what it queues is heard. -/
theorem World.Sound.serve (sound : world.Sound parties) {side : Side} {line : ByteString}
    (first : (world.dialog side).sent[world.routed side]? = some line)
    {server : SignalingServer.Server} (reachable : SignalingServer.system.Reachable server)
    (queues : ∀ place, ∃ added, Queues world.server server (parties.socket place) added ∧
      ∀ outgoing ∈ added, Heard (parties.userId place.other) outgoing) :
    (world.serve side server).Sound parties := by
  have queued (place : Side) : ∃ added, (world.serve side server).queued parties place =
      world.queued parties place ++ added ∧
        ∀ outgoing ∈ added, Heard (parties.userId place.other) outgoing := by
    obtain ⟨added, queues, heard⟩ := queues place
    exact ⟨added, queued_of_queues queues, heard⟩
  refine ⟨reachable, sound.named, fun place => ?_, fun place => ?_, fun place => ?_,
    fun place => ?_⟩
  · obtain ⟨added, ⟨client, grown, present, later, named, -⟩, -⟩ := queues place
    obtain ⟨earlier, known, owner⟩ := sound.present place
    cases present.symm.trans known
    exact ⟨grown, later, named.trans owner⟩
  · rcases side.eq_or_other place with rfl | rfl
    · rw [serve_routed]
      exact { sound.converses place with routed := (List.getElem?_eq_some_iff.mp first).1 }
    · rw [serve_routed_other]
      exact sound.converses side.other
  · obtain ⟨added, grown, -⟩ := queued place
    rw [grown, List.length_append]
    exact Nat.le_add_right_of_le (sound.dispatched place)
  · obtain ⟨added, grown, heard⟩ := queued place
    rw [grown]
    show ∀ outgoing ∈ List.drop (world.dispatched place) _, _
    rw [List.drop_append_of_le_length (sound.dispatched place)]
    exact fun outgoing member => (List.mem_append.mp member).elim (sound.heard place outgoing)
      (heard outgoing)

theorem unrouted_serve {side : Side} {line : ByteString}
    (first : (world.dialog side).sent[world.routed side]? = some line)
    (server : SignalingServer.Server) :
    world.unrouted side = (signal line).toList ++ (world.serve side server).unrouted side := by
  rw [World.unrouted, filterMap_drop_of_first first, World.unrouted, serve_routed]
  rfl

theorem unrouted_serve_other (world : World) (side : Side) (server : SignalingServer.Server) :
    (world.serve side server).unrouted side.other = world.unrouted side.other := by
  rw [World.unrouted, World.unrouted, serve_routed_other]
  rfl

theorem undispatched_serve (sound : world.Sound parties) (side : Side)
    {server : SignalingServer.Server} {place : Side} {added : List Outgoing}
    (queues : Queues world.server server (parties.socket place) added) :
    (world.serve side server).undispatched parties place =
      world.undispatched parties place ++ added.filterMap fun outgoing => signal outgoing.line := by
  have queued : (world.serve side server).queued parties place =
      world.queued parties place ++ added := queued_of_queues queues
  rw [World.undispatched, queued, World.undispatched, ← List.filterMap_append,
    ← List.drop_append_of_le_length (sound.dispatched place)]
  rfl

/-- The other client's queue takes a routed line. -/
def World.HasRoom (parties : Parties) (world : World) (side : Side) (line : ByteString) : Prop :=
  (world.server.clients.lookup (parties.socket side.other)).any
    (·.accepts (.routed (parties.userId side) line)) = true

/-- Lines the server makes up are heard as nothing. -/
theorem heard_own {peer : ByteString} {outgoing : Outgoing} (own : outgoing.Own) :
    Heard peer outgoing := fun tells => absurd (signal_own own) tells

/-- A routed line that tells something is heard as one of its sender. -/
theorem heard_routed {senderId toUser : ByteString} (sender : Registrable senderId)
    (target : Registrable toUser) {message : CallMessage}
    (addressed : message.signal = some true → toUser ≠ bytes "fromUserId") :
    Heard senderId (.routed senderId (message.line toUser)) := by
  intro tells
  have transparent := (SignalingServer.transparent_iff sender target message).mpr
    (undisturbed_of_signal (fun nothing => tells ((signal_routed sender toUser message).trans
      nothing)) addressed)
  exact transparent.2.2.1

theorem World.Sound.registrable (sound : world.Sound parties) (side : Side) :
    Registrable (parties.userId side) := by
  obtain ⟨client, present, owner⟩ := sound.present side
  rw [← owner]
  exact (SignalingServer.consistent_of_reachable sound.server).registrable_userId present
    (owner ▸ sound.named side)

/-- What routing the next line of a client queues for the two. -/
theorem World.Sound.queues (sound : world.Sound parties) (side : Side) (message : CallMessage)
    (rehash : Rehash ByteString Socket) :
    let line := message.line (parties.userId side.other)
    let server := world.server.next (.route (parties.socket side) line rehash)
    Queues world.server server (parties.socket side.other) [.routed (parties.userId side) line] ∧
        Queues world.server server (parties.socket side) [] ∨
      ¬ (world.HasRoom parties side line ∧
          SignalingServer.Undisturbed (parties.userId side.other) message) ∧
        Queues world.server server (parties.socket side.other) [] ∧
        ∃ added, (∀ outgoing ∈ added, outgoing.Own) ∧
          Queues world.server server (parties.socket side) added := by
  obtain ⟨client, present, owner⟩ := sound.present side
  obtain ⟨receiver, known, holder⟩ := sound.present side.other
  have served := queues_route sound.server present (owner ▸ sound.named side) known
    (holder ▸ sound.named side.other) (parties.apart side).symm message rehash
  rw [owner, holder] at served
  intro line server
  have room : world.HasRoom parties side line ↔
      receiver.accepts (.routed (parties.userId side) line) = true := by
    rw [World.HasRoom, known]
    rfl
  rw [room]
  exact served

/-- A line that is routed is under way as before, or it is lost for want of room. -/
theorem World.Sound.route (sound : world.Sound parties) {side : Side} {line : ByteString}
    (first : (world.dialog side).sent[world.routed side]? = some line)
    (addressed : signal line = some true → parties.userId side.other ≠ bytes "fromUserId")
    (rehash : Rehash ByteString Socket) :
    let later := world.serve side (world.server.next (.route (parties.socket side) line rehash))
    later.Sound parties ∧ later.inbox parties side = world.inbox parties side ∧
      (later.inbox parties side.other = world.inbox parties side.other ∨
        ∃ told, signal line = some told ∧ ¬ world.HasRoom parties side line ∧
          world.inbox parties side.other =
            world.undispatched parties side.other ++ told :: later.unrouted side ∧
          later.inbox parties side.other =
            world.undispatched parties side.other ++ later.unrouted side) := by
  obtain ⟨message, rfl⟩ := (sound.converses side).messages line (List.mem_of_getElem? first)
  have served := sound.queues side message rehash
  rw [signal_line] at addressed
  simp only at served ⊢
  have reachable : SignalingServer.system.Reachable (world.server.next (.route
      (parties.socket side) (message.line (parties.userId side.other)) rehash)) :=
    sound.server.take (.route _ _ _) trivial
  generalize world.server.next (.route (parties.socket side)
    (message.line (parties.userId side.other)) rehash) = server at served reachable ⊢
  have unrouted := unrouted_serve first server
  have unroutedOther := unrouted_serve_other world side server
  rw [signal_line] at unrouted ⊢
  rcases served with ⟨received, own⟩ | ⟨lost, others, added, ours, own⟩
  · have sender := sound.registrable side
    refine ⟨sound.serve first reachable fun place => ?_, ?_, Or.inl ?_⟩
    · rcases side.eq_or_other place with rfl | rfl
      · exact ⟨[], own, fun _ member => absurd member List.not_mem_nil⟩
      · refine ⟨_, received, fun outgoing member => ?_⟩
        rw [List.mem_singleton.mp member, Side.other_other]
        exact heard_routed sender (sound.registrable side.other) addressed
    · rw [World.inbox, World.inbox, undispatched_serve sound side own, unroutedOther,
        List.filterMap_nil, List.append_nil]
    · rw [World.inbox, World.inbox, undispatched_serve sound side received, Side.other_other,
        unrouted, List.append_assoc, filterMap_line, Outgoing.line, signal_routed sender]
  · have silent : added.filterMap (fun outgoing => signal outgoing.line) = [] :=
      List.filterMap_eq_nil_iff.mpr fun outgoing member => signal_own (ours outgoing member)
    refine ⟨sound.serve first reachable fun place => ?_, ?_, ?_⟩
    · rcases side.eq_or_other place with rfl | rfl
      · exact ⟨added, own, fun outgoing member => heard_own (ours outgoing member)⟩
      · exact ⟨[], others, fun _ member => absurd member List.not_mem_nil⟩
    · rw [World.inbox, World.inbox, undispatched_serve sound side own, unroutedOther, silent,
        List.append_nil]
    · have before : world.inbox parties side.other = world.undispatched parties side.other ++
          (message.signal.toList ++ (world.serve side server).unrouted side) := by
        rw [World.inbox, Side.other_other, unrouted]
      have after : (world.serve side server).inbox parties side.other =
          world.undispatched parties side.other ++ (world.serve side server).unrouted side := by
        rw [World.inbox, undispatched_serve sound side others, Side.other_other,
          List.filterMap_nil, List.append_nil]
      cases told : message.signal with
      | none =>
        rw [told] at before
        exact Or.inl (after.trans before.symm)
      | some value =>
        rw [told] at before
        have undisturbed := undisturbed_of_signal
          (by rw [told]; exact Option.some_ne_none value) addressed
        exact Or.inr ⟨value, rfl, fun room => lost ⟨room, undisturbed⟩, before, after⟩

/-- Writing moves bytes only. -/
theorem World.Sound.write (sound : world.Sound parties) (side : Side)
    (results : List SignalingServer.SendResult) :
    (world.next parties (.write side results)).Sound parties ∧
      ∀ place, (world.next parties (.write side results)).inbox parties place =
        world.inbox parties place := by
  have queues (place : Side) : Queues world.server
      (world.server.next (.write (parties.socket side) results)) (parties.socket place) [] := by
    obtain ⟨client, present, -⟩ := sound.present place
    exact queues_write present _ results
  have queued (place : Side) : (world.next parties (.write side results)).queued parties place =
      world.queued parties place := (queued_of_queues (queues place)).trans (List.append_nil _)
  refine ⟨{ sound with
    server := sound.server.take (.write _ _) trivial
    present := fun place => ?_
    dispatched := fun place => ?_
    heard := fun place => ?_ }, fun place => ?_⟩
  · obtain ⟨client, grown, present, later, named, -⟩ := queues place
    obtain ⟨earlier, known, owner⟩ := sound.present place
    cases present.symm.trans known
    exact ⟨grown, later, named.trans owner⟩
  · rw [queued]
    exact sound.dispatched place
  · rw [queued]
    exact sound.heard place
  · rw [World.inbox, World.undispatched, queued]
    rfl

/-- Two clients that have just logged in. -/
theorem Ready.sound (ready : Ready parties world) : world.Sound parties where
  server := ready.server
  named := ready.named
  present side := by
    obtain ⟨client, present, named, -⟩ := ready.present side
    exact ⟨client, present, named⟩
  converses side := by
    rw [ready.started, ready.unrouted]
    exact ⟨.start rfl, fun _ _ => rfl, fun _ member => absurd member List.not_mem_nil,
      Nat.zero_le _⟩
  dispatched side := by
    rw [ready.undispatched]
    exact Nat.zero_le _
  heard side outgoing member := by
    obtain ⟨client, present, -, own⟩ := ready.present side
    rw [queued_of_present present] at member
    exact heard_own (own outgoing (List.mem_of_mem_drop member))

end

end RemoteControl.Call

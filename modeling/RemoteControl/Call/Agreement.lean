/-
This file asks whether two clients agree about having a session with each other once
nothing is under way. Each session is a value that the two ought to share: an offer
tells that there is one, a hangup that there is none. A dialog that drops its session
without a hangup, and a hangup that crosses an offer, leave the two apart for good; so
does a line that the server has no room for, since an error reply is not acted upon.
Every other handler, in every order, keeps the balance.
-/

import RemoteControl.Call.Relay
import RemoteControl.Library.Settlement

namespace RemoteControl.Call

open Settlement (Copy Balanced)
open SignalingServer (Outgoing)

section

variable (parties : Parties) (world : World)

/-- What a client has of the session, and what is under way to it. -/
def World.copy (side : Side) : Copy Bool where
  value := ((world.dialog side).standing (parties.userId side.other)).held
  inbox := world.inbox parties side
  untold := ((world.dialog side).standing (parties.userId side.other)).untold

/-- What a handler may do without leaving the two apart. -/
structure OrderlyHandler (side : Side) (action : Peer.Action) : Prop where
  /-- An offer is sent only while the session is going to last. -/
  offers : (world.dialog side).Offers (parties.userId side.other) action →
    (world.copy parties side).settled = true
  /-- A call is hung up only while no offer that nothing follows is under way. -/
  hangsUp : (world.dialog side).HangsUp (parties.userId side.other) action →
    (world.inbox parties side).getLast? ≠ some true
  /-- A negotiation fails only while something is under way, or where the other has no part. -/
  fails : (world.dialog side).Fails (parties.userId side.other) action →
    world.inbox parties side = [] →
      (world.copy parties side.other).settled = false ∨ (world.copy parties side.other).Leads
  /-- A session that has ended comes back only while the other has its own, or with an offer that
  is still to be sent. -/
  revives : (world.dialog side).Revives (parties.userId side.other) action →
    world.inbox parties side = [] →
      (∃ session ∈ (world.dialog side).sessions.lookup (parties.userId side.other),
          session.errand = (some (.offer (parties.userId side.other)), false)) ∨
        (world.copy parties side.other).settled = true ∨ (world.copy parties side.other).Leads

/-- A line that tells something gets through, or makes no difference: another follows it, or the
two are balanced without it. An offer is not for a user called as the field of the sender. -/
structure OrderlyLine (side : Side) (line : ByteString) (told : Bool) : Prop where
  addressed : told = true → parties.userId side.other ≠ bytes "fromUserId"
  through : world.HasRoom parties side line ∨
    ((world.dialog side).sent.drop (world.routed side + 1)).filterMap signal ≠ [] ∨
      Balanced { world.copy parties side.other with
        inbox := world.undispatched parties side.other } (world.copy parties side)

/-- An offer that arrives can be answered, or makes no difference: something follows it, or the
other is going to send another. -/
def OrderlyOffer (side : Side) (outcomes : Peer.Dialog.Outcomes) : Prop :=
  (world.dialog side).CanAnswer outcomes (parties.userId side.other) ∨
    (world.dequeue side).inbox parties side ≠ [] ∨ (world.copy parties side.other).Leads

instance (side : Side) (line : ByteString) (told : Bool) :
    Decidable (OrderlyLine parties world side line told) :=
  decidable_of_iff ((told = true → parties.userId side.other ≠ bytes "fromUserId") ∧
      ((world.server.clients.lookup (parties.socket side.other)).any
          (·.accepts (.routed (parties.userId side) line)) = true ∨
        ((world.dialog side).sent.drop (world.routed side + 1)).filterMap signal ≠ [] ∨
        Balanced { world.copy parties side.other with
          inbox := world.undispatched parties side.other } (world.copy parties side)))
    ⟨fun both => ⟨both.1, both.2⟩, fun orderly => ⟨orderly.addressed, orderly.through⟩⟩

instance (side : Side) (outcomes : Peer.Dialog.Outcomes) :
    Decidable (OrderlyOffer parties world side outcomes) :=
  inferInstanceAs (Decidable (_ ∨ _ ∨ _))

/-- No step leaves the two apart. -/
def Orderly : Action → Prop
  | .handle side action => OrderlyHandler parties world side action
  | .route side _ => ∀ line ∈ (world.dialog side).sent[world.routed side]?,
    ∀ told ∈ signal line, OrderlyLine parties world side line told
  | .write _ _ => True
  | .dispatch side outcomes =>
    ∀ outgoing ∈ (world.queued parties side)[world.dispatched side]?,
      signal outgoing.line = some true → OrderlyOffer parties world side outcomes

end

section

variable {parties : Parties} {world : World}

/-! ### Every step keeps the balance -/

/-- The two copies after a handler that tells the other something. -/
theorem copies_converse (sound : world.Sound parties) {side : Side} {after : Peer.Dialog}
    {standing : Peer.Dialog.Standing}
    (stands : after.standing (parties.userId side.other) = standing) {signals : List Bool}
    (tells : (world.dialog side).Tells after (parties.userId side.other) signals) :
    (world.converse side after).copy parties side =
        ⟨standing.held, world.inbox parties side, standing.untold⟩ ∧
      (world.converse side after).copy parties side.other =
        { world.copy parties side.other with
          inbox := world.inbox parties side.other ++ signals } := by
  obtain ⟨own, others⟩ := inbox_converse sound tells
  constructor
  · rw [World.copy, own, converse_dialog, stands]
  · rw [World.copy, others, converse_dialog_other]
    rfl

/-- A handler that tells nothing changes the client's own copy only. -/
theorem copies_silent (sound : world.Sound parties) {side : Side} {after : Peer.Dialog}
    {standing : Peer.Dialog.Standing}
    (stands : after.standing (parties.userId side.other) = standing)
    (tells : (world.dialog side).Tells after (parties.userId side.other) []) :
    (world.converse side after).copy parties side =
        ⟨standing.held, world.inbox parties side, standing.untold⟩ ∧
      (world.converse side after).copy parties side.other = world.copy parties side.other := by
  obtain ⟨own, others⟩ := copies_converse sound stands tells
  rw [List.append_nil] at others
  exact ⟨own, others⟩

/-- Every handler keeps the balance. -/
theorem balanced_handle (sound : world.Sound parties) {side : Side}
    (balanced : Balanced (world.copy parties side) (world.copy parties side.other))
    {action : Peer.Action} (plain : Peer.Dialog.Local (parties.userId side.other) action)
    (orderly : OrderlyHandler parties world side action) :
    let later := world.converse side ((world.dialog side).next action)
    Balanced (later.copy parties side) (later.copy parties side.other) := by
  intro later
  cases sound.moves plain with
  | stays tells same =>
    obtain ⟨own, others⟩ := copies_silent sound same tells
    rw [own, others]
    exact balanced
  | starts tells started =>
    obtain ⟨own, others⟩ := copies_silent sound started tells
    rw [own, others]
    exact balanced.changed rfl fun _ => Or.inl rfl
  | offers offers tells told =>
    obtain ⟨own, others⟩ := copies_converse sound told tells
    rw [own, others]
    have settled : Copy.settled ⟨(world.copy parties side).value, world.inbox parties side,
        false⟩ = true := orderly.offers offers
    exact Settlement.balanced_hear settled (world.copy parties side.other)
  | hangsUp hangsUp tells ended =>
    obtain ⟨own, others⟩ := copies_converse sound ended tells
    rw [own, others]
    have settled : Copy.settled ⟨false, world.inbox parties side, false⟩ = false := by
      rw [Copy.settled]
      cases last : (world.inbox parties side).getLast? with
      | none => rfl
      | some told => exact Bool.eq_false_iff.mpr fun same => orderly.hangsUp hangsUp (same ▸ last)
    exact Settlement.balanced_hear settled (world.copy parties side.other)
  | fails fails tells ended =>
    obtain ⟨own, others⟩ := copies_silent sound ended tells
    rw [own, others]
    exact balanced.changed rfl fun empty => Or.inr
      ((orderly.fails fails empty).imp_left Eq.symm)
  | revives revives tells revived =>
    obtain ⟨session, present, stands⟩ := revived
    obtain ⟨own, others⟩ := copies_silent sound stands tells
    rw [own, others]
    refine balanced.changed rfl fun empty => ?_
    rcases orderly.revives revives empty with ⟨found, known, untold⟩ | settled | leads
    · cases present.symm.trans known
      exact Or.inl (decide_eq_true untold)
    · exact Or.inr (Or.inl settled.symm)
    · exact Or.inr (Or.inr leads)

/-- The arrival of a line keeps the balance. -/
theorem balanced_dispatch (sound : world.Sound parties) {side : Side}
    (balanced : Balanced (world.copy parties side) (world.copy parties side.other))
    {outgoing : Outgoing}
    (first : (world.queued parties side)[world.dispatched side]? = some outgoing)
    {outcomes : Peer.Dialog.Outcomes}
    (orderly : signal outgoing.line = some true → OrderlyOffer parties world side outcomes) :
    let later := (world.dequeue side).converse side
      ((world.dialog side).next (.signalingMessage outcomes outgoing.line))
    Balanced (later.copy parties side) (later.copy parties side.other) := by
  obtain ⟨tells, hears⟩ := sound.hears first outcomes
  generalize (world.dialog side).next (.signalingMessage outcomes outgoing.line) = after
    at tells hears ⊢
  obtain ⟨own, others⟩ := inbox_dequeue first
  have otherCopy : (world.dequeue side).copy parties side.other =
      world.copy parties side.other := by
    rw [World.copy, others]
    rfl
  obtain ⟨ownLater, otherLater⟩ := copies_silent (sound.dequeue first) rfl tells
  simp only [OrderlyOffer] at orderly ⊢
  rw [ownLater, otherLater, otherCopy]
  generalize (world.dequeue side).inbox parties side = rest at own orderly ⊢
  generalize signal outgoing.line = told at own hears orderly
  cases hears with
  | passes same =>
    rw [same, ← show world.inbox parties side = rest from own]
    exact balanced
  | answers possible answered =>
    rw [answered]
    exact balanced.arrived own rfl (Or.inl rfl)
  | refuses impossible refused =>
    rcases (orderly rfl).resolve_left impossible with follows | leads
    · exact balanced.arrived own rfl (Or.inr follows)
    · exact Or.inr (Or.inr leads)
  | ends ended =>
    rw [ended]
    exact balanced.arrived own rfl (Or.inl rfl)

/-- Routing a line keeps the balance. -/
theorem balanced_route (sound : world.Sound parties) {side : Side}
    (balanced : Balanced (world.copy parties side) (world.copy parties side.other))
    {line : ByteString} (first : (world.dialog side).sent[world.routed side]? = some line)
    (orderly : ∀ told, signal line = some told → OrderlyLine parties world side line told)
    (rehash : Rehash ByteString SignalingServer.Socket) :
    let later := world.serve side (world.server.next (.route (parties.socket side) line rehash))
    later.Sound parties ∧
      Balanced (later.copy parties side) (later.copy parties side.other) := by
  intro later
  obtain ⟨sound', own, others⟩ := sound.route first
    (fun told => (orderly true told).addressed rfl) rehash
  refine ⟨sound', ?_⟩
  have ownCopy : later.copy parties side = world.copy parties side := by
    rw [World.copy, own]
    rfl
  have otherCopy : later.copy parties side.other =
      { world.copy parties side.other with inbox := later.inbox parties side.other } := rfl
  rw [ownCopy, otherCopy]
  rcases others with same | ⟨told, tells, full, before, after⟩
  · rw [same]
    exact balanced
  · have unrouted : later.unrouted side =
        ((world.dialog side).sent.drop (world.routed side + 1)).filterMap signal := by
      rw [World.unrouted, serve_routed]
      rfl
    rw [after]
    by_cases follows : later.unrouted side = []
    · rw [follows, List.append_nil]
      have through := ((orderly told tells).through).resolve_left full
      exact (through.resolve_left (not_not.mpr (unrouted.symm.trans follows))).symm
    · exact (balanced.symm.lost before rfl follows).symm

/-! ### Every run keeps the balance -/

/-- The two are sound and balanced, whichever of them is looked at first. -/
structure World.Settles (parties : Parties) (world : World) : Prop where
  sound : world.Sound parties
  balanced : ∀ side, Balanced (world.copy parties side) (world.copy parties side.other)

theorem settles_of_side (sound : world.Sound parties) {side : Side}
    (balanced : Balanced (world.copy parties side) (world.copy parties side.other)) :
    world.Settles parties := by
  refine ⟨sound, fun place => ?_⟩
  rcases side.eq_or_other place with rfl | rfl
  · exact balanced
  · rw [Side.other_other]
    exact balanced.symm

/-- Two clients that have just logged in have nothing to tell each other. -/
theorem Ready.settles (ready : Ready parties world) : world.Settles parties := by
  have copy (side : Side) : world.copy parties side = ⟨false, [], false⟩ := by
    obtain ⟨client, present, -, own⟩ := ready.present side
    have undispatched : world.undispatched parties side = [] := by
      rw [World.undispatched, queued_of_present present]
      exact List.filterMap_eq_nil_iff.mpr fun outgoing member =>
        signal_own (own outgoing (List.mem_of_mem_drop member))
    rw [World.copy, World.inbox, undispatched, World.unrouted, ready.started, ready.unrouted]
    rfl
  refine ⟨ready.sound, fun side => ?_⟩
  rw [copy, copy]
  exact Or.inl rfl

/-- Every orderly step keeps the two balanced. -/
theorem World.Settles.next (settles : world.Settles parties) {action : Action}
    (plain : allowed parties action) (orderly : Orderly parties world action) :
    (world.next parties action).Settles parties := by
  have sound := settles.sound
  cases action with
  | handle side action =>
    have tells : ∃ signals, (world.dialog side).Tells ((world.dialog side).next action)
        (parties.userId side.other) signals := by
      cases sound.moves plain with
      | stays tells | starts tells | offers _ tells | hangsUp _ tells | fails _ tells
      | revives _ tells => exact ⟨_, tells⟩
    obtain ⟨signals, tells⟩ := tells
    exact settles_of_side
      (sound.converse ((sound.converses side).reachable.take action trivial) tells)
      (balanced_handle sound (settles.balanced side) plain orderly)
  | route side rehash =>
    rw [World.next]
    split
    · exact settles
    · rename_i line first
      obtain ⟨later, balanced⟩ := balanced_route sound (settles.balanced side) first
        (orderly line first) rehash
      exact settles_of_side later balanced
  | write side results =>
    obtain ⟨later, same⟩ := sound.write side results
    refine ⟨later, fun place => ?_⟩
    rw [World.copy, World.copy, same, same]
    exact settles.balanced place
  | dispatch side outcomes =>
    rw [World.next]
    split
    · exact settles
    · rename_i outgoing first
      obtain ⟨tells, -⟩ := sound.hears first outcomes
      have reachable := (sound.converses side).reachable.take
        (.signalingMessage outcomes outgoing.line) trivial
      exact settles_of_side ((sound.dequeue first).converse reachable tells)
        (balanced_dispatch sound (settles.balanced side) first (orderly outgoing first))

/-- In every state of an orderly run the two are balanced. -/
theorem settles_of_reachable
    (reachable : ((system parties).restrict (Orderly parties)).Reachable world) :
    world.Settles parties := by
  refine reachable.invariant (fun world ready => ?_) fun world action _ settles allowed => ?_
  · exact Ready.settles ready
  · exact settles.next allowed.1 allowed.2

/-! ### Nothing is in flight -/

/-- No line is under way, and no message about a state is waiting. -/
structure World.Quiet (parties : Parties) (world : World) : Prop where
  routed : ∀ side, world.routed side = (world.dialog side).sent.length
  dispatched : ∀ side, world.dispatched side = (world.queued parties side).length
  posted : ∀ side, (world.dialog side).posted = []

/-- No session is waiting for `CreateOffer` or `SetLocalDescription`, to announce its own offer. -/
def World.Announced (parties : Parties) (world : World) : Prop :=
  ∀ side, ∀ session ∈ (world.dialog side).sessions.lookup (parties.userId side.other),
    session.pendingSdpCallback = some (.offer (parties.userId side.other)) →
      session.localDescriptionAnnounced = true

theorem World.Quiet.inbox (quiet : world.Quiet parties) (side : Side) :
    world.inbox parties side = [] := by
  rw [World.inbox, World.undispatched, World.unrouted, quiet.dispatched, quiet.routed,
    List.drop_length, List.drop_length]
  rfl

/-- In a quiet state a client holds a session exactly when there is one, and with every offer
announced it has told so. -/
theorem World.Quiet.standing (quiet : world.Quiet parties) (announced : world.Announced parties)
    (sound : world.Sound parties) (side : Side) :
    (world.copy parties side).untold = false ∧
      ((world.copy parties side).value = true ↔
        parties.userId side.other ∈ (world.dialog side).sessions) := by
  rw [← AList.lookup_isSome]
  cases present : (world.dialog side).sessions.lookup (parties.userId side.other) with
  | none =>
    have apart : (world.dialog side).standing (parties.userId side.other) = .apart :=
      Peer.Dialog.standing_of_absent (Peer.Dialog.stance_eq_none.mpr present)
    rw [World.copy, apart]
    exact ⟨rfl, Iff.rfl⟩
  | some session =>
    have lively : ¬ session.state.Terminal := by
      intro terminal
      have waiting := Peer.Dialog.allAnnounced_of_reachable (sound.converses side).reachable
        _ session present terminal
      rw [quiet.posted] at waiting
      cases waiting
    have told : session.errand ≠ (some (.offer (parties.userId side.other)), false) := by
      intro same
      have offered := announced side session present (congrArg Prod.fst same)
      exact Bool.false_ne_true ((congrArg Prod.snd same).symm.trans offered)
    have stands : (world.dialog side).standing (parties.userId side.other) = ⟨true, false⟩ := by
      refine (Peer.Dialog.standing_of_present (congrArg _ present)).trans
        ((Peer.Dialog.standingOf_lively lively session.errand).trans ?_)
      rw [decide_eq_false told]
    rw [World.copy, stands]
    exact ⟨rfl, iff_of_true rfl rfl⟩

/-- When nothing is in flight and no offer is still to be announced, two clients agree about having
a session with each other, however an orderly run has led there. -/
theorem sessions_agree
    (reachable : ((system parties).restrict (Orderly parties)).Reachable world)
    (quiet : world.Quiet parties) (announced : world.Announced parties) :
    parties.userId .right ∈ (world.dialog .left).sessions ↔
      parties.userId .left ∈ (world.dialog .right).sessions := by
  have settles := settles_of_reachable reachable
  have left := quiet.standing announced settles.sound .left
  have right := quiet.standing announced settles.sound .right
  have agree := (settles.balanced .left).value_eq (quiet.inbox .left) (quiet.inbox .right)
    left.1 right.1
  exact left.2.symm.trans ((by rw [agree]; rfl) : _ ↔ _) |>.trans right.2

end

/-! ### Calls between two users -/

/-- Two users and their sockets. -/
def aliceAndBob : Parties where
  userId
    | .left => bytes "alice"
    | .right => bytes "bob"
  socket
    | .left => 1
    | .right => 2
  apart side := by cases side <;> decide

/-- They have just logged in. -/
def loggedIn : World where
  server := SignalingServer.system.run {} (SignalingServer.logins (bytes "alice") (bytes "bob"))
  dialog _ := {}
  routed _ := 0
  dispatched _ := 0

theorem ready_loggedIn : Ready aliceAndBob loggedIn where
  server := SignalingServer.reachable_run (by decide)
  named side := by cases side <;> decide
  present side := by cases side <;> decide
  started := rfl
  unrouted := rfl
  undispatched := rfl

/-- The presence lines are read; one user calls the other, whose devices answer in some way. -/
def ring (outcomes : Peer.Dialog.Outcomes) : List Action :=
  [.dispatch .left .success, .dispatch .left .success, .dispatch .right .success,
    .handle .left (.startSelectedSession .success (some (bytes "bob"))),
    .handle .left (.sessionState 0 0),
    .handle .left (.sessionEvent (bytes "bob")
      (.localDescriptionCreated (bytes "v=0") (bytes "offer"))),
    .handle .left (.sessionEvent (bytes "bob") .localDescriptionSet),
    .route .left .keep, .dispatch .right outcomes, .handle .right (.sessionState 0 0)]

/-- libwebrtc cannot make a peer connection. -/
def unconnected : Peer.Dialog.Outcomes :=
  { Peer.Dialog.Outcomes.success with peerConnection := false }

theorem allows_ring (outcomes : Peer.Dialog.Outcomes) :
    (system aliceAndBob).Allows loggedIn (ring outcomes) := by
  refine ⟨trivial, trivial, trivial, fun user selected => ?_, trivial, trivial, trivial, trivial,
    trivial, trivial, trivial⟩
  exact (Option.some_inj.mp selected).symm

/-- A handler that has no part in what the other is told. -/
theorem orderlyHandler_of_not {parties : Parties} {world : World} {side : Side}
    {action : Peer.Action}
    (offers : ¬ (world.dialog side).Offers (parties.userId side.other) action)
    (hangsUp : ¬ (world.dialog side).HangsUp (parties.userId side.other) action)
    (fails : ¬ (world.dialog side).Fails (parties.userId side.other) action)
    (revives : ¬ (world.dialog side).Revives (parties.userId side.other) action) :
    OrderlyHandler parties world side action :=
  ⟨fun is => absurd is offers, fun is => absurd is hangsUp, fun is => absurd is fails,
    fun is => absurd is revives⟩

set_option maxRecDepth 100000 in
/-- A call whose set-up succeeds is orderly. -/
theorem orderly_ring :
    ((system aliceAndBob).restrict (Orderly aliceAndBob)).Allows loggedIn (ring .success) := by
  refine ⟨⟨trivial, ?_⟩, ⟨trivial, ?_⟩, ⟨trivial, ?_⟩, ⟨fun user selected => ?_, ?_⟩,
    ⟨trivial, ?_⟩, ⟨trivial, ?_⟩, ⟨trivial, ?_⟩, ⟨trivial, ?_⟩, ⟨trivial, ?_⟩, ⟨trivial, ?_⟩,
    trivial⟩
  · unfold Orderly
    decide
  · unfold Orderly
    decide
  · unfold Orderly
    decide
  · exact (Option.some_inj.mp selected).symm
  · exact orderlyHandler_of_not id id id id
  · exact orderlyHandler_of_not id id id id
  · exact orderlyHandler_of_not id id id id
  · refine ⟨fun _ => ?_, fun is => absurd is id, fun is => absurd is id, fun is => absurd is id⟩
    decide
  · unfold Orderly
    decide
  · unfold Orderly
    decide
  · exact orderlyHandler_of_not id id id id

set_option maxRecDepth 100000 in
theorem sessions_agree_ring :
    let world := (system aliceAndBob).run loggedIn (ring .success)
    bytes "bob" ∈ (world.dialog .left).sessions ∧
      bytes "alice" ∈ (world.dialog .right).sessions := by
  intro world
  have reachable : ((system aliceAndBob).restrict (Orderly aliceAndBob)).Reachable world :=
    Transition.System.Reachable.run_restrict (.start ready_loggedIn) orderly_ring
  have quiet : world.Quiet aliceAndBob := by
    refine ⟨?_, ?_, ?_⟩ <;> (intro side; cases side <;> decide)
  have announced : world.Announced aliceAndBob := by
    intro side
    cases side <;> decide
  have agree := sessions_agree reachable quiet announced
  have held : bytes "bob" ∈ (world.dialog .left).sessions := by decide
  exact ⟨held, agree.mp held⟩

set_option maxRecDepth 100000 in
/-- The callee's peer connection cannot be made; nobody tells the caller, whose session stays. -/
theorem caller_left_alone :
    ¬ ∀ parties world, (system parties).Reachable world → world.Quiet parties →
      world.Announced parties →
        (parties.userId .right ∈ (world.dialog .left).sessions ↔
          parties.userId .left ∈ (world.dialog .right).sessions) := by
  intro agree
  have reachable := (Transition.System.Reachable.start ready_loggedIn).run
    (allows_ring unconnected)
  have quiet : ((system aliceAndBob).run loggedIn (ring unconnected)).Quiet aliceAndBob := by
    refine ⟨?_, ?_, ?_⟩ <;> (intro side; cases side <;> decide)
  have announced : ((system aliceAndBob).run loggedIn (ring unconnected)).Announced
      aliceAndBob := by
    intro side
    cases side <;> decide
  have same := agree aliceAndBob _ reachable quiet announced
  revert same
  decide

end RemoteControl.Call

/-
This file says what the lines of a session tell its user, and how far a session is.
Of the four call messages only two matter for whether there is a session: an offer
says that there is one, a hangup that there is none.
-/

import RemoteControl.Peer.Negotiation
import RemoteControl.Peer.Notifications
import RemoteControl.Signaling.RoundTrip

namespace RemoteControl

/-! ### What a line tells -/

/-- What a call message tells its receiver about the sender's session: that there is one, that
there is none, or nothing. -/
def CallMessage.signal : CallMessage → Option Bool
  | .offer _ => some true
  | .hangup => some false
  | .answer _ | .candidate _ _ _ => none

/-- What a line tells, by its type. -/
def signal (json : ByteString) : Option Bool :=
  if SignalingProtocol.stringField json (bytes "type") = bytes "offer" then some true
  else if SignalingProtocol.stringField json (bytes "type") = bytes "hangup" then some false
  else none

theorem signal_eq {json : ByteString} {message : CallMessage}
    (type : SignalingProtocol.stringField json (bytes "type") = message.type) :
    signal json = message.signal := by
  rw [signal, type]
  cases message <;> rfl

/-- A line of another type tells nothing. -/
theorem signal_of_type {json type : ByteString}
    (same : SignalingProtocol.stringField json (bytes "type") = type)
    (offer : type ≠ bytes "offer") (hangup : type ≠ bytes "hangup") : signal json = none := by
  rw [signal, same, if_neg offer, if_neg hangup]

theorem signal_line (message : CallMessage) (toUser : ByteString) :
    signal (message.line toUser) = message.signal :=
  signal_eq (message.roundTrips toUser).clientType

/-- The lines are call messages to a user, and tell this. -/
structure Told (toUser : ByteString) (lines : List ByteString) (signals : List Bool) : Prop where
  messages : ∀ line ∈ lines, ∃ message : CallMessage, line = message.line toUser
  signals : lines.filterMap signal = signals

theorem told_nil (toUser : ByteString) : Told toUser [] [] :=
  ⟨fun _ member => absurd member List.not_mem_nil, rfl⟩

theorem told_line (toUser : ByteString) (message : CallMessage) :
    Told toUser [message.line toUser] message.signal.toList := by
  refine ⟨fun line member => ⟨message, List.mem_singleton.mp member⟩, ?_⟩
  rw [List.filterMap_cons, signal_line]
  cases message.signal <;> rfl

theorem Told.append {toUser : ByteString} {first second : List ByteString}
    {firstSignals secondSignals : List Bool} (told : Told toUser first firstSignals)
    (later : Told toUser second secondSignals) :
    Told toUser (first ++ second) (firstSignals ++ secondSignals) :=
  ⟨fun line member => (List.mem_append.mp member).elim (told.messages line) (later.messages line),
    by rw [List.filterMap_append, told.signals, later.signals]⟩

/-- Answers and candidates tell nothing about the session. -/
theorem told_silent {toUser : ByteString} {lines : List ByteString}
    (silent : ∀ line ∈ lines, ∃ message : CallMessage,
      line = message.line toUser ∧ message.signal = none) : Told toUser lines [] := by
  refine ⟨fun line member => ?_, List.filterMap_eq_nil_iff.mpr fun line member => ?_⟩
  · obtain ⟨message, same, -⟩ := silent line member
    exact ⟨message, same⟩
  · obtain ⟨message, rfl, nothing⟩ := silent line member
    rw [signal_line, nothing]

namespace Peer

/-! ### What a session stands for -/

namespace PeerSession

section

variable {Callback : Type} (session : PeerSession Callback)

/-- How far a session is: its state, and whether its callback has its description. -/
def stance : PeerSessionState × Option Callback × Bool :=
  (session.state, session.pendingSdpCallback, session.localDescriptionAnnounced)

/-- The callback, and whether it has been invoked. -/
def errand : Option Callback × Bool :=
  (session.pendingSdpCallback, session.localDescriptionAnnounced)

theorem errand_handle {event : SessionEvent} (other : event ≠ .localDescriptionSet) :
    (session.handle event).1.errand = session.errand :=
  session.view_handle errand (fun _ _ => rfl) event (fun _ _ => rfl) (fun _ _ _ _ => rfl)
    (fun same => absurd same other) (fun _ _ _ _ => rfl) (fun _ => rfl) fun _ _ => rfl

end

end PeerSession

/-- The lines of a session that passes nothing on. -/
theorem lines_of_quiet {outputs : List (Output SdpCallback)}
    (quiet : outputs.filter Output.isOutgoing = []) :
    outputs.filterMap Output.signalingLine = [] := by
  refine filterMap_of_quiet quiet fun output silent => ?_
  cases output with
  | sdp callback sdp type => exact absurd rfl silent
  | iceCandidate remoteUserId candidate => exact absurd rfl silent
  | _ => rfl

namespace Dialog

/-- The callback of a session sends to the user of the session. -/
def OwnCallback (remoteUserId : ByteString) (session : PeerSession SdpCallback) : Prop :=
  ∀ callback, session.pendingSdpCallback = some callback →
    callback = .offer remoteUserId ∨ callback = .answer remoteUserId

section

variable {remoteUserId : ByteString} {session : PeerSession SdpCallback}

theorem Bound.opened (bound : Bound remoteUserId session) : session.closed = false :=
  congrArg (fun binding => binding.2.2.2.1) bound.2

theorem Bound.connected (bound : Bound remoteUserId session) : session.peerConnection = true :=
  congrArg (fun binding => binding.2.2.2.2) bound.2

theorem Bound.ice (bound : Bound remoteUserId session) :
    session.iceCandidateCallback = some remoteUserId :=
  congrArg (fun binding => binding.2.2.1) bound.2

/-- What a session sends unless its local description has been set: candidates at most. -/
theorem told_handle (bound : Bound remoteUserId session) {event : SessionEvent}
    (other : event ≠ .localDescriptionSet) :
    Told remoteUserId ((session.handle event).2.filterMap Output.signalingLine) [] := by
  refine told_silent fun line member => ?_
  obtain ⟨output, emitted, sends⟩ := List.mem_filterMap.mp member
  cases session.emits_of_mem emitted with
  | reported opened ice candidate =>
    cases ice.symm.trans bound.ice
    cases sends
    exact ⟨.candidate candidate.mid candidate.mlineIndex candidate.candidate, rfl, rfl⟩
  | announced opened pending => exact absurd rfl other
  | gathered opened ice candidate => exact absurd rfl other
  | _ => cases sends

/-- What a session sends when its local description has been set. -/
theorem told_announce (bound : Bound remoteUserId session)
    (own : OwnCallback remoteUserId session) :
    Told remoteUserId ((session.handle .localDescriptionSet).2.filterMap Output.signalingLine)
      (if session.pendingSdpCallback = some (.offer remoteUserId) then [true] else []) := by
  have candidates : Told remoteUserId (session.pendingLocalCandidates.map fun candidate =>
      SignalingProtocol.candidate remoteUserId candidate.mid candidate.mlineIndex
        candidate.candidate) [] := by
    refine told_silent fun line member => ?_
    obtain ⟨candidate, -, rfl⟩ := List.mem_map.mp member
    exact ⟨.candidate candidate.mid candidate.mlineIndex candidate.candidate, rfl, rfl⟩
  have description : Told remoteUserId
      (session.pendingSdpCallback.toList.map fun callback => callback.line session.pendingLocalSdp)
      (if session.pendingSdpCallback = some (.offer remoteUserId) then [true] else []) := by
    cases pending : session.pendingSdpCallback with
    | none => exact told_nil remoteUserId
    | some callback =>
      rcases own callback pending with rfl | rfl
      · rw [if_pos rfl]
        exact told_line remoteUserId (.offer session.pendingLocalSdp)
      · rw [if_neg (fun same => by cases same)]
        exact told_line remoteUserId (.answer session.pendingLocalSdp)
  have lines : (session.handle .localDescriptionSet).2.filterMap Output.signalingLine =
      (session.pendingSdpCallback.toList.map fun callback =>
        callback.line session.pendingLocalSdp) ++
      session.pendingLocalCandidates.map fun candidate =>
        SignalingProtocol.candidate remoteUserId candidate.mid candidate.mlineIndex
          candidate.candidate := by
    rw [PeerSession.handle, PeerSession.announceLocalDescription, bound.opened, bound.ice,
      if_neg Bool.false_ne_true]
    simp only [List.filterMap_append, Option.toList_some, List.flatMap_cons, List.flatMap_nil,
      List.append_nil, List.filterMap_map]
    congr 1
    · cases session.pendingSdpCallback <;> rfl
    · exact congrFun List.filterMap_eq_map' _
  rw [lines]
  have both := description.append candidates
  rwa [List.append_nil] at both

/-! ### What becomes of a session -/

theorem stance_of_errand {after : PeerSession SdpCallback} (state : after.state = session.state)
    (errand : after.errand = session.errand) : after.stance = session.stance := by
  show (after.state, after.errand) = (session.state, session.errand)
  rw [state, errand]

/-- Most callbacks leave a session as far as it is. -/
theorem stance_handle {event : SessionEvent} (announced : event ≠ .localDescriptionSet)
    (failed : event ≠ .negotiationFailed) (reported : ∀ state, event ≠ .peerConnectionState state) :
    (session.handle event).1.stance = session.stance := by
  refine stance_of_errand ?_ (session.errand_handle announced)
  rcases session.state_handle event with same | ⟨same, -⟩ | ⟨state, -, same, -⟩
  · exact same
  · exact absurd same failed
  · exact absurd same (reported state)

theorem stance_announced (bound : Bound remoteUserId session) :
    (session.handle .localDescriptionSet).1.stance =
      (session.state, session.pendingSdpCallback, true) := by
  rw [PeerSession.handle, PeerSession.announceLocalDescription, bound.opened,
    if_neg Bool.false_ne_true]
  rfl

theorem stance_failed (bound : Bound remoteUserId session) :
    (session.handle .negotiationFailed).1.stance = (.failed, session.errand) := by
  have state : (session.handle .negotiationFailed).1.state = .failed := by
    rw [PeerSession.handle, PeerSession.failNegotiation, bound.opened, if_neg Bool.false_ne_true]
    exact PeerSession.state_updateState _ _
  show ((session.handle .negotiationFailed).1.state,
    (session.handle .negotiationFailed).1.errand) = _
  rw [state, session.errand_handle (fun same => by cases same)]

/-- A connection that has not failed makes a session lively. -/
theorem stance_reported {reported : RTCPeerConnectionState} (alive : reported ≠ .failed)
    (opened : reported ≠ .closed) :
    (session.handle (.peerConnectionState reported)).1.stance = session.stance ∨
      reported ≠ .new ∧ ∃ state : PeerSessionState, ¬ state.Terminal ∧
        (session.handle (.peerConnectionState reported)).1.stance = (state, session.errand) := by
  have errand : (session.handle (.peerConnectionState reported)).1.errand = session.errand :=
    session.errand_handle fun same => by cases same
  have entered (state : PeerSessionState) (lively : ¬ state.Terminal)
      (same : session.handle (.peerConnectionState reported) = session.updateState state) :
      ∃ state : PeerSessionState, ¬ state.Terminal ∧
        (session.handle (.peerConnectionState reported)).1.stance = (state, session.errand) := by
    refine ⟨state, lively, ?_⟩
    show ((session.handle (.peerConnectionState reported)).1.state,
      (session.handle (.peerConnectionState reported)).1.errand) = _
    rw [errand, same, PeerSession.state_updateState]
  cases reported with
  | new => exact Or.inl rfl
  | connecting => exact Or.inr ⟨(nomatch ·), entered .connecting (by decide) rfl⟩
  | connected => exact Or.inr ⟨(nomatch ·), entered .connected (by decide) rfl⟩
  | disconnected => exact Or.inr ⟨(nomatch ·), entered .disconnected (by decide) rfl⟩
  | failed => exact absurd rfl alive
  | closed => exact absurd rfl opened

/-- A session that negotiates is connecting, and its callback has no description yet. -/
theorem stance_createOffer (connected : session.peerConnection = true) (callback : SdpCallback) :
    (session.createOffer callback).1.stance = (.connecting, some callback, false) := by
  have errand : (session.createOffer callback).1.errand = (some callback, false) :=
    congrArg (fun draft => (draft.1, draft.2.1)) (session.draft_createOffer connected callback)
  show ((session.createOffer callback).1.state, (session.createOffer callback).1.errand) = _
  rw [createOffer_state connected, errand]

theorem stance_applyRemoteOffer (connected : session.peerConnection = true) (sdp : ByteString)
    (callback : SdpCallback) :
    (session.applyRemoteOffer sdp callback).1.stance = (.connecting, some callback, false) := by
  have errand : (session.applyRemoteOffer sdp callback).1.errand = (some callback, false) :=
    congrArg (fun draft => (draft.1, draft.2.1))
      (session.draft_applyRemoteOffer connected sdp callback)
  show ((session.applyRemoteOffer sdp callback).1.state,
    (session.applyRemoteOffer sdp callback).1.errand) = _
  rw [applyRemoteOffer_state connected, errand]

end

/-! ### Callbacks send to their own user -/

/-- Every session's callback sends to the session's user. -/
def OwnCallbacks (dialog : Dialog) : Prop :=
  ∀ remoteUserId session, dialog.sessions.lookup remoteUserId = some session →
    OwnCallback remoteUserId session

theorem OwnCallback.of_same {remoteUserId : ByteString} {session after : PeerSession SdpCallback}
    (own : OwnCallback remoteUserId session)
    (same : after.pendingSdpCallback = session.pendingSdpCallback) :
    OwnCallback remoteUserId after := by
  intro callback pending
  rw [same] at pending
  exact own callback pending

theorem Treated.ownCallback {dialog : Dialog} {remoteUserId : ByteString}
    {result : PeerSession SdpCallback × List (Output SdpCallback)}
    (treated : Treated dialog remoteUserId result) (allBound : dialog.AllBound)
    (own : dialog.OwnCallbacks) : OwnCallback remoteUserId result.1 := by
  cases treated with
  | @handled session present event =>
    exact (own _ _ present).of_same (session.view_handle (·.pendingSdpCallback) (fun _ _ => rfl)
      event (fun _ _ => rfl) (fun _ _ _ _ => rfl) (fun _ _ => rfl) (fun _ _ _ _ => rfl)
      (fun _ => rfl) fun _ _ => rfl)
  | @candidate session present item =>
    exact (own _ _ present).of_same (congrArg Prod.fst (session.draft_addRemoteCandidate item))
  | offered named owner options =>
    intro callback pending
    have connected := prepareSession_connected owner remoteUserId
      (callingSession_spec remoteUserId options).2.2
    have bound : some callback = some (.offer remoteUserId) :=
      pending.symm.trans (congrArg Prod.fst (PeerSession.draft_createOffer _ connected _))
    exact Or.inl (Option.some_inj.mp bound)
  | @answered named owner session found sdp =>
    intro callback pending
    have connected : session.peerConnection = true := by
      rcases found with present | ⟨options, rfl⟩
      · exact (allBound _ _ present).connected
      · rfl
    have bound : some callback = some (.answer remoteUserId) :=
      pending.symm.trans (congrArg Prod.fst (PeerSession.draft_applyRemoteOffer _
        (prepareSession_connected owner remoteUserId connected) _ _))
    exact Or.inr (Option.some_inj.mp bound)

theorem OwnCallbacks.next {dialog : Dialog} (own : dialog.OwnCallbacks)
    (allBound : dialog.AllBound) (action : Action) : (dialog.next action).OwnCallbacks := by
  by_cases windowed : ∃ created, action = .toggleFullscreen created
  · obtain ⟨created, rfl⟩ := windowed
    intro remoteUserId session present
    obtain ⟨earlier, found, same⟩ :=
      (dialog.toggleFullscreen_spec created).2 remoteUserId session present
    refine (own remoteUserId earlier found).of_same ?_
    rcases same with rfl | ⟨target, rfl⟩ <;> rfl
  · intro remoteUserId session present
    have sessions := dialog.sessions_taken action
    have taken : (dialog.taken action).OwnCallbacks := by
      rwa [OwnCallbacks, sessions]
    have bound : (dialog.taken action).AllBound := by
      rwa [AllBound, sessions]
    rcases (dialog.effect_next (not_exists.mp windowed)).origin present with
      ⟨same, -⟩ | ⟨result, treated, rfl, -⟩ | ⟨earlier, checked, found, rfl, -⟩
    · exact taken remoteUserId session same
    · exact treated.ownCallback bound taken
    · exact (taken remoteUserId earlier found).of_same rfl

theorem ownCallbacks_of_reachable {dialog : Dialog} (reachable : system.Reachable dialog) :
    dialog.OwnCallbacks := by
  refine reachable.invariant ?_ fun dialog action reachable own _ =>
    own.next (allBound_of_reachable reachable) action
  rintro dialog rfl remoteUserId session present
  cases present

end Dialog

end Peer

end RemoteControl

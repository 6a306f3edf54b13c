/-
This file says what the callbacks of libwebrtc can make of a session: which of its
fields they leave alone, how they change its state, and everything they can make
it do. Callers pass on no more than these facts.
-/

import RemoteControl.Peer.Dialog

namespace RemoteControl.Peer

namespace PeerSession

section

variable {Callback : Type} (session : PeerSession Callback)

/-! ### What a callback leaves alone -/

section

variable {View : Type} (view : PeerSession Callback → View)
  (states : ∀ session state, view { session with state } = view session)

include states in
theorem view_updateState (state : PeerSessionState) :
    view (session.updateState state).1 = view session := by
  rw [updateState]
  split
  · rfl
  · exact states _ _

theorem view_markRemoteDescriptionSet (marks : ∀ session, view { session with
      remoteDescriptionSet := true, pendingRemoteCandidates := [] } = view session) :
    view session.markRemoteDescriptionSet.1 = view session := by
  rw [markRemoteDescriptionSet]
  split
  · rfl
  · exact marks _

include states in
/-- A callback changes what a view shows of a session only if one of its assignments does. -/
theorem view_handle (event : SessionEvent)
    (marks : event = .remoteOfferSet ∨ event = .remoteAnswerSet → ∀ session, view { session with
      remoteDescriptionSet := true, pendingRemoteCandidates := [] } = view session)
    (creates : ∀ sdp type, event = .localDescriptionCreated sdp type → ∀ session,
      view { session with pendingLocalSdp := sdp, pendingLocalSdpType := type } = view session)
    (announces : event = .localDescriptionSet → ∀ session, view { session with
      localDescriptionAnnounced := true, pendingLocalCandidates := [] } = view session)
    (gathers : ∀ candidate, event = .iceCandidate candidate → ∀ session candidates,
      view { session with pendingLocalCandidates := candidates } = view session)
    (tracks : ∀ session, view { session with remoteVideoTrack := true } = view session)
    (channels : ∀ session channel,
      view { session with controlChannel := some channel } = view session) :
    view (session.handle event).1 = view session := by
  cases event with
  | localDescriptionCreated sdp type => exact creates sdp type rfl _
  | localDescriptionSet =>
    rw [handle, announceLocalDescription]
    split
    · rfl
    · exact announces rfl _
  | remoteOfferSet => exact session.view_markRemoteDescriptionSet view (marks (Or.inl rfl))
  | remoteAnswerSet => exact session.view_markRemoteDescriptionSet view (marks (Or.inr rfl))
  | negotiationFailed =>
    rw [handle, failNegotiation]
    split
    · rfl
    · exact session.view_updateState view states _
  | iceCandidate candidate =>
    rw [handle, onIceCandidate]
    split
    · rfl
    · split
      · exact gathers candidate rfl _ _
      · rfl
  | peerConnectionState state =>
    cases state with
    | new => rfl
    | _ => exact session.view_updateState view states _
  | track kind =>
    rw [handle, onTrack]
    split
    · rfl
    · exact tracks _
  | dataChannel label =>
    rw [handle, onDataChannel]
    split
    · rfl
    · exact channels _ _
  | channelState opened => rfl
  | message moment buffer binary =>
    rw [handle, onMessage]
    split
    · rfl
    · exact channels _ _
  | frameStatus success width height => rfl

end

/-- What ties a session to its user and to the dialog. -/
def binding : ByteString × Bool × Option ByteString × Bool × Bool :=
  (session.remoteUserId, session.stateChangedCallback, session.iceCandidateCallback,
    session.closed, session.peerConnection)

/-- What a session keeps while it is not set up anew: its binding and its renderer. -/
def fixtures :
    (ByteString × Bool × Option ByteString × Bool × Bool) × Option RemoteVideoRenderer :=
  (session.binding, session.remoteVideoRenderer)

theorem fixtures_updateState (state : PeerSessionState) :
    (session.updateState state).1.fixtures = session.fixtures :=
  session.view_updateState fixtures (fun _ _ => rfl) state

theorem closed_updateState (state : PeerSessionState) :
    (session.updateState state).1.closed = session.closed :=
  congrArg (fun fixtures => fixtures.1.2.2.2.1) (session.fixtures_updateState state)

theorem peerConnection_updateState (state : PeerSessionState) :
    (session.updateState state).1.peerConnection = session.peerConnection :=
  congrArg (fun fixtures => fixtures.1.2.2.2.2) (session.fixtures_updateState state)

theorem fixtures_markRemoteDescriptionSet :
    session.markRemoteDescriptionSet.1.fixtures = session.fixtures :=
  session.view_markRemoteDescriptionSet fixtures fun _ => rfl

/-- Nothing libwebrtc reports loosens the binding or moves the picture. -/
theorem fixtures_handle (event : SessionEvent) :
    (session.handle event).1.fixtures = session.fixtures :=
  session.view_handle fixtures (fun _ _ => rfl) event (fun _ _ => rfl) (fun _ _ _ _ => rfl)
    (fun _ _ => rfl) (fun _ _ _ _ => rfl) (fun _ => rfl) fun _ _ => rfl

theorem fixtures_addRemoteCandidate (item : IceCandidate) :
    (session.addRemoteCandidate item).1.fixtures = session.fixtures := by
  rw [addRemoteCandidate]
  split
  · rfl
  · split <;> rfl

theorem fixtures_createOffer (callback : Callback) :
    (session.createOffer callback).1.fixtures = session.fixtures := by
  rw [createOffer]
  split
  · rfl
  · exact fixtures_updateState _ _

theorem fixtures_applyRemoteOffer (sdp : ByteString) (callback : Callback) :
    (session.applyRemoteOffer sdp callback).1.fixtures = session.fixtures := by
  rw [applyRemoteOffer]
  split
  · rfl
  · exact fixtures_updateState _ _

/-- What a session holds on the way to its local description. -/
def draft : Option Callback × Bool × List IceCandidate :=
  (session.pendingSdpCallback, session.localDescriptionAnnounced, session.pendingLocalCandidates)

theorem draft_updateState (state : PeerSessionState) :
    (session.updateState state).1.draft = session.draft :=
  session.view_updateState draft (fun _ _ => rfl) state

/-- A call that negotiates binds its callback and starts over. -/
theorem draft_createOffer (connected : session.peerConnection = true) (callback : Callback) :
    (session.createOffer callback).1.draft = (some callback, false, []) := by
  rw [createOffer, if_neg (by rw [connected]; exact Bool.false_ne_true.symm)]
  exact draft_updateState _ _

theorem draft_applyRemoteOffer (connected : session.peerConnection = true) (sdp : ByteString)
    (callback : Callback) :
    (session.applyRemoteOffer sdp callback).1.draft = (some callback, false, []) := by
  rw [applyRemoteOffer, if_neg (by rw [connected]; exact Bool.false_ne_true.symm)]
  exact draft_updateState _ _

theorem draft_addRemoteCandidate (item : IceCandidate) :
    (session.addRemoteCandidate item).1.draft = session.draft := by
  rw [addRemoteCandidate]
  split
  · rfl
  · split <;> rfl

/-- Only the completion of the local description and a local candidate touch it. -/
theorem draft_handle {event : SessionEvent} (other : event ≠ .localDescriptionSet)
    (noCandidate : ∀ candidate, event ≠ .iceCandidate candidate) :
    (session.handle event).1.draft = session.draft :=
  session.view_handle draft (fun _ _ => rfl) event (fun _ _ => rfl) (fun _ _ _ _ => rfl)
    (fun same => absurd same other) (fun candidate same => absurd same (noCandidate candidate))
    (fun _ => rfl) fun _ _ => rfl

/-- The description that was created last. -/
def description : ByteString × ByteString := (session.pendingLocalSdp, session.pendingLocalSdpType)

/-- Only the creation of another description touches it. -/
theorem description_handle {event : SessionEvent}
    (other : ∀ sdp type, event ≠ .localDescriptionCreated sdp type) :
    (session.handle event).1.description = session.description :=
  session.view_handle description (fun _ _ => rfl) event (fun _ _ => rfl)
    (fun sdp type same => absurd same (other sdp type)) (fun _ _ => rfl) (fun _ _ _ _ => rfl)
    (fun _ => rfl) fun _ _ => rfl

/-! ### How a callback changes the state -/

theorem state_updateState (state : PeerSessionState) :
    (session.updateState state).1.state = state := by
  rw [updateState]
  split
  · rename_i same
    exact same
  · rfl

theorem state_markRemoteDescriptionSet :
    session.markRemoteDescriptionSet.1.state = session.state := by
  rw [markRemoteDescriptionSet]
  split <;> rfl

/-- A callback leaves the state alone, unless it reports a failure or a connection state. -/
theorem state_handle (event : SessionEvent) :
    (session.handle event).1.state = session.state ∨
      (event = .negotiationFailed ∧ session.closed = false ∧
        session.handle event = session.updateState .failed) ∨
      ∃ reported state, event = .peerConnectionState reported ∧
        session.handle event = session.updateState state := by
  cases event with
  | localDescriptionCreated sdp type => exact Or.inl rfl
  | localDescriptionSet =>
    rw [handle, announceLocalDescription]
    split <;> exact Or.inl rfl
  | remoteOfferSet => exact Or.inl session.state_markRemoteDescriptionSet
  | remoteAnswerSet => exact Or.inl session.state_markRemoteDescriptionSet
  | negotiationFailed =>
    rw [handle, failNegotiation]
    split
    · exact Or.inl rfl
    · rename_i opened
      exact Or.inr (Or.inl ⟨rfl, Bool.not_eq_true _ ▸ opened, rfl⟩)
  | iceCandidate candidate =>
    rw [handle, onIceCandidate]
    split
    · exact Or.inl rfl
    · split <;> exact Or.inl rfl
  | peerConnectionState state =>
    cases state with
    | new => exact Or.inl rfl
    | _ => exact Or.inr (Or.inr ⟨_, _, rfl, rfl⟩)
  | track kind =>
    rw [handle, onTrack]
    split <;> exact Or.inl rfl
  | dataChannel label =>
    rw [handle, onDataChannel]
    split <;> exact Or.inl rfl
  | channelState opened => exact Or.inl rfl
  | message moment buffer binary =>
    rw [handle, onMessage]
    split <;> exact Or.inl rfl
  | frameStatus success width height => exact Or.inl rfl

/-! ### What a callback can make a session do -/

/-- The callback can make the session do this. -/
inductive Emits : SessionEvent → Output Callback → Prop where
  | failed (opened : session.closed = false) :
    Emits .negotiationFailed (.stateChanged session.remoteUserId .failed)
  | changed (reported : RTCPeerConnectionState) (state : PeerSessionState)
    (differs : session.state ≠ state) :
    Emits (.peerConnectionState reported) (.stateChanged session.remoteUserId state)
  | setLocal (sdp type : ByteString) :
    Emits (.localDescriptionCreated sdp type)
      (.request session.peerConnection (.setLocalDescription sdp type))
  | announced (opened : session.closed = false) {callback : Callback}
    (pending : session.pendingSdpCallback = some callback) :
    Emits .localDescriptionSet
      (.sdp callback session.pendingLocalSdp session.pendingLocalSdpType)
  | gathered (opened : session.closed = false) {remoteUserId : ByteString}
    (bound : session.iceCandidateCallback = some remoteUserId) (candidate : IceCandidate) :
    Emits .localDescriptionSet (.iceCandidate remoteUserId candidate)
  | reported (opened : session.closed = false) {remoteUserId : ByteString}
    (bound : session.iceCandidateCallback = some remoteUserId) (candidate : IceCandidate) :
    Emits (.iceCandidate candidate) (.iceCandidate remoteUserId candidate)
  | applied {event : SessionEvent} (opened : session.closed = false) (candidate : IceCandidate) :
    Emits event (.request true (.addCandidate candidate))
  | createAnswer : Emits .remoteOfferSet (.request session.peerConnection .createAnswer)
  | media {event : SessionEvent} (opened : session.closed = false) (media : PeerMediaEvent)
    (width height : Nat) :
    Emits event (.mediaEvent session.remoteUserId media width height)
  | control {event : SessionEvent} (opened : session.closed = false) (control : ControlEvent) :
    Emits event (.controlEvent session.remoteUserId control)
  | inject (moment : Moment) (buffer : ByteString) (binary : Bool) (call : InjectorCall) :
    Emits (.message moment buffer binary) (.inject call)
  | packet (moment : Moment) (buffer : ByteString) (binary : Bool) (packet : ControlPacket) :
    Emits (.message moment buffer binary) (.packet packet)

/-- An update of the state only reports the new state, if it is new. -/
theorem mem_updateState {state : PeerSessionState} {output : Output Callback}
    (member : output ∈ (session.updateState state).2) :
    session.state ≠ state ∧ output = .stateChanged session.remoteUserId state := by
  rw [updateState] at member
  split at member
  · cases member
  · rename_i differs
    split at member
    · exact ⟨differs, List.mem_singleton.mp member⟩
    · cases member

theorem mem_markRemoteDescriptionSet {output : Output Callback}
    (member : output ∈ session.markRemoteDescriptionSet.2) :
    session.closed = false ∧ ∃ candidate, output = .request true (.addCandidate candidate) := by
  rw [markRemoteDescriptionSet] at member
  split at member
  · cases member
  · rename_i opened
    simp only at member
    split at member
    · obtain ⟨candidate, -, same⟩ := List.mem_map.mp member
      exact ⟨Bool.not_eq_true _ ▸ opened, candidate, same.symm⟩
    · cases member

theorem mem_notifyMediaEvent {event : PeerMediaEvent} {width height : Nat}
    {output : Output Callback} (member : output ∈ session.notifyMediaEvent event width height) :
    session.closed = false ∧ output = .mediaEvent session.remoteUserId event width height := by
  rw [notifyMediaEvent] at member
  split at member
  · rename_i opened
    exact ⟨opened.1, List.mem_singleton.mp member⟩
  · cases member

theorem mem_notifyControlEvent {event : ControlEvent} {output : Output Callback}
    (member : output ∈ session.notifyControlEvent event) :
    session.closed = false ∧ output = .controlEvent session.remoteUserId event := by
  rw [notifyControlEvent] at member
  split at member
  · rename_i opened
    exact ⟨opened.1, List.mem_singleton.mp member⟩
  · cases member

/-- Everything a callback makes a session do is on the list. -/
theorem emits_of_mem {event : SessionEvent} {output : Output Callback}
    (member : output ∈ (session.handle event).2) : session.Emits event output := by
  cases event with
  | localDescriptionCreated sdp type =>
    cases List.mem_singleton.mp member
    exact .setLocal sdp type
  | localDescriptionSet =>
    rw [handle, announceLocalDescription] at member
    split at member
    · cases member
    · rename_i opened
      rw [Bool.not_eq_true] at opened
      rcases List.mem_append.mp member with description | candidates
      · obtain ⟨callback, pending, rfl⟩ := List.mem_map.mp description
        exact .announced opened (Option.mem_toList.mp pending)
      · obtain ⟨remoteUserId, bound, gathered⟩ := List.mem_flatMap.mp candidates
        obtain ⟨candidate, -, rfl⟩ := List.mem_map.mp gathered
        exact .gathered opened (Option.mem_toList.mp bound) candidate
  | remoteOfferSet =>
    rw [handle, remoteOfferSet] at member
    rcases List.mem_append.mp member with applied | asked
    · obtain ⟨opened, candidate, rfl⟩ := session.mem_markRemoteDescriptionSet applied
      exact .applied opened candidate
    · have kept : session.markRemoteDescriptionSet.1.peerConnection = session.peerConnection :=
        congrArg (fun fixtures => fixtures.1.2.2.2.2) session.fixtures_markRemoteDescriptionSet
      rw [kept] at asked
      cases List.mem_singleton.mp asked
      exact .createAnswer
  | remoteAnswerSet =>
    obtain ⟨opened, candidate, rfl⟩ := session.mem_markRemoteDescriptionSet member
    exact .applied opened candidate
  | negotiationFailed =>
    rw [handle, failNegotiation] at member
    split at member
    · cases member
    · rename_i opened
      obtain ⟨-, rfl⟩ := session.mem_updateState member
      exact .failed (Bool.not_eq_true _ ▸ opened)
  | iceCandidate candidate =>
    rw [handle, onIceCandidate] at member
    split at member
    · cases member
    split at member
    · cases member
    · rename_i opened _
      obtain ⟨remoteUserId, bound, rfl⟩ := List.mem_map.mp member
      exact .reported (Bool.not_eq_true _ ▸ opened) (Option.mem_toList.mp bound) candidate
  | peerConnectionState state =>
    cases state with
    | new => cases member
    | _ =>
      obtain ⟨differs, rfl⟩ := session.mem_updateState member
      exact .changed _ _ differs
  | track kind =>
    rw [handle, onTrack] at member
    split at member
    · cases member
    · obtain ⟨opened, rfl⟩ := session.mem_notifyMediaEvent member
      exact .media opened _ _ _
  | dataChannel label => cases member
  | channelState opened =>
    obtain ⟨opened, rfl⟩ := session.mem_notifyControlEvent member
    exact .control opened _
  | message moment buffer binary =>
    rw [handle, onMessage] at member
    split at member
    · cases member
    · simp only at member
      rcases List.mem_append.mp member with acted | reported
      · rcases List.mem_append.mp acted with injected | sent
        · obtain ⟨call, -, rfl⟩ := List.mem_map.mp injected
          exact .inject _ _ _ call
        · obtain ⟨packet, -, rfl⟩ := List.mem_map.mp sent
          exact .packet _ _ _ packet
      · obtain ⟨event, -, reports⟩ := List.mem_flatMap.mp reported
        obtain ⟨opened, rfl⟩ := session.mem_notifyControlEvent reports
        exact .control opened event
  | frameStatus success width height =>
    obtain ⟨opened, rfl⟩ := session.mem_notifyMediaEvent member
    exact .media opened _ _ _

end

end PeerSession

end RemoteControl.Peer

/-
This file proves that a remote peer controls this machine only with the consent of
its user. The consent is kept four times: in the check box, in every session, in
every session's control channel, and, in effect, in what a received packet may do.
The copies agree after every handler, and no handler but the one of a received
message calls into the injector.
-/

import RemoteControl.Peer.Callbacks
import RemoteControl.Peer.Sessions

namespace RemoteControl.Peer

/-! ### The copies of the consent -/

/-- A session and its control channel carry the consent. -/
structure Consents (allow : Bool) (session : PeerSession SdpCallback) : Prop where
  inSession : session.remoteControlAuthorized = allow
  inChannel : ∀ channel, session.controlChannel = some channel → channel.authorized = allow

section

variable {allow : Bool} {session : PeerSession SdpCallback}

/-- Setting the consent of a session sets it in the channel, too. -/
theorem consents_setRemoteControlAuthorized (allow : Bool) (session : PeerSession SdpCallback) :
    Consents allow (session.setRemoteControlAuthorized allow) where
  inSession := rfl
  inChannel channel present := by
    obtain ⟨earlier, -, rfl⟩ := Option.map_eq_some_iff.mp present
    rfl

theorem Consents.of_same (consents : Consents allow session) {after : PeerSession SdpCallback}
    (sameSession : after.remoteControlAuthorized = session.remoteControlAuthorized)
    (sameChannel : after.controlChannel = session.controlChannel) : Consents allow after where
  inSession := sameSession.trans consents.inSession
  inChannel channel present := consents.inChannel channel (sameChannel ▸ present)

theorem Consents.updateState (consents : Consents allow session) (state : PeerSessionState) :
    Consents allow (session.updateState state).1 := by
  rw [PeerSession.updateState]
  split
  · exact consents
  · exact consents.of_same rfl rfl

theorem Consents.createOffer (consents : Consents allow session) (callback : SdpCallback) :
    Consents allow (session.createOffer callback).1 := by
  rw [PeerSession.createOffer]
  split
  · exact consents
  · refine Consents.updateState ?_ _
    exact consents.of_same rfl rfl

theorem Consents.applyRemoteOffer (consents : Consents allow session) (sdp : ByteString)
    (callback : SdpCallback) : Consents allow (session.applyRemoteOffer sdp callback).1 := by
  rw [PeerSession.applyRemoteOffer]
  split
  · exact consents
  · refine Consents.updateState ?_ _
    exact consents.of_same rfl rfl

/-- A prepared session has the consent of the check box, whatever it had before. -/
theorem consents_prepareSession (dialog : Dialog) (session : PeerSession SdpCallback)
    (remoteUserId : ByteString) :
    Consents dialog.allowControlCheck (dialog.prepareSession session remoteUserId) :=
  (consents_setRemoteControlAuthorized dialog.allowControlCheck _).of_same rfl rfl

/-- A channel that is announced gets the consent of its session. -/
theorem Consents.onDataChannel (consents : Consents allow session) (label : ByteString) :
    Consents allow (session.onDataChannel label) := by
  rw [PeerSession.onDataChannel]
  split
  · exact consents
  · refine ⟨consents.inSession, fun channel present => ?_⟩
    cases present
    exact consents.inSession

/-- A message leaves the consent of the channel alone. -/
theorem Consents.onMessage (consents : Consents allow session) (moment : Moment)
    (buffer : ByteString) (binary : Bool) :
    Consents allow (session.onMessage moment buffer binary).1 := by
  rw [PeerSession.onMessage]
  cases present : session.controlChannel with
  | none => exact consents
  | some channel =>
    refine ⟨consents.inSession, fun after reacted => ?_⟩
    cases reacted
    rw [RemoteControlChannel.onMessage_authorized]
    exact consents.inChannel channel present

theorem Consents.markRemoteDescriptionSet (consents : Consents allow session) :
    Consents allow session.markRemoteDescriptionSet.1 := by
  rw [PeerSession.markRemoteDescriptionSet]
  split
  · exact consents
  · exact consents.of_same rfl rfl

theorem Consents.handle (consents : Consents allow session) (event : SessionEvent) :
    Consents allow (session.handle event).1 := by
  cases event with
  | localDescriptionCreated sdp type => exact consents.of_same rfl rfl
  | localDescriptionSet =>
    rw [PeerSession.handle, PeerSession.announceLocalDescription]
    split
    · exact consents
    · exact consents.of_same rfl rfl
  | remoteOfferSet => exact consents.markRemoteDescriptionSet
  | remoteAnswerSet => exact consents.markRemoteDescriptionSet
  | negotiationFailed =>
    rw [PeerSession.handle, PeerSession.failNegotiation]
    split
    · exact consents
    · exact consents.updateState _
  | iceCandidate candidate =>
    rw [PeerSession.handle, PeerSession.onIceCandidate]
    split
    · exact consents
    · split
      · exact consents.of_same rfl rfl
      · exact consents
  | peerConnectionState state =>
    cases state with
    | new => exact consents
    | _ => exact consents.updateState _
  | track kind =>
    rw [PeerSession.handle, PeerSession.onTrack]
    split
    · exact consents
    · exact consents.of_same rfl rfl
  | dataChannel label => exact consents.onDataChannel label
  | channelState opened => exact consents
  | message moment buffer binary => exact consents.onMessage moment buffer binary
  | frameStatus success width height => exact consents

end

/-! ### Outputs that inject nothing -/

/-- No output is a call into the injector. -/
def Quiet (outputs : List (Output SdpCallback)) : Prop := outputs.filterMap Output.injection = []

theorem quiet_iff {outputs : List (Output SdpCallback)} :
    Quiet outputs ↔ ∀ output ∈ outputs, output.injection = none := List.filterMap_eq_nil_iff

theorem quiet_nil : Quiet [] := rfl

theorem Quiet.append {first second : List (Output SdpCallback)} (left : Quiet first)
    (right : Quiet second) : Quiet (first ++ second) := by
  rw [Quiet, List.filterMap_append, left, right]
  rfl

theorem quiet_request (present : Bool) (request : Request) : Quiet [.request present request] := rfl

section

variable (session : PeerSession SdpCallback)

theorem quiet_updateState (state : PeerSessionState) : Quiet (session.updateState state).2 := by
  rw [PeerSession.updateState]
  split
  · rfl
  · simp only
    split <;> rfl

theorem quiet_close : Quiet session.close.2 := by
  rw [PeerSession.close]
  split
  · rfl
  · simp only
    split
    · rfl
    · exact quiet_updateState _ _

theorem quiet_createOffer (callback : SdpCallback) : Quiet (session.createOffer callback).2 := by
  rw [PeerSession.createOffer]
  split
  · rfl
  · exact (quiet_updateState _ _).append (quiet_request _ _)

theorem quiet_applyRemoteOffer (sdp : ByteString) (callback : SdpCallback) :
    Quiet (session.applyRemoteOffer sdp callback).2 := by
  rw [PeerSession.applyRemoteOffer]
  split
  · rfl
  · exact (quiet_updateState _ _).append (quiet_request _ _)

theorem quiet_applyRemoteAnswer (sdp : ByteString) : Quiet (session.applyRemoteAnswer sdp) := by
  rw [PeerSession.applyRemoteAnswer]
  split <;> rfl

theorem quiet_addRemoteCandidate (item : IceCandidate) :
    Quiet (session.addRemoteCandidate item).2 := by
  rw [PeerSession.addRemoteCandidate]
  split
  · rfl
  · split <;> rfl

/-- Of what libwebrtc calls, only a message injects anything. -/
theorem quiet_handle {event : SessionEvent}
    (noMessage : ∀ moment buffer binary, event ≠ .message moment buffer binary) :
    Quiet (session.handle event).2 := by
  refine quiet_iff.mpr fun output emitted => ?_
  cases session.emits_of_mem emitted with
  | inject moment buffer binary call => exact absurd rfl (noMessage moment buffer binary)
  | _ => rfl

end

/-! ### Handlers that neither inject nor change the consent -/

namespace Dialog

/-- The consent of the user and the input that was injected. -/
def guarded (dialog : Dialog) : Bool × List InjectorCall :=
  (dialog.allowControlCheck, dialog.injections)

section

variable (dialog : Dialog)

theorem guarded_emit {outputs : List (Output SdpCallback)} (quiet : Quiet outputs) :
    (dialog.emit outputs).guarded = dialog.guarded := by
  rw [guarded, emit, quiet, List.append_nil]
  rfl

theorem guarded_putSession (remoteUserId : ByteString)
    {result : PeerSession SdpCallback × List (Output SdpCallback)} (quiet : Quiet result.2) :
    (dialog.putSession remoteUserId result).guarded = dialog.guarded :=
  guarded_emit { dialog with sessions := dialog.sessions.insert remoteUserId result.1 } quiet

theorem guarded_removeSession (remoteUserId : ByteString) :
    (dialog.removeSession remoteUserId).guarded = dialog.guarded := by
  cases present : dialog.sessions.lookup remoteUserId with
  | none => rw [removeSession_of_absent present]
  | some session =>
    rw [removeSession_of_present present]
    exact guarded_emit _ (quiet_close session)

theorem guarded_activate (remoteUserId : ByteString) :
    (dialog.activate remoteUserId).guarded = dialog.guarded := by
  rw [activate]
  split <;> rfl

theorem guarded_stopIdleCapture : dialog.stopIdleCapture.guarded = dialog.guarded := by
  rw [stopIdleCapture]
  split <;> rfl

theorem guarded_createSession (created : Bool) (remoteUserId : ByteString)
    (options : MediaOptions) :
    (dialog.createSession created remoteUserId options).1.guarded = dialog.guarded := by
  rw [createSession]
  split
  · rfl
  · cases created with
    | false => exact guarded_emit _ (quiet_updateState _ _)
    | true => exact guarded_putSession _ _ quiet_nil

theorem guarded_negotiate (outcomes : Outcomes) (options : MediaOptions)
    (remoteUserId : ByteString) (session : PeerSession SdpCallback)
    {start : PeerSession SdpCallback → PeerSession SdpCallback × List (Output SdpCallback)}
    (quiet : ∀ session, Quiet (start session).2) :
    (dialog.negotiate outcomes options remoteUserId session start).guarded = dialog.guarded := by
  obtain ⟨desktopCapture, microphone, same⟩ :=
    dialog.configureLocalMedia_spec outcomes session options
  rw [negotiate]
  simp only [same]
  split
  · exact guarded_removeSession _ _
  · exact guarded_putSession _ _ (quiet _)

theorem guarded_startSelectedSession (outcomes : Outcomes) (selected : Option ByteString) :
    (dialog.startSelectedSession outcomes selected).guarded = dialog.guarded := by
  cases selected with
  | none => rfl
  | some remoteUserId =>
    have made := guarded_createSession (dialog.activate remoteUserId) outcomes.peerConnection
      remoteUserId (dialog.activate remoteUserId).mediaOptions
    rw [guarded_activate] at made
    rw [Dialog.startSelectedSession]
    simp only
    split
    · rename_i failed
      rwa [failed] at made
    · rename_i created session succeeded
      rw [succeeded] at made
      split
      · rw [guarded_removeSession, guarded_putSession _ _ quiet_nil, made]
      · rw [guarded_negotiate _ _ _ _ _ fun session => quiet_createOffer session _,
          guarded_putSession _ _ quiet_nil, made]

theorem guarded_onOffer (outcomes : Outcomes) (remoteUserId sdp : ByteString) :
    (dialog.onOffer outcomes remoteUserId sdp).guarded = dialog.guarded := by
  have found : (dialog.sessionForOffer outcomes remoteUserId).1.guarded = dialog.guarded := by
    rw [sessionForOffer]
    split
    · rfl
    · exact dialog.guarded_createSession _ _ _
  rw [Dialog.onOffer]
  split
  · rename_i failed
    rwa [failed] at found
  · rename_i succeeded
    rw [succeeded] at found
    rw [guarded_negotiate _ _ _ _ _ fun session => quiet_applyRemoteOffer session _ _, found]

theorem guarded_onHangup (remoteUserId : ByteString) :
    (dialog.onHangup remoteUserId).guarded = dialog.guarded := by
  rw [onHangup, guarded_stopIdleCapture]
  exact dialog.guarded_removeSession remoteUserId

theorem guarded_dispatchSignalingMessage (outcomes : Outcomes) (json : ByteString) :
    (dialog.dispatchSignalingMessage outcomes json).guarded = dialog.guarded := by
  rw [dispatchSignalingMessage]
  simp only
  split
  · rfl
  split
  · rfl
  split
  · rfl
  generalize SignalingProtocol.stringField json (bytes "fromUserId") = remoteUserId
  have active := dialog.guarded_activate remoteUserId
  split
  · rw [guarded_onOffer, active]
  split
  · split
    · exact active
    · rw [guarded_emit _ (quiet_applyRemoteAnswer _ _), active]
  split
  · split
    · exact active
    · rw [guarded_putSession _ _ (quiet_addRemoteCandidate _ _), active]
  split
  · rw [guarded_onHangup, active]
  · exact active

theorem guarded_collectSession (message : SessionStateMessage) :
    (dialog.collectSession message).guarded = dialog.guarded := by
  rw [collectSession]
  split
  · rfl
  split
  · have removed := dialog.guarded_removeSession message.remoteUserId
    rw [guarded_stopIdleCapture]
    split <;> exact removed
  · rfl

theorem guarded_onSessionState (now : UInt64) (message : SessionStateMessage) :
    (dialog.onSessionState now message).guarded = dialog.guarded := by
  have noted : (dialog.noteSessionState now message).guarded = dialog.guarded := by
    obtain ⟨keyboardControlActive, mediaStats, same⟩ := dialog.noteSessionState_spec now message
    rw [same]
    rfl
  rw [onSessionState]
  split
  · rfl
  simp only
  split
  · rw [guarded_collectSession, noted]
  · exact noted

theorem guarded_onBnClickedHangup : dialog.onBnClickedHangup.guarded = dialog.guarded := by
  rw [onBnClickedHangup]
  simp only
  split
  · rfl
  split
  · rfl
  · rw [guarded_stopIdleCapture]
    exact guarded_removeSession _ _

theorem guarded_fullscreenChanged (target : Window) :
    (dialog.fullscreenChanged target).guarded = dialog.guarded := by
  rw [fullscreenChanged]
  split
  · rfl
  split
  · rfl
  · exact guarded_putSession _ _ quiet_nil

theorem guarded_toggleFullscreen (created : Option Nat) :
    (dialog.toggleFullscreen created).guarded = dialog.guarded := by
  unfold toggleFullscreen
  split
  · exact dialog.guarded_fullscreenChanged .main
  split
  · rfl
  · exact guarded_fullscreenChanged _ _

/-- Only the check box changes the consent, and only a received message injects anything. -/
theorem guarded_next {action : Action} (noConsent : ∀ checked, action ≠ .allowControl checked)
    (noMessage : ∀ remoteUserId moment buffer binary,
      action ≠ .sessionEvent remoteUserId (.message moment buffer binary)) :
    (dialog.next action).guarded = dialog.guarded := by
  cases action with
  | allowControl checked => exact absurd rfl (noConsent checked)
  | startSelectedSession outcomes selected => exact dialog.guarded_startSelectedSession _ _
  | signalingMessage outcomes json => exact dialog.guarded_dispatchSignalingMessage _ _
  | sessionState now position =>
    rw [Dialog.next]
    split
    · rfl
    · exact guarded_onSessionState _ _ _
  | hangup => exact dialog.guarded_onBnClickedHangup
  | record started =>
    rw [Dialog.next, onBnClickedRecord]
    split
    · rfl
    · split <;> rfl
  | keyboardControl isOpen =>
    rw [Dialog.next, onBnClickedKeyboardControl]
    repeat' split
    all_goals rfl
  | toggleFullscreen created => exact dialog.guarded_toggleFullscreen created
  | mediaStats remoteUserId sample =>
    rw [Dialog.next, onMediaStats]
    split <;> rfl
  | sessionEvent remoteUserId event =>
    rw [Dialog.next, onSessionEvent]
    split
    · rfl
    · refine guarded_putSession _ _ (quiet_handle _ fun moment buffer binary same => ?_)
      exact noMessage remoteUserId moment buffer binary (congrArg _ same)
  | mediaChecks sendVideo receiveVideo sendAudio receiveAudio => rfl
  | recorderEnded => rfl

/-- Only the check box changes the consent. -/
theorem allowControlCheck_next {action : Action}
    (noConsent : ∀ checked, action ≠ .allowControl checked) :
    (dialog.next action).allowControlCheck = dialog.allowControlCheck := by
  by_cases message : ∃ remoteUserId moment buffer binary,
      action = .sessionEvent remoteUserId (.message moment buffer binary)
  · obtain ⟨remoteUserId, moment, buffer, binary, rfl⟩ := message
    rw [Dialog.next, onSessionEvent]
    split <;> rfl
  · simp only [not_exists] at message
    exact congrArg Prod.fst (dialog.guarded_next noConsent message)

end

/-! ### The consent in every state -/

/-- The treatments of a session give it the consent of the check box, or keep it. -/
theorem kept_consents (allow : Bool) : Kept allow (Consents allow) where
  handled session event consents := consents.handle event
  candidate session item consents := by
    rw [PeerSession.addRemoteCandidate]
    split
    · exact consents
    · split
      · exact consents.of_same rfl rfl
      · exact consents
  retargeted session target consents := consents.of_same rfl rfl
  offered dialog session remoteUserId same :=
    same ▸ (consents_prepareSession dialog session remoteUserId).createOffer _
  answered dialog session remoteUserId sdp same :=
    same ▸ (consents_prepareSession dialog session remoteUserId).applyRemoteOffer sdp _

/-- The copies of the consent agree. -/
def Consistent (dialog : Dialog) : Prop := dialog.Each (Consents dialog.allowControlCheck)

theorem Consistent.onBnClickedAllowControl (dialog : Dialog) (checked : Bool) :
    (dialog.onBnClickedAllowControl checked).Consistent := by
  intro remoteUserId session present
  have lookup := Table.lookup_mapValues
    (fun _ session => PeerSession.setRemoteControlAuthorized session checked) dialog.sessions
    remoteUserId
  rw [Dialog.onBnClickedAllowControl, Dialog.setRemoteControlAuthorized] at present
  rw [lookup] at present
  obtain ⟨earlier, -, rfl⟩ := Option.map_eq_some_iff.mp present
  exact consents_setRemoteControlAuthorized checked earlier

theorem Consistent.next {dialog : Dialog} (consistent : dialog.Consistent) (action : Action) :
    (dialog.next action).Consistent := by
  by_cases consent : ∃ checked, action = .allowControl checked
  · obtain ⟨checked, rfl⟩ := consent
    exact Consistent.onBnClickedAllowControl dialog checked
  · rw [not_exists] at consent
    rw [Consistent, dialog.allowControlCheck_next consent]
    exact Each.next (kept_consents _) consistent consent

theorem consistent_of_reachable {dialog : Dialog} (reachable : system.Reachable dialog) :
    dialog.Consistent := by
  refine reachable.invariant ?_ fun dialog action _ consistent _ => consistent.next action
  rintro dialog rfl remoteUserId session present
  cases present

/-- What a message on the session of a user injects. -/
theorem injections_onMessage {dialog : Dialog} {remoteUserId : ByteString}
    {session : PeerSession SdpCallback} {channel : RemoteControlChannel}
    (present : dialog.sessions.lookup remoteUserId = some session)
    (controlled : session.controlChannel = some channel) (moment : Moment) (buffer : ByteString)
    (binary : Bool) :
    (dialog.next (.sessionEvent remoteUserId (.message moment buffer binary))).injections =
      dialog.injections ++ (channel.onMessage moment buffer binary).injected := by
  have packets (sent : List ControlPacket) : Quiet (sent.map .packet) := by
    rw [quiet_iff]
    intro output member
    obtain ⟨packet, -, rfl⟩ := List.mem_map.mp member
    rfl
  have reports (reported : List ControlEvent) :
      Quiet (reported.flatMap session.notifyControlEvent) := by
    rw [quiet_iff]
    intro output member
    obtain ⟨event, -, reports⟩ := List.mem_flatMap.mp member
    rw [(session.mem_notifyControlEvent reports).2]
    rfl
  rw [Dialog.next, onSessionEvent, present]
  simp only
  rw [PeerSession.handle, PeerSession.onMessage, controlled]
  show dialog.injections ++ List.filterMap Output.injection _ = _
  rw [List.filterMap_append, List.filterMap_append, packets, reports, List.filterMap_map]
  simp only [List.append_nil]
  congr 1
  exact List.filterMap_some

end Dialog

/-- In every reachable state every copy of the consent is the check box; a message intrudes only
with it and as a whole packet; and nothing else that can happen injects any input. -/
theorem control_needs_consent {dialog : Dialog} (reachable : system.Reachable dialog) :
    (∀ remoteUserId session, dialog.sessions.lookup remoteUserId = some session →
      session.remoteControlAuthorized = dialog.allowControlCheck ∧
      ∀ channel, session.controlChannel = some channel →
        channel.authorized = dialog.allowControlCheck ∧
        ∀ moment buffer binary,
          channel.Intrudes (channel.onMessage moment buffer binary) →
            dialog.allowControlCheck = true ∧
              RemoteControlChannel.IsPacket binary buffer) ∧
    ∀ action, (dialog.next action).injections ≠ dialog.injections →
      dialog.allowControlCheck = true ∧
        ∃ remoteUserId moment buffer binary,
          action = .sessionEvent remoteUserId (.message moment buffer binary) ∧
            RemoteControlChannel.IsPacket binary buffer := by
  have consistent := Dialog.consistent_of_reachable reachable
  have guards {remoteUserId : ByteString} {session : PeerSession SdpCallback}
      {channel : RemoteControlChannel} {moment : Moment} {buffer : ByteString} {binary : Bool}
      (present : dialog.sessions.lookup remoteUserId = some session)
      (controlled : session.controlChannel = some channel)
      (intrudes : channel.Intrudes (channel.onMessage moment buffer binary)) :
      dialog.allowControlCheck = true ∧ RemoteControlChannel.IsPacket binary buffer := by
    obtain ⟨authorized, packet⟩ := RemoteControlChannel.onMessage_intrudes intrudes
    have copy := (consistent remoteUserId session present).inChannel channel controlled
    exact ⟨copy.symm.trans authorized, packet⟩
  refine ⟨fun remoteUserId session present =>
    ⟨(consistent remoteUserId session present).inSession, fun channel controlled =>
      ⟨(consistent remoteUserId session present).inChannel channel controlled,
        fun moment buffer binary intrudes => guards present controlled intrudes⟩⟩,
    fun action injects => ?_⟩
  by_cases message : ∃ remoteUserId moment buffer binary,
      action = .sessionEvent remoteUserId (.message moment buffer binary)
  · obtain ⟨remoteUserId, moment, buffer, binary, rfl⟩ := message
    cases present : dialog.sessions.lookup remoteUserId with
    | none =>
      rw [Dialog.next, Dialog.onSessionEvent, present] at injects
      exact absurd rfl injects
    | some session =>
      cases controlled : session.controlChannel with
      | none =>
        rw [Dialog.next, Dialog.onSessionEvent, present] at injects
        simp only at injects
        rw [PeerSession.handle, PeerSession.onMessage, controlled] at injects
        exact absurd (congrArg Prod.snd (Dialog.guarded_putSession dialog remoteUserId quiet_nil))
          injects
      | some channel =>
        rw [Dialog.injections_onMessage present controlled] at injects
        have injected : (channel.onMessage moment buffer binary).injected ≠ [] := fun none =>
          injects (by rw [none, List.append_nil])
        obtain ⟨allowed, packet⟩ := guards present controlled (Or.inl injected)
        exact ⟨allowed, remoteUserId, moment, buffer, binary, rfl, packet⟩
  · simp only [not_exists] at message
    by_cases consent : ∃ checked, action = .allowControl checked
    · obtain ⟨checked, rfl⟩ := consent
      exact absurd rfl injects
    · exact absurd (congrArg Prod.snd
        (dialog.guarded_next (not_exists.mp consent) message)) injects

/-- The user allows control, bob calls and announces his control channel. -/
def controlledCall : List Action :=
  [.allowControl true,
    .signalingMessage
      { peerConnection := true, dataChannel := true, screen := true, videoTrack := true,
        microphone := true, audioTrack := true }
      (bytes "\x7b\"type\":\"offer\",\"sdp\":\"v=0\",\"fromUserId\":\"bob\"\x7d"),
    .sessionEvent (bytes "bob") (.dataChannel (bytes "remote-control"))]

/-- Bob moves the pointer. -/
def pointerMessage : Action :=
  .sessionEvent (bytes "bob")
    (.message { isOpen := true, tickCount := 0, sendInput := true }
      (ControlPacket.toBytes { type := 1, arg1 := 3, arg2 := 4 }) true)

theorem control_needs_consent_controlledCall :
    (system.run {} controlledCall).allowControlCheck = true ∧
      ((system.run {} controlledCall).next pointerMessage).injections = [.mouseMove 3 4] := by
  have reachable : system.Reachable (system.run {} controlledCall) :=
    (Transition.System.Reachable.start rfl).run ⟨trivial, trivial, trivial, trivial⟩
  have moved : ((system.run {} controlledCall).next pointerMessage).injections =
      [.mouseMove 3 4] := by decide
  have before : (system.run {} controlledCall).injections = [] := by decide
  have injects : ((system.run {} controlledCall).next pointerMessage).injections ≠
      (system.run {} controlledCall).injections := by
    rw [moved, before]
    exact List.cons_ne_nil _ _
  exact ⟨((control_needs_consent reachable).2 pointerMessage injects).1, moved⟩

end RemoteControl.Peer

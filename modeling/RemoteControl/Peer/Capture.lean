/-
This file asks when the screen and the microphone are captured for nobody. Each
handler that ends a call stops them once no session is left. The set-up of the
local media starts them one after the other and removes the session when one of
them fails; that path alone stops nothing, so capture goes on exactly after a
set-up that fails half-way and leaves no session behind.
-/

import RemoteControl.Peer.Effects

namespace RemoteControl.Peer

namespace Dialog

/-! ### Nothing is captured without a session -/

/-- Without a session both capture managers are stopped. -/
def Idle (dialog : Dialog) : Prop :=
  Table.size dialog.sessions = 0 → dialog.desktopCapture = false ∧ dialog.microphone = false

theorem idle_stopIdleCapture (dialog : Dialog) : dialog.stopIdleCapture.Idle := by
  intro empty
  rw [stopIdleCapture_sessions] at empty
  rw [stopIdleCapture, if_pos empty]
  exact ⟨rfl, rfl⟩

/-- A dialog with a session is idle for want of an obligation. -/
theorem idle_of_present {dialog : Dialog} (remoteUserId : ByteString)
    (present : dialog.sessions.lookup remoteUserId ≠ none) : dialog.Idle := fun empty =>
  absurd (Table.size_eq_zero_iff.mp empty remoteUserId) present

theorem idle_putSession (dialog : Dialog) (remoteUserId : ByteString)
    (result : PeerSession SdpCallback × List (Output SdpCallback)) :
    (dialog.putSession remoteUserId result).Idle := by
  refine idle_of_present remoteUserId ?_
  rw [putSession_sessions, AList.lookup_insert]
  exact Option.some_ne_none _

theorem Idle.of_same {dialog after : Dialog} (idle : dialog.Idle)
    (size : Table.size after.sessions = Table.size dialog.sessions)
    (capture : after.desktopCapture = dialog.desktopCapture)
    (microphone : after.microphone = dialog.microphone) : after.Idle := by
  rw [Idle, size, capture, microphone]
  exact idle

theorem removeSession_captures {dialog : Dialog} {remoteUserId : ByteString} :
    (dialog.removeSession remoteUserId).desktopCapture = dialog.desktopCapture ∧
      (dialog.removeSession remoteUserId).microphone = dialog.microphone := by
  rw [removeSession]
  split <;> exact ⟨rfl, rfl⟩

/-! ### What a set-up starts -/

section

variable (dialog : Dialog) (outcomes : Outcomes)

/-- The video half of the set-up succeeds, or is not wanted. -/
def videoReady : Bool :=
  !dialog.sendVideoCheck || (dialog.desktopCapture || outcomes.screen) && outcomes.videoTrack

/-- The audio half of the set-up succeeds, or is not wanted. -/
def audioReady : Bool :=
  !dialog.sendAudioCheck || (dialog.microphone || outcomes.microphone) && outcomes.audioTrack

/-- The screen is captured after the set-up. -/
def screenCaptured : Bool := dialog.desktopCapture || dialog.sendVideoCheck && outcomes.screen

/-- The microphone is captured after the set-up, which only tries it once the video is ready. -/
def microphoneCaptured : Bool :=
  dialog.microphone ||
    dialog.videoReady outcomes && (dialog.sendAudioCheck && outcomes.microphone)

/-- What `ConfigureLocalMedia` does for a session that has its peer connection. -/
theorem configureLocalMedia_captures {session : PeerSession SdpCallback}
    (connected : session.peerConnection = true) :
    let configured := dialog.configureLocalMedia outcomes session dialog.mediaOptions
    configured.1.desktopCapture = dialog.screenCaptured outcomes ∧
      configured.1.microphone = dialog.microphoneCaptured outcomes ∧
      configured.2 = (dialog.videoReady outcomes && dialog.audioReady outcomes) := by
  unfold configureLocalMedia configureVideo configureAudio microphoneCaptured screenCaptured
    videoReady audioReady mediaOptions PeerSession.addLocalTrack
  rw [connected]
  cases sendVideo : dialog.sendVideoCheck <;> cases sendAudio : dialog.sendAudioCheck <;>
    cases ready : (dialog.desktopCapture || outcomes.screen) && outcomes.videoTrack <;>
    simp [ready]

/-- The set-up fails while something is captured, and no session with another user is left. -/
def Abandons (remoteUserId : ByteString) : Prop :=
  (dialog.videoReady outcomes && dialog.audioReady outcomes) = false ∧
    (dialog.screenCaptured outcomes || dialog.microphoneCaptured outcomes) = true ∧
    ∀ other, other ≠ remoteUserId → dialog.sessions.lookup other = none

end

/-- No call is set up in a way that leaves its capture behind. -/
def StopsCapture (dialog : Dialog) : Action → Prop
  | .startSelectedSession outcomes (some remoteUserId) =>
    dialog.CanStart outcomes remoteUserId → ¬ dialog.Abandons outcomes remoteUserId
  | .signalingMessage outcomes json =>
    let remoteUserId := SignalingProtocol.stringField json (bytes "fromUserId")
    SignalingProtocol.stringField json (bytes "type") = bytes "offer" → remoteUserId ≠ [] →
      (dialog.sessions.lookup remoteUserId = none → outcomes.peerConnection = true) →
      ¬ dialog.Abandons outcomes remoteUserId
  | _ => True

/-! ### Handlers that set up a call -/

theorem activate_spec (dialog : Dialog) (remoteUserId : ByteString) :
    ∃ keyboardControlActive mediaStats, dialog.activate remoteUserId =
      { dialog with
        activeRemoteUserId := remoteUserId, keyboardControlActive, mediaStats } := by
  rw [activate]
  split <;> exact ⟨_, _, rfl⟩

/-- Whom the user looks at has no part in what a set-up leaves behind. -/
theorem abandons_activate (dialog : Dialog) (outcomes : Outcomes) (remoteUserId : ByteString) :
    (dialog.activate remoteUserId).Abandons outcomes remoteUserId ↔
      dialog.Abandons outcomes remoteUserId := by
  obtain ⟨keyboardControlActive, mediaStats, same⟩ := dialog.activate_spec remoteUserId
  rw [same]
  rfl

/-- A set-up that failed leaves an idle dialog unless it abandons its capture. -/
theorem idle_failed {dialog after : Dialog} {outcomes : Outcomes} {remoteUserId : ByteString}
    (failed : (dialog.videoReady outcomes && dialog.audioReady outcomes) = false)
    (screen : after.desktopCapture = dialog.screenCaptured outcomes)
    (microphone : after.microphone = dialog.microphoneCaptured outcomes)
    (removed : ∀ other, after.sessions.lookup other =
      if other = remoteUserId then none else dialog.sessions.lookup other) :
    after.Idle ↔ ¬ dialog.Abandons outcomes remoteUserId := by
  have alone : Table.size after.sessions = 0 ↔
      ∀ other, other ≠ remoteUserId → dialog.sessions.lookup other = none := by
    rw [Table.size_eq_zero_iff]
    refine forall_congr' fun other => ?_
    rw [removed]
    split
    · rename_i same
      exact iff_of_true rfl fun different => absurd same different
    · rename_i different
      exact ⟨fun absent _ => absent, fun absent => absent different⟩
  rw [Idle, alone, screen, microphone, ← Bool.or_eq_false_iff, ← Bool.not_eq_true, Abandons]
  exact ⟨fun idle abandons => idle abandons.2.2 abandons.2.1,
    fun stops others captured => stops ⟨failed, captured, others⟩⟩

theorem idle_startSelectedSession {dialog : Dialog} (idle : dialog.Idle) (outcomes : Outcomes)
    (remoteUserId : ByteString) :
    (dialog.startSelectedSession outcomes (some remoteUserId)).Idle ↔
      (dialog.CanStart outcomes remoteUserId → ¬ dialog.Abandons outcomes remoteUserId) := by
  obtain ⟨screen, microphone, ready⟩ :=
    (dialog.activate remoteUserId).configureLocalMedia_captures outcomes
      (callingSession_spec remoteUserId (dialog.activate remoteUserId).mediaOptions).2.2
  rcases dialog.startSelectedSession_cases outcomes remoteUserId with
    ⟨impossible, result⟩ | ⟨possible, failed, result⟩ | ⟨-, configured, result⟩
  · refine iff_of_true ?_ fun possible => absurd possible impossible
    obtain ⟨keyboardControlActive, mediaStats, same⟩ := dialog.activate_spec remoteUserId
    rw [result, same]
    exact idle
  · rw [result, imp_iff_right possible, ← abandons_activate]
    refine idle_failed (ready ▸ failed) screen microphone fun other => ?_
    rw [configureLocalMedia_sessions]
    split
    · rename_i same
      rw [activate_sessions, same]
      exact possible.2.1
    · rfl
  · rw [result, ← abandons_activate]
    refine iff_of_true (idle_putSession _ _ _) fun _ abandons => ?_
    rw [Abandons, ← ready, configured] at abandons
    cases abandons.1

theorem idle_onOffer {dialog : Dialog} (idle : dialog.Idle) (allBound : dialog.AllBound)
    (outcomes : Outcomes) {remoteUserId : ByteString} (named : remoteUserId ≠ [])
    (sdp : ByteString) :
    (dialog.onOffer outcomes remoteUserId sdp).Idle ↔
      ((dialog.sessions.lookup remoteUserId = none → outcomes.peerConnection = true) →
        ¬ dialog.Abandons outcomes remoteUserId) := by
  rcases dialog.onOffer_cases outcomes named sdp with
    ⟨absent, refused, result⟩ | ⟨session, answers, ended⟩
  · rw [result]
    refine iff_of_true idle fun made => ?_
    rw [refused] at made
    cases made absent
  · have connected : session.peerConnection = true := by
      rcases answers with present | ⟨-, -, rfl⟩
      · exact congrArg (fun binding => binding.2.2.2.2) (allBound _ _ present).2
      · rfl
    have made : dialog.sessions.lookup remoteUserId = none → outcomes.peerConnection = true := by
      intro absent
      rcases answers with present | ⟨-, made, -⟩
      · cases absent.symm.trans present
      · exact made
    obtain ⟨screen, microphone, ready⟩ := dialog.configureLocalMedia_captures outcomes connected
    rw [imp_iff_right made]
    rcases ended with ⟨failed, result⟩ | ⟨configured, result⟩
    · rw [result]
      refine idle_failed (ready ▸ failed) ?_ ?_ fun other => ?_
      · rw [removeSession_captures.1, screen]
      · rw [removeSession_captures.2, microphone]
      · rw [lookup_removeSession, configureLocalMedia_sessions]
    · rw [result]
      refine iff_of_true (idle_putSession _ _ _) fun abandons => ?_
      rw [Abandons, ← ready, configured] at abandons
      cases abandons.1

/-! ### Every handler -/

theorem idle_dispatchSignalingMessage {dialog : Dialog} (idle : dialog.Idle)
    (allBound : dialog.AllBound) (outcomes : Outcomes) (json : ByteString) :
    (dialog.dispatchSignalingMessage outcomes json).Idle ↔
      dialog.StopsCapture (.signalingMessage outcomes json) := by
  rw [dispatchSignalingMessage, StopsCapture]
  simp only
  generalize SignalingProtocol.stringField json (bytes "type") = type
  generalize SignalingProtocol.stringField json (bytes "fromUserId") = remoteUserId
  have silent (quiet : type ≠ bytes "offer") {after : Dialog} (rest : after.Idle) :
      after.Idle ↔ (type = bytes "offer" → remoteUserId ≠ [] →
        (dialog.sessions.lookup remoteUserId = none → outcomes.peerConnection = true) →
        ¬ dialog.Abandons outcomes remoteUserId) :=
    iff_of_true rest fun offer => absurd offer quiet
  have active : (dialog.activate remoteUserId).Idle := by
    obtain ⟨keyboardControlActive, mediaStats, same⟩ := dialog.activate_spec remoteUserId
    rw [same]
    exact idle
  split
  · rename_i snapshot
    exact silent (by rw [snapshot]; decide) idle
  split
  · rename_i changed
    exact silent (by rw [changed]; decide) idle
  split
  · rename_i unnamed
    exact iff_of_true idle fun _ named => absurd unnamed named
  rename_i named
  split
  · rename_i offer
    have bound : (dialog.activate remoteUserId).AllBound := by
      rwa [AllBound, activate_sessions]
    rw [idle_onOffer active bound outcomes named, activate_sessions, abandons_activate,
      imp_iff_right offer, imp_iff_right named]
  rename_i quiet
  refine silent quiet ?_
  split
  · split
    · exact active
    · exact active.of_same rfl rfl rfl
  split
  · split
    · exact active
    · exact idle_putSession _ _ _
  split
  · exact idle_stopIdleCapture _
  · exact active

theorem idle_onSessionState {dialog : Dialog} (idle : dialog.Idle) (now : UInt64)
    (message : SessionStateMessage) : (dialog.onSessionState now message).Idle := by
  have noted : (dialog.noteSessionState now message).Idle := by
    obtain ⟨keyboardControlActive, mediaStats, same⟩ := dialog.noteSessionState_spec now message
    rw [same]
    exact idle
  rw [onSessionState]
  split
  · exact idle
  simp only
  split
  · rw [collectSession]
    split
    · exact noted
    · split
      · exact idle_stopIdleCapture _
      · exact noted
  · exact noted

theorem idle_fullscreenChanged {dialog : Dialog} (idle : dialog.Idle) (target : Window) :
    (dialog.fullscreenChanged target).Idle := by
  rw [fullscreenChanged]
  split
  · exact idle
  split
  · exact idle
  · exact idle_putSession _ _ _

/-- A handler leaves an idle dialog exactly when it abandons no capture. -/
theorem idle_next {dialog : Dialog} (idle : dialog.Idle) (allBound : dialog.AllBound)
    (action : Action) : (dialog.next action).Idle ↔ dialog.StopsCapture action := by
  cases action with
  | startSelectedSession outcomes selected =>
    cases selected with
    | none => exact iff_of_true idle trivial
    | some remoteUserId => exact idle_startSelectedSession idle outcomes remoteUserId
  | signalingMessage outcomes json => exact idle_dispatchSignalingMessage idle allBound _ _
  | allowControl checked =>
    exact iff_of_true (idle.of_same (Table.size_mapValues _ _) rfl rfl) trivial
  | mediaChecks sendVideo receiveVideo sendAudio receiveAudio => exact iff_of_true idle trivial
  | sessionState now position =>
    refine iff_of_true ?_ trivial
    rw [Dialog.next]
    split
    · exact idle
    · refine idle_onSessionState ?_ now _
      exact idle
  | hangup =>
    refine iff_of_true ?_ trivial
    rw [Dialog.next, onBnClickedHangup]
    simp only
    split
    · exact idle
    split
    · exact idle
    · exact idle_stopIdleCapture _
  | record started =>
    refine iff_of_true ?_ trivial
    rw [Dialog.next, onBnClickedRecord]
    split
    · exact idle
    · split <;> exact idle
  | recorderEnded => exact iff_of_true idle trivial
  | keyboardControl isOpen =>
    refine iff_of_true ?_ trivial
    rw [Dialog.next, onBnClickedKeyboardControl]
    repeat' split
    all_goals exact idle
  | toggleFullscreen created =>
    refine iff_of_true ?_ trivial
    rw [Dialog.next, toggleFullscreen.eq_def]
    split
    · exact idle_fullscreenChanged idle .main
    split
    · exact idle
    · refine idle_fullscreenChanged ?_ _
      exact idle
  | mediaStats remoteUserId sample =>
    refine iff_of_true ?_ trivial
    rw [Dialog.next, onMediaStats]
    split <;> exact idle
  | sessionEvent remoteUserId event =>
    refine iff_of_true ?_ trivial
    rw [Dialog.next, onSessionEvent]
    split
    · exact idle
    · exact idle_putSession _ _ _

end Dialog

/-- In every run whose set-ups abandon no capture, nothing is captured while there is no session.
The first set-up that does breaks this. -/
theorem no_capture_without_session {dialog : Dialog}
    (reachable : (system.restrict Dialog.StopsCapture).Reachable dialog) :
    dialog.Idle ∧ ∀ action, (dialog.next action).Idle ↔ dialog.StopsCapture action := by
  have idle : dialog.Idle := by
    refine reachable.invariant ?_ fun dialog action reachable idle allowed => ?_
    · rintro dialog rfl -
      exact ⟨rfl, rfl⟩
    · have allBound := Dialog.allBound_of_reachable reachable.of_restrict
      exact (Dialog.idle_next idle allBound action).mpr allowed.2
  exact ⟨idle, Dialog.idle_next idle (Dialog.allBound_of_reachable reachable.of_restrict)⟩

/-- The user calls bob with his screen, and hangs up. -/
def hungUpCall : List Action := [.startSelectedSession .success (some (bytes "bob")), .hangup]

theorem no_capture_without_session_hungUpCall :
    (system.run {} hungUpCall).desktopCapture = false ∧
      (system.run {} hungUpCall).microphone = false := by
  have configured : ((({} : Dialog).videoReady .success && ({} : Dialog).audioReady .success)) =
      true := by decide
  have reachable : (system.restrict Dialog.StopsCapture).Reachable (system.run {} hungUpCall) := by
    refine Transition.System.Reachable.run_restrict (.start rfl)
      ⟨⟨trivial, fun _ abandons => ?_⟩, ⟨trivial, trivial⟩, trivial⟩
    rw [Dialog.Abandons, configured] at abandons
    cases abandons.1
  exact (no_capture_without_session reachable).1 (by decide)

/-- The user calls bob with his screen and his microphone, and there is no microphone. -/
def abandonedCapture : List Action :=
  [.mediaChecks true true true true,
    .startSelectedSession { Dialog.Outcomes.success with microphone := false }
      (some (bytes "bob"))]

/-- The screen is captured while there is no session. -/
theorem capture_abandoned : ¬ ∀ dialog, system.Reachable dialog → dialog.Idle := by
  intro idle
  have reachable : system.Reachable (system.run {} abandonedCapture) :=
    (Transition.System.Reachable.start rfl).run ⟨trivial, trivial, trivial⟩
  have empty : Table.size (system.run {} abandonedCapture).sessions = 0 := by decide
  have captured : (system.run {} abandonedCapture).desktopCapture = true := by decide
  cases captured.symm.trans (idle _ reachable empty).1

end RemoteControl.Peer

/-
This file models the program a user runs: `SessionManager`, the local capture
managers and the handlers of the dialog, each running to completion. Its actions
are the user's, the messages the window receives, and what libwebrtc calls on the
session of a user; the answers of libwebrtc and Windows are arguments.

`posted`, `sent` and `injections` collect what the handlers do: the session-state
messages that wait in the window's queue, the lines handed to
`SignalingClient::Send`, and the calls into the injector. Only the first is read
again. Texts of controls and the log are left out.
-/

import RemoteControl.Library.Table
import RemoteControl.Library.Transition
import RemoteControl.Peer.Session
import RemoteControl.Signaling.Protocol

namespace RemoteControl.Peer

/-! ### What libwebrtc calls on a session -/

/-- A callback of libwebrtc, with what it reports. -/
inductive SessionEvent where
  /-- `CreateOffer` or `CreateAnswer` succeeded. -/
  | localDescriptionCreated (sdp type : ByteString)
  | localDescriptionSet
  | remoteOfferSet
  | remoteAnswerSet
  | negotiationFailed
  | iceCandidate (candidate : IceCandidate)
  | peerConnectionState (state : RTCPeerConnectionState)
  | track (kind : ByteString)
  | dataChannel (label : ByteString)
  | channelState (opened : Bool)
  | message (moment : Moment) (buffer : ByteString) (binary : Bool)
  /-- The renderer converted its first frame, or failed to for the first time. -/
  | frameStatus (success : Bool) (width height : Nat)

/-- The session's handler of a callback. -/
def PeerSession.handle {Callback : Type} (session : PeerSession Callback) :
    SessionEvent → PeerSession Callback × List (Output Callback)
  | .localDescriptionCreated sdp type => session.localDescriptionCreated sdp type
  | .localDescriptionSet => session.announceLocalDescription
  | .remoteOfferSet => session.remoteOfferSet
  | .remoteAnswerSet => session.markRemoteDescriptionSet
  | .negotiationFailed => session.failNegotiation
  | .iceCandidate candidate => session.onIceCandidate candidate
  | .peerConnectionState state => session.onPeerConnectionState state
  | .track kind => session.onTrack kind
  | .dataChannel label => (session.onDataChannel label, [])
  | .channelState opened =>
    (session, session.notifyControlEvent (RemoteControlChannel.onStateChange opened))
  | .message moment buffer binary => session.onMessage moment buffer binary
  | .frameStatus success width height =>
    (session, session.notifyMediaEvent
      (if success then .remoteVideoFirstFrame else .remoteVideoFrameConversionFailed)
      width height)

/-! ### State -/

/-- The SDP callbacks of the dialog: each sends the description to the user it captured. -/
inductive SdpCallback where
  | offer (remoteUserId : ByteString)
  | answer (remoteUserId : ByteString)
  deriving DecidableEq

/-- The line the callback sends. -/
def SdpCallback.line (sdp : ByteString) : SdpCallback → ByteString
  | .offer remoteUserId => SignalingProtocol.offer remoteUserId sdp
  | .answer remoteUserId => SignalingProtocol.answer remoteUserId sdp

/-- `SessionStateMessage`. -/
structure SessionStateMessage where
  remoteUserId : ByteString
  state : PeerSessionState
  deriving DecidableEq

/-- The figures `OnMediaStats` keeps of a sample. The jitter buffer's delay is a floating-point
number, which is only stored here; it is given by its bits. -/
structure StatsSample where
  sampleTimeUs : Int64 := 0
  videoBytesReceived : UInt64 := 0
  audioBytesReceived : UInt64 := 0
  videoPacketsReceived : UInt64 := 0
  audioPacketsReceived : UInt64 := 0
  videoPacketsLost : Int64 := 0
  audioPacketsLost : Int64 := 0
  videoFramesDecoded : UInt64 := 0
  videoJitterBufferDelaySeconds : UInt64 := 0
  videoJitterBufferEmittedCount : UInt64 := 0
  deriving DecidableEq

/-- The media statistics of the dialog. -/
structure MediaStats where
  hasPrevious : Bool := false
  startAfterMs : UInt64 := 0
  previous : StatsSample := {}
  deriving DecidableEq

/-- `CRemoteControlrtcDlg`, with its session manager, capture managers, recorder and video view.
A capture manager is running exactly when it holds a track. -/
structure Dialog where
  sessions : Table ByteString (PeerSession SdpCallback) := ∅
  allowControlCheck : Bool := false
  sendVideoCheck : Bool := true
  receiveVideoCheck : Bool := true
  sendAudioCheck : Bool := false
  receiveAudioCheck : Bool := false
  activeRemoteUserId : ByteString := []
  keyboardControlActive : Bool := false
  mediaStats : MediaStats := {}
  desktopCapture : Bool := false
  microphone : Bool := false
  recording : Bool := false
  /-- The window of the fullscreen view, while there is one. -/
  fullscreenView : Option Nat := none
  /-- How often the remote video view was cleared. -/
  viewClears : Nat := 0
  posted : List SessionStateMessage := []
  sent : List ByteString := []
  injections : List InjectorCall := []

/-- The session-state message an output posts. -/
def Output.notification : Output SdpCallback → Option SessionStateMessage
  | .stateChanged remoteUserId state => some ⟨remoteUserId, state⟩
  | _ => none

/-- The signaling line an output sends. -/
def Output.signalingLine : Output SdpCallback → Option ByteString
  | .sdp callback description _ => some (callback.line description)
  | .iceCandidate remoteUserId item =>
    some (SignalingProtocol.candidate remoteUserId item.mid item.mlineIndex item.candidate)
  | _ => none

/-- The call into the injector an output is. -/
def Output.injection : Output SdpCallback → Option InjectorCall
  | .inject call => some call
  | _ => none

namespace Dialog

variable (dialog : Dialog)

/-- What the outputs of a session do to the dialog. -/
def emit (outputs : List (Output SdpCallback)) : Dialog :=
  { dialog with
    posted := dialog.posted ++ outputs.filterMap Output.notification
    sent := dialog.sent ++ outputs.filterMap Output.signalingLine
    injections := dialog.injections ++ outputs.filterMap Output.injection }

/-- Store a session after a method ran on it. -/
def putSession (remoteUserId : ByteString)
    (result : PeerSession SdpCallback × List (Output SdpCallback)) : Dialog :=
  { dialog with sessions := dialog.sessions.insert remoteUserId result.1 }.emit result.2

/-! ### SessionManager -/

/-- `SessionManager::CreateSession`, given whether a peer connection can be made. -/
def createSession (created : Bool) (remoteUserId : ByteString) (options : MediaOptions) :
    Dialog × Option (PeerSession SdpCallback) :=
  if remoteUserId = [] ∨ remoteUserId ∈ dialog.sessions then (dialog, none)
  else
    let (result, ready) := PeerSession.create { remoteUserId, options } created
    if ready then (dialog.putSession remoteUserId result, some result.1)
    else (dialog.emit result.2, none)

/-- `SessionManager::RemoveSession`. -/
def removeSession (remoteUserId : ByteString) : Dialog :=
  match dialog.sessions.lookup remoteUserId with
  | none => dialog
  | some session =>
    { dialog with sessions := dialog.sessions.erase remoteUserId }.emit session.close.2

/-- `SessionManager::SetRemoteControlAuthorized`. -/
def setRemoteControlAuthorized (authorized : Bool) : Dialog :=
  { dialog with
    sessions := Table.mapValues
      (fun _ session => session.setRemoteControlAuthorized authorized) dialog.sessions }

/-! ### Helpers of the dialog -/

/-- `SetKeyboardControlActive`. -/
def setKeyboardControlActive (active : Bool) : Dialog :=
  { dialog with keyboardControlActive := active }

/-- `ResetMediaStats`. -/
def resetMediaStats : Dialog := { dialog with mediaStats := {} }

/-- Make a user the active one; another user's control and statistics end. -/
def activate (remoteUserId : ByteString) : Dialog :=
  { if remoteUserId ≠ dialog.activeRemoteUserId then
      (dialog.setKeyboardControlActive false).resetMediaStats
    else dialog with
    activeRemoteUserId := remoteUserId }

/-- The options the check boxes select. -/
def mediaOptions : MediaOptions where
  sendVideo := dialog.sendVideoCheck
  receiveVideo := dialog.receiveVideoCheck
  sendAudio := dialog.sendAudioCheck
  receiveAudio := dialog.receiveAudioCheck
  enableRemoteControl := true

/-- Stop capturing when no session is left. -/
def stopIdleCapture : Dialog :=
  if Table.size dialog.sessions = 0 then
    { dialog with desktopCapture := false, microphone := false }
  else dialog

/-- `RemoteVideoRecorder::Stop`, if it is recording. -/
def stopRecording : Dialog := { dialog with recording := false }

/-- `VideoRenderWnd::Clear`. -/
def clearView : Dialog := { dialog with viewClears := dialog.viewClears + 1 }

/-- What libwebrtc and the capture devices answer while a session is set up. -/
structure Outcomes where
  peerConnection : Bool
  dataChannel : Bool
  screen : Bool
  videoTrack : Bool
  microphone : Bool
  audioTrack : Bool

/-- The video half of `ConfigureLocalMedia`. -/
def configureVideo (outcomes : Outcomes) (session : PeerSession SdpCallback) : Dialog × Bool :=
  let running := dialog.desktopCapture || outcomes.screen
  ({ dialog with desktopCapture := running }, running && session.addLocalTrack outcomes.videoTrack)

/-- The audio half of `ConfigureLocalMedia`. -/
def configureAudio (outcomes : Outcomes) (session : PeerSession SdpCallback) : Dialog × Bool :=
  let running := dialog.microphone || outcomes.microphone
  ({ dialog with microphone := running }, running && session.addLocalTrack outcomes.audioTrack)

/-- `ConfigureLocalMedia`. -/
def configureLocalMedia (outcomes : Outcomes) (session : PeerSession SdpCallback)
    (options : MediaOptions) : Dialog × Bool :=
  let (dialog, video) :=
    if options.sendVideo then dialog.configureVideo outcomes session else (dialog, true)
  if video = false then (dialog, false)
  else if options.sendAudio then dialog.configureAudio outcomes session
  else (dialog, true)

/-- `BindSessionCallbacks`. -/
def bindSessionCallbacks (session : PeerSession SdpCallback) (remoteUserId : ByteString) :
    PeerSession SdpCallback :=
  { session with
    stateChangedCallback := true
    iceCandidateCallback := some remoteUserId
    mediaEventCallback := true
    controlEventCallback := true }

/-- The steps between the local media and the negotiation. -/
def prepareSession (session : PeerSession SdpCallback) (remoteUserId : ByteString) :
    PeerSession SdpCallback :=
  bindSessionCallbacks
    (((session.setRemoteVideoTarget .main).setRecorder).setRemoteControlAuthorized
      dialog.allowControlCheck) remoteUserId

/-- What `StartSelectedSession` and the `offer` branch do alike with a session: set up the local
media, without which the session is removed, prepare it and negotiate. -/
def negotiate (outcomes : Outcomes) (options : MediaOptions) (remoteUserId : ByteString)
    (session : PeerSession SdpCallback)
    (start : PeerSession SdpCallback → PeerSession SdpCallback × List (Output SdpCallback)) :
    Dialog :=
  let (dialog, configured) := dialog.configureLocalMedia outcomes session options
  if configured = false then dialog.removeSession remoteUserId
  else dialog.putSession remoteUserId (start (dialog.prepareSession session remoteUserId))

/-! ### Handlers -/

/-- `StartSelectedSession`, for the selected user, if any. -/
def startSelectedSession (outcomes : Outcomes) : Option ByteString → Dialog
  | none => dialog
  | some remoteUserId =>
    let dialog := dialog.activate remoteUserId
    let options := dialog.mediaOptions
    match dialog.createSession outcomes.peerConnection remoteUserId options with
    | (dialog, none) => dialog
    | (dialog, some session) =>
      let (session, ready) := session.createControlChannel outcomes.dataChannel
      let dialog := dialog.putSession remoteUserId (session, [])
      if options.enableRemoteControl ∧ ready = false then dialog.removeSession remoteUserId
      else
        dialog.negotiate outcomes options remoteUserId session
          fun session => session.createOffer (.offer remoteUserId)

/-- The session an offer is for: the one there is, or a new one. -/
def sessionForOffer (outcomes : Outcomes) (remoteUserId : ByteString) :
    Dialog × Option (PeerSession SdpCallback) :=
  match dialog.sessions.lookup remoteUserId with
  | some session => (dialog, some session)
  | none => dialog.createSession outcomes.peerConnection remoteUserId dialog.mediaOptions

/-- The `offer` branch of `DispatchSignalingMessage`. -/
def onOffer (outcomes : Outcomes) (remoteUserId sdp : ByteString) : Dialog :=
  let options := dialog.mediaOptions
  match dialog.sessionForOffer outcomes remoteUserId with
  | (dialog, none) => dialog
  | (dialog, some session) =>
    dialog.negotiate outcomes options remoteUserId session
      fun session => session.applyRemoteOffer sdp (.answer remoteUserId)

/-- The `hangup` branch of `DispatchSignalingMessage`. -/
def onHangup (remoteUserId : ByteString) : Dialog :=
  let dialog := ((dialog.removeSession remoteUserId).stopRecording).clearView
  { dialog with activeRemoteUserId := [] }.resetMediaStats.stopIdleCapture

/-- `DispatchSignalingMessage`. The two presence branches only touch the list of users. -/
def dispatchSignalingMessage (outcomes : Outcomes) (json : ByteString) : Dialog :=
  let type := SignalingProtocol.stringField json (bytes "type")
  if type = bytes "presence.snapshot" then dialog
  else if type = bytes "presence.changed" then dialog
  else
    let remoteUserId := SignalingProtocol.stringField json (bytes "fromUserId")
    if remoteUserId = [] then dialog
    else
      let dialog := dialog.activate remoteUserId
      if type = bytes "offer" then
        dialog.onOffer outcomes remoteUserId (SignalingProtocol.stringField json (bytes "sdp"))
      else if type = bytes "answer" then
        match dialog.sessions.lookup remoteUserId with
        | none => dialog
        | some session =>
          dialog.emit
            (session.applyRemoteAnswer (SignalingProtocol.stringField json (bytes "sdp")))
      else if type = bytes "ice-candidate" then
        match dialog.sessions.lookup remoteUserId with
        | none => dialog
        | some session =>
          dialog.putSession remoteUserId
            (session.addRemoteCandidate
              { mid := SignalingProtocol.stringField json (bytes "mid")
                mlineIndex := SignalingProtocol.intField json (bytes "mlineIndex") 0
                candidate := SignalingProtocol.stringField json (bytes "candidate") })
      else if type = bytes "hangup" then dialog.onHangup remoteUserId
      else dialog

/-- The part of `OnSessionState` about the active user. -/
def noteSessionState (now : UInt64) (message : SessionStateMessage) : Dialog :=
  if message.remoteUserId = dialog.activeRemoteUserId then
    let dialog :=
      if message.state = .connected then
        { dialog with mediaStats := { dialog.mediaStats with startAfterMs := now + 2000 } }
      else dialog
    if message.state = .disconnected ∨ message.state = .failed ∨ message.state = .closed then
      (dialog.setKeyboardControlActive false).resetMediaStats
    else dialog
  else dialog

/-- The part of `OnSessionState` about a terminal state: only a session that is still in it is
removed. -/
def collectSession (message : SessionStateMessage) : Dialog :=
  match dialog.sessions.lookup message.remoteUserId with
  | none => dialog
  | some session =>
    if session.state = message.state then
      let dialog := dialog.removeSession message.remoteUserId
      let dialog :=
        if message.remoteUserId = dialog.activeRemoteUserId then
          { dialog with activeRemoteUserId := [] }
        else dialog
      dialog.stopIdleCapture
    else dialog

/-- `OnSessionState`, given the tick count. -/
def onSessionState (now : UInt64) (message : SessionStateMessage) : Dialog :=
  if message.state = .new then dialog
  else
    let dialog := dialog.noteSessionState now message
    if message.state = .failed ∨ message.state = .closed then dialog.collectSession message
    else dialog

/-- `OnBnClickedHangup`. -/
def onBnClickedHangup : Dialog :=
  let dialog := dialog.setKeyboardControlActive false
  if dialog.activeRemoteUserId = [] then dialog
  else if dialog.activeRemoteUserId ∉ dialog.sessions then
    { dialog with activeRemoteUserId := [] }
  else
    let remoteUserId := dialog.activeRemoteUserId
    let dialog := { dialog with sent := dialog.sent ++ [SignalingProtocol.hangup remoteUserId] }
    let dialog := (dialog.removeSession remoteUserId).stopRecording
    { dialog with activeRemoteUserId := [] }.clearView.resetMediaStats.stopIdleCapture

/-- `OnBnClickedAllowControl`, for the state the check box has changed to. -/
def onBnClickedAllowControl (checked : Bool) : Dialog :=
  { dialog with allowControlCheck := checked }.setRemoteControlAuthorized checked

/-- `OnBnClickedRecord`, given whether a file was chosen and the recorder started. -/
def onBnClickedRecord (started : Bool) : Dialog :=
  if dialog.recording then dialog.stopRecording
  else if dialog.activeRemoteUserId = [] ∨ dialog.activeRemoteUserId ∉ dialog.sessions then dialog
  else { dialog with recording := started }

/-- `OnBnClickedKeyboardControl`, given whether the control channel of the active user is open. -/
def onBnClickedKeyboardControl (isOpen : Bool) : Dialog :=
  if dialog.keyboardControlActive then dialog.setKeyboardControlActive false
  else if dialog.activeRemoteUserId = [] then dialog
  else
    match dialog.sessions.lookup dialog.activeRemoteUserId with
    | none => dialog
    | some session =>
      match session.controlChannel with
      | none => dialog
      | some channel =>
        if channel.attached && isOpen then dialog.setKeyboardControlActive true else dialog

/-- The callback of the video view: the active session's renderer gets a new window. -/
def fullscreenChanged (target : Window) : Dialog :=
  if dialog.activeRemoteUserId = [] then dialog
  else
    match dialog.sessions.lookup dialog.activeRemoteUserId with
    | none => dialog
    | some session =>
      dialog.putSession dialog.activeRemoteUserId (session.updateRemoteVideoTarget target, [])

/-- `ToggleFullscreen`, given the fullscreen window if one can be made. -/
def toggleFullscreen (created : Option Nat) : Dialog :=
  match dialog.fullscreenView with
  | some _ => { dialog.fullscreenChanged .main with fullscreenView := none }
  | none =>
    match created with
    | none => dialog
    | some handle =>
      { dialog with fullscreenView := some handle }.fullscreenChanged (.fullscreen handle)

/-- `OnMediaStats`. -/
def onMediaStats (remoteUserId : ByteString) (sample : StatsSample) : Dialog :=
  if remoteUserId ≠ dialog.activeRemoteUserId then dialog
  else
    { dialog with
      mediaStats := { dialog.mediaStats with hasPrevious := true, previous := sample } }

/-- libwebrtc calls back on the session with a user, if there is one. -/
def onSessionEvent (remoteUserId : ByteString) (event : SessionEvent) : Dialog :=
  match dialog.sessions.lookup remoteUserId with
  | none => dialog
  | some session => dialog.putSession remoteUserId (session.handle event)

end Dialog

/-! ### The system -/

/-- One handler that runs. -/
inductive Action where
  | allowControl (checked : Bool)
  | mediaChecks (sendVideo receiveVideo sendAudio receiveAudio : Bool)
  | startSelectedSession (outcomes : Dialog.Outcomes) (selected : Option ByteString)
  | signalingMessage (outcomes : Dialog.Outcomes) (json : ByteString)
  /-- One of the posted session-state messages is taken from the queue. -/
  | sessionState (now : UInt64) (position : Nat)
  | hangup
  | record (started : Bool)
  /-- The recorder ended by itself. -/
  | recorderEnded
  | keyboardControl (isOpen : Bool)
  | toggleFullscreen (created : Option Nat)
  | mediaStats (remoteUserId : ByteString) (sample : StatsSample)
  | sessionEvent (remoteUserId : ByteString) (event : SessionEvent)

/-- What a handler does. -/
def Dialog.next (dialog : Dialog) : Action → Dialog
  | .allowControl checked => dialog.onBnClickedAllowControl checked
  | .mediaChecks sendVideo receiveVideo sendAudio receiveAudio =>
    { dialog with
      sendVideoCheck := sendVideo
      receiveVideoCheck := receiveVideo
      sendAudioCheck := sendAudio
      receiveAudioCheck := receiveAudio }
  | .startSelectedSession outcomes selected => dialog.startSelectedSession outcomes selected
  | .signalingMessage outcomes json => dialog.dispatchSignalingMessage outcomes json
  | .sessionState now position =>
    match dialog.posted[position]? with
    | none => dialog
    | some message =>
      { dialog with posted := dialog.posted.eraseIdx position }.onSessionState now message
  | .hangup => dialog.onBnClickedHangup
  | .record started => dialog.onBnClickedRecord started
  | .recorderEnded => dialog.stopRecording
  | .keyboardControl isOpen => dialog.onBnClickedKeyboardControl isOpen
  | .toggleFullscreen created => dialog.toggleFullscreen created
  | .mediaStats remoteUserId sample => dialog.onMediaStats remoteUserId sample
  | .sessionEvent remoteUserId event => dialog.onSessionEvent remoteUserId event

/-- The program, started without sessions. Handlers run in any order. -/
def system : Transition.System Dialog Action where
  initial dialog := dialog = {}
  allowed _ _ := True
  next := Dialog.next

end RemoteControl.Peer

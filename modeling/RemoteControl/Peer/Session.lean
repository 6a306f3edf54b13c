/-
This file models `PeerSession`, one call with one remote user. A method returns
the session it leaves and what it did, in order: callbacks it invoked, requests
it made of libwebrtc, calls into the injector. A request records whether the peer
connection was still there, because some completions use it unchecked. What
libwebrtc calls back later is a method of its own; the environment decides when,
and with which outcome.

The SDP callback a caller passes is a value of any type: the session stores it
and hands it back, and knows nothing else about it.
-/

import RemoteControl.Peer.ControlChannel

namespace RemoteControl.Peer

/-! ### The vocabulary of a session -/

/-- `PeerSessionState`. -/
inductive PeerSessionState where
  | new
  | connecting
  | connected
  | disconnected
  | failed
  | closed
  deriving DecidableEq

/-- `RTCPeerConnectionState`. -/
inductive RTCPeerConnectionState where
  | new
  | connecting
  | connected
  | disconnected
  | failed
  | closed
  deriving DecidableEq

/-- `PeerMediaEvent`. -/
inductive PeerMediaEvent where
  | remoteVideoTrackAdded
  | remoteVideoFirstFrame
  | remoteVideoFrameConversionFailed
  deriving DecidableEq

/-- `MediaOptions`. -/
structure MediaOptions where
  sendVideo : Bool := false
  receiveVideo : Bool := true
  sendAudio : Bool := false
  receiveAudio : Bool := false
  enableRemoteControl : Bool := false
  deriving DecidableEq

/-- `PendingIceCandidate`. -/
structure IceCandidate where
  mid : ByteString
  mlineIndex : Int32
  candidate : ByteString
  deriving DecidableEq

/-- A window that shows the remote video: the main view, or the fullscreen view with the given
handle. -/
inductive Window where
  | main
  | fullscreen (handle : Nat)
  deriving DecidableEq

/-- `RemoteVideoRenderer`: where it posts frames, and whether it feeds the recorder. -/
structure RemoteVideoRenderer where
  target : Window
  recorder : Bool := false
  deriving DecidableEq

/-- A call of the peer connection that is answered later, or not at all. -/
inductive Request where
  | createOffer
  | createAnswer
  | setLocalDescription (sdp type : ByteString)
  | setRemoteDescription (sdp type : ByteString)
  | addCandidate (candidate : IceCandidate)
  deriving DecidableEq

/-- What a session did. -/
inductive Output (Callback : Type) where
  | stateChanged (remoteUserId : ByteString) (state : PeerSessionState)
  | sdp (callback : Callback) (sdp type : ByteString)
  | iceCandidate (remoteUserId : ByteString) (candidate : IceCandidate)
  | mediaEvent (remoteUserId : ByteString) (event : PeerMediaEvent) (width height : Nat)
  | controlEvent (remoteUserId : ByteString) (event : ControlEvent)
  /-- A call on the peer connection, and whether there was one. -/
  | request (present : Bool) (request : Request)
  | inject (call : InjectorCall)
  | packet (packet : ControlPacket)

/-! ### PeerSession -/

/-- `PeerSession`. A callback that captures nothing but the dialog is there or not; the ICE
callback captures the user it sends to. -/
structure PeerSession (Callback : Type) where
  remoteUserId : ByteString
  options : MediaOptions
  state : PeerSessionState := .new
  stateChangedCallback : Bool := false
  iceCandidateCallback : Option ByteString := none
  mediaEventCallback : Bool := false
  controlEventCallback : Bool := false
  pendingSdpCallback : Option Callback := none
  closed : Bool := false
  localDescriptionAnnounced : Bool := false
  remoteDescriptionSet : Bool := false
  pendingLocalCandidates : List IceCandidate := []
  pendingRemoteCandidates : List IceCandidate := []
  pendingLocalSdp : ByteString := []
  pendingLocalSdpType : ByteString := []
  peerConnection : Bool := false
  remoteVideoTrack : Bool := false
  remoteVideoRenderer : Option RemoteVideoRenderer := none
  controlChannel : Option RemoteControlChannel := none
  remoteControlAuthorized : Bool := false

namespace PeerSession

variable {Callback : Type} (session : PeerSession Callback)

/-- `UpdateState`. -/
def updateState (state : PeerSessionState) : PeerSession Callback × List (Output Callback) :=
  if session.state = state then (session, [])
  else
    ({ session with state },
      if session.stateChangedCallback then [.stateChanged session.remoteUserId state] else [])

/-! ### Setting up -/

/-- `Create`, given whether the factory makes a peer connection. -/
def create (created : Bool) : (PeerSession Callback × List (Output Callback)) × Bool :=
  if created then (({ session with closed := false, peerConnection := true }, []), true)
  else (({ session with closed := false } : PeerSession Callback).updateState .failed, false)

/-- `CreateControlChannel`, given whether the peer connection makes a data channel. -/
def createControlChannel (created : Bool) : PeerSession Callback × Bool :=
  if session.peerConnection = false ∨ session.options.enableRemoteControl = false then
    (session, false)
  else if session.controlChannel.isSome then (session, true)
  else if created = false then (session, false)
  else
    ({ session with
        controlChannel :=
          some (({} : RemoteControlChannel).setAuthorized session.remoteControlAuthorized).attach },
      true)

/-- `AddLocalVideoTrack` and `AddLocalAudioTrack`, given whether the peer connection takes the
track. -/
def addLocalTrack (added : Bool) : Bool := session.peerConnection && added

/-- `SetRemoteVideoTarget` makes a new renderer, which feeds no recorder yet. -/
def setRemoteVideoTarget (target : Window) : PeerSession Callback :=
  { session with remoteVideoRenderer := some { target } }

/-- `UpdateRemoteVideoTarget`. -/
def updateRemoteVideoTarget (target : Window) : PeerSession Callback :=
  { session with
    remoteVideoRenderer := session.remoteVideoRenderer.map fun renderer =>
      { renderer with target } }

/-- `SetRecorder`. -/
def setRecorder : PeerSession Callback :=
  { session with
    remoteVideoRenderer := session.remoteVideoRenderer.map fun renderer =>
      { renderer with recorder := true } }

/-- `SetRemoteControlAuthorized`. -/
def setRemoteControlAuthorized (authorized : Bool) : PeerSession Callback :=
  { session with
    remoteControlAuthorized := authorized
    controlChannel := session.controlChannel.map (·.setAuthorized authorized) }

/-! ### Negotiating -/

/-- `CreateOffer`. -/
def createOffer (callback : Callback) : PeerSession Callback × List (Output Callback) :=
  if session.peerConnection = false then (session, [])
  else
    let (session, outputs) := updateState
      { session with
        pendingSdpCallback := some callback
        localDescriptionAnnounced := false
        remoteDescriptionSet := false
        pendingLocalCandidates := []
        pendingRemoteCandidates := [] } .connecting
    (session, outputs ++ [.request session.peerConnection .createOffer])

/-- `ApplyRemoteOffer`, which keeps the remote candidates that came early. -/
def applyRemoteOffer (sdp : ByteString) (callback : Callback) :
    PeerSession Callback × List (Output Callback) :=
  if session.peerConnection = false then (session, [])
  else
    let (session, outputs) := updateState
      { session with
        pendingSdpCallback := some callback
        localDescriptionAnnounced := false
        remoteDescriptionSet := false
        pendingLocalCandidates := [] } .connecting
    (session,
      outputs ++ [.request session.peerConnection (.setRemoteDescription sdp (bytes "offer"))])

/-- `ApplyRemoteAnswer`. -/
def applyRemoteAnswer (sdp : ByteString) : List (Output Callback) :=
  if session.peerConnection then [.request true (.setRemoteDescription sdp (bytes "answer"))]
  else []

/-- The completion of `CreateOffer` and of `CreateAnswer`. -/
def localDescriptionCreated (sdp type : ByteString) :
    PeerSession Callback × List (Output Callback) :=
  ({ session with pendingLocalSdp := sdp, pendingLocalSdpType := type },
    [.request session.peerConnection (.setLocalDescription sdp type)])

/-- `AnnounceLocalDescription`, the completion of `SetLocalDescription`: the description first,
then the candidates gathered so far. -/
def announceLocalDescription : PeerSession Callback × List (Output Callback) :=
  if session.closed then (session, [])
  else
    ({ session with localDescriptionAnnounced := true, pendingLocalCandidates := [] },
      (session.pendingSdpCallback.toList.map fun callback =>
        .sdp callback session.pendingLocalSdp session.pendingLocalSdpType) ++
      session.iceCandidateCallback.toList.flatMap fun remoteUserId =>
        session.pendingLocalCandidates.map (.iceCandidate remoteUserId))

/-- `MarkRemoteDescriptionSet`, the completion of `SetRemoteDescription` on an answer. -/
def markRemoteDescriptionSet : PeerSession Callback × List (Output Callback) :=
  if session.closed then (session, [])
  else
    ({ session with remoteDescriptionSet := true, pendingRemoteCandidates := [] },
      if session.peerConnection then
        session.pendingRemoteCandidates.map fun candidate => .request true (.addCandidate candidate)
      else [])

/-- The completion of `SetRemoteDescription` on an offer. -/
def remoteOfferSet : PeerSession Callback × List (Output Callback) :=
  let (session, outputs) := session.markRemoteDescriptionSet
  (session, outputs ++ [.request session.peerConnection .createAnswer])

/-- `FailNegotiation`, the failure of any of these. -/
def failNegotiation : PeerSession Callback × List (Output Callback) :=
  if session.closed then (session, []) else session.updateState .failed

/-! ### Candidates -/

/-- `AddRemoteCandidate`. -/
def addRemoteCandidate (candidate : IceCandidate) :
    PeerSession Callback × List (Output Callback) :=
  if session.peerConnection = false ∨ candidate.candidate = [] ∨ session.closed then (session, [])
  else if session.remoteDescriptionSet = false then
    ({ session with
        pendingRemoteCandidates := session.pendingRemoteCandidates ++ [candidate] }, [])
  else (session, [.request session.peerConnection (.addCandidate candidate)])

/-- `OnIceCandidate`. -/
def onIceCandidate (candidate : IceCandidate) : PeerSession Callback × List (Output Callback) :=
  if session.closed then (session, [])
  else if session.localDescriptionAnnounced = false then
    ({ session with pendingLocalCandidates := session.pendingLocalCandidates ++ [candidate] }, [])
  else
    (session, session.iceCandidateCallback.toList.map fun remoteUserId =>
      .iceCandidate remoteUserId candidate)

/-! ### Reports -/

/-- `NotifyMediaEvent`. -/
def notifyMediaEvent (event : PeerMediaEvent) (width height : Nat) : List (Output Callback) :=
  if session.closed = false ∧ session.mediaEventCallback then
    [.mediaEvent session.remoteUserId event width height]
  else []

/-- `NotifyControlEvent`. -/
def notifyControlEvent (event : ControlEvent) : List (Output Callback) :=
  if session.closed = false ∧ session.controlEventCallback then
    [.controlEvent session.remoteUserId event]
  else []

/-- `OnPeerConnectionState`. -/
def onPeerConnectionState :
    RTCPeerConnectionState → PeerSession Callback × List (Output Callback)
  | .new => (session, [])
  | .connecting => session.updateState .connecting
  | .connected => session.updateState .connected
  | .disconnected => session.updateState .disconnected
  | .failed => session.updateState .failed
  | .closed => session.updateState .closed

/-- `OnTrack`, for a track of the given kind. -/
def onTrack (kind : ByteString) : PeerSession Callback × List (Output Callback) :=
  if session.remoteVideoRenderer.isNone ∨ kind ≠ bytes "video" then (session, [])
  else
    ({ session with remoteVideoTrack := true },
      session.notifyMediaEvent .remoteVideoTrackAdded 0 0)

/-- `OnDataChannel`, for a channel with the given label. -/
def onDataChannel (label : ByteString) : PeerSession Callback :=
  if session.options.enableRemoteControl = false ∨ label ≠ bytes "remote-control" then session
  else
    { session with
      controlChannel :=
        some ((session.controlChannel.getD {}).setAuthorized
          session.remoteControlAuthorized).attach }

/-- A message on the control channel, if there is one. -/
def onMessage (moment : Moment) (buffer : ByteString) (binary : Bool) :
    PeerSession Callback × List (Output Callback) :=
  match session.controlChannel with
  | none => (session, [])
  | some channel =>
    let reaction := channel.onMessage moment buffer binary
    ({ session with controlChannel := some reaction.channel },
      reaction.injected.map .inject ++ reaction.sent.map .packet ++
        reaction.reported.flatMap session.notifyControlEvent)

/-! ### Closing -/

/-- `Close`. -/
def close : PeerSession Callback × List (Output Callback) :=
  if session.closed then (session, [])
  else
    let session :=
      { session with
        closed := true
        pendingSdpCallback := none
        iceCandidateCallback := none
        mediaEventCallback := false
        controlEventCallback := false
        pendingLocalCandidates := []
        pendingRemoteCandidates := [] }
    if session.peerConnection = false then (session, [])
    else
      updateState
        { session with
          remoteVideoTrack := false
          remoteVideoRenderer := none
          controlChannel := none
          peerConnection := false } .closed

end PeerSession

end RemoteControl.Peer

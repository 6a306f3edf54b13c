import RemoteControl.Server.Snapshot
import RemoteControl.Peer.OnlineUsers
import RemoteControl.Server.MainLoop
import RemoteControl.Server.Outbound
import RemoteControl.Server.Login
import RemoteControl.Server.Presence
import RemoteControl.Server.Sender
import RemoteControl.Server.Transparency
import RemoteControl.Peer.Consent
import RemoteControl.Peer.Notifications
import RemoteControl.Peer.Fullscreen
import RemoteControl.Peer.CallAttempt
import RemoteControl.Peer.Outsiders
import RemoteControl.Peer.RemoteInput
import RemoteControl.Peer.Negotiation
import RemoteControl.Peer.Closed
import RemoteControl.Peer.LocalCandidates
import RemoteControl.Peer.Roles
import RemoteControl.Peer.RemoteCandidates
import RemoteControl.Call.Agreement
import RemoteControl.Video.Injection
import RemoteControl.Video.Color
import RemoteControl.Video.Capture
import RemoteControl.Video.Recorder
import RemoteControl.Peer.Availability
import RemoteControl.Peer.CodecPreference
import RemoteControl.Video.Keyboard
import RemoteControl.Video.Planes
import RemoteControl.Signaling.Client
import RemoteControl.Signaling.ConnectButton
import RemoteControl.Server.Transport
import RemoteControl.Server.Delivery
import RemoteControl.Video.MutualControl
import RemoteControl.Call.OnlineList
import RemoteControl.Video.Frames
import RemoteControl.Call.Setup
import RemoteControl.Peer.ControlledUser
import RemoteControl.Peer.Latency
import RemoteControl.Video.CaptureThread

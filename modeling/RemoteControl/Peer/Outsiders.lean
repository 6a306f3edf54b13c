/-
This file shows what a user without a session can do to somebody else's call. A
signaling line is booked on its sender before its type is looked at, so an
answer, a candidate or a hangup from an outsider never leaves the call in peace:
the outsider becomes the active user, or nobody is.
-/

import RemoteControl.Peer.Effects

namespace RemoteControl.Peer

namespace Dialog

/-! ### What belongs to a call -/

/-- Everything of the dialog that belongs to a call is as it was. -/
structure Undisturbed (dialog after : Dialog) : Prop where
  active : after.activeRemoteUserId = dialog.activeRemoteUserId
  keyboard : after.keyboardControlActive = dialog.keyboardControlActive
  sessions : after.sessions = dialog.sessions
  recording : after.recording = dialog.recording
  view : after.viewClears = dialog.viewClears
  statistics : after.mediaStats = dialog.mediaStats

theorem undisturbed_refl (dialog : Dialog) : Undisturbed dialog dialog :=
  ⟨rfl, rfl, rfl, rfl, rfl, rfl⟩

/-- The lines that concern a session there is. -/
def ConcernsSession (json : ByteString) : Prop :=
  SignalingProtocol.stringField json (bytes "type") = bytes "answer" ∨
    SignalingProtocol.stringField json (bytes "type") = bytes "ice-candidate" ∨
    SignalingProtocol.stringField json (bytes "type") = bytes "hangup"

/-! ### A line from an outsider -/

section

variable {dialog : Dialog} {json : ByteString}

/-- A line that names no sender is dropped. -/
theorem dispatchSignalingMessage_unnamed (outcomes : Outcomes)
    (unnamed : SignalingProtocol.stringField json (bytes "fromUserId") = []) :
    dialog.dispatchSignalingMessage outcomes json = dialog := by
  rw [dispatchSignalingMessage]
  simp only
  rw [if_pos unnamed]
  split
  · rfl
  · split <;> rfl

/-- The line makes its sender the active user; a hangup ends with no active user. -/
theorem dispatchSignalingMessage_outsider (outcomes : Outcomes) (concerns : ConcernsSession json)
    (named : SignalingProtocol.stringField json (bytes "fromUserId") ≠ [])
    (absent : dialog.sessions.lookup (SignalingProtocol.stringField json (bytes "fromUserId")) =
      none) :
    dialog.dispatchSignalingMessage outcomes json =
      if SignalingProtocol.stringField json (bytes "type") = bytes "hangup" then
        (dialog.activate (SignalingProtocol.stringField json (bytes "fromUserId"))).onHangup
          (SignalingProtocol.stringField json (bytes "fromUserId"))
      else dialog.activate (SignalingProtocol.stringField json (bytes "fromUserId")) := by
  rw [dispatchSignalingMessage]
  simp only
  rw [ConcernsSession] at concerns
  generalize SignalingProtocol.stringField json (bytes "fromUserId") = remoteUserId at *
  generalize SignalingProtocol.stringField json (bytes "type") = type at *
  rw [activate_sessions, absent]
  rcases concerns with rfl | rfl | rfl
  · rw [if_neg (by decide), if_neg (by decide), if_neg named, if_neg (by decide), if_pos rfl,
      if_neg (by decide)]
  · rw [if_neg (by decide), if_neg (by decide), if_neg named, if_neg (by decide),
      if_neg (by decide), if_pos rfl, if_neg (by decide)]
  · rw [if_neg (by decide), if_neg (by decide), if_neg named, if_neg (by decide),
      if_neg (by decide), if_neg (by decide), if_pos rfl]

theorem onHangup_active (dialog : Dialog) (remoteUserId : ByteString) :
    (dialog.onHangup remoteUserId).activeRemoteUserId = [] := by
  rw [onHangup, stopIdleCapture]
  split <;> rfl

/-- The sessions are out of an outsider's reach. -/
theorem sessions_outsider (outcomes : Outcomes) (concerns : ConcernsSession json)
    (named : SignalingProtocol.stringField json (bytes "fromUserId") ≠ [])
    (absent : dialog.sessions.lookup (SignalingProtocol.stringField json (bytes "fromUserId")) =
      none) :
    (dialog.dispatchSignalingMessage outcomes json).sessions = dialog.sessions := by
  rw [dispatchSignalingMessage_outsider outcomes concerns named absent]
  generalize SignalingProtocol.stringField json (bytes "fromUserId") = user at absent ⊢
  have activated := dialog.activate_sessions user
  have missing : (dialog.activate user).sessions.lookup user = none := by
    rwa [activated]
  split
  · rw [onHangup, stopIdleCapture_sessions, removeSession_of_absent missing]
    generalize dialog.activate user = active at activated ⊢
    exact activated
  · exact activated

end

end Dialog

/-- A line with an answer, a candidate or a hangup from somebody without a session never leaves
the active call undisturbed, unless it names no sender at all. -/
theorem outsiders_disturb_calls {dialog : Dialog} (reachable : system.Reachable dialog)
    {session : PeerSession SdpCallback}
    (live : dialog.sessions.lookup dialog.activeRemoteUserId = some session)
    (outcomes : Dialog.Outcomes) {json : ByteString} (concerns : Dialog.ConcernsSession json)
    (outside : SignalingProtocol.stringField json (bytes "fromUserId") ≠
      dialog.activeRemoteUserId)
    (absent : dialog.sessions.lookup (SignalingProtocol.stringField json (bytes "fromUserId")) =
      none) :
    dialog.Undisturbed (dialog.dispatchSignalingMessage outcomes json) ↔
      SignalingProtocol.stringField json (bytes "fromUserId") = [] := by
  refine ⟨fun undisturbed => ?_, fun unnamed => ?_⟩
  · by_contra named
    have active := undisturbed.active
    rw [Dialog.dispatchSignalingMessage_outsider outcomes concerns named absent] at active
    split at active
    · rw [Dialog.onHangup_active] at active
      rw [← active, (Dialog.allBound_of_reachable reachable).unnamed] at live
      cases live
    · exact outside active
  · rw [Dialog.dispatchSignalingMessage_unnamed outcomes unnamed]
    exact dialog.undisturbed_refl

/-- Bob calls. -/
def bobCalls : List Action :=
  [.signalingMessage .success
    (bytes "\x7b\"type\":\"offer\",\"sdp\":\"v=0\",\"fromUserId\":\"bob\"\x7d")]

/-- Carol hangs up, although she has no call. -/
def carolHangsUp : ByteString :=
  bytes "\x7b\"type\":\"hangup\",\"fromUserId\":\"carol\"\x7d"

theorem outsiders_disturb_calls_carol :
    ¬ (system.run {} bobCalls).Undisturbed
      ((system.run {} bobCalls).dispatchSignalingMessage .success carolHangsUp) := by
  have reachable : system.Reachable (system.run {} bobCalls) :=
    (Transition.System.Reachable.start rfl).run ⟨trivial, trivial⟩
  have present : ((system.run {} bobCalls).sessions.lookup
      (system.run {} bobCalls).activeRemoteUserId).isSome = true := by decide
  obtain ⟨session, live⟩ := Option.isSome_iff_exists.mp present
  rw [outsiders_disturb_calls reachable live .success (Or.inr (Or.inr (by decide))) (by decide)
    (AList.lookup_eq_none.mpr (by decide))]
  decide

/-- A hangup from an outsider takes the active user away from the call. -/
theorem carol_disturbs_bob :
    ¬ ∀ dialog session outcomes json, system.Reachable dialog →
      dialog.sessions.lookup dialog.activeRemoteUserId = some session →
      Dialog.ConcernsSession json →
      SignalingProtocol.stringField json (bytes "fromUserId") ≠ [] →
      SignalingProtocol.stringField json (bytes "fromUserId") ≠ dialog.activeRemoteUserId →
      dialog.sessions.lookup (SignalingProtocol.stringField json (bytes "fromUserId")) = none →
      dialog.Undisturbed (dialog.dispatchSignalingMessage outcomes json) := by
  intro undisturbed
  have reachable : system.Reachable (system.run {} bobCalls) :=
    (Transition.System.Reachable.start rfl).run ⟨trivial, trivial⟩
  have present : ((system.run {} bobCalls).sessions.lookup
      (system.run {} bobCalls).activeRemoteUserId).isSome = true := by decide
  obtain ⟨session, live⟩ := Option.isSome_iff_exists.mp present
  have active := (undisturbed _ session .success carolHangsUp reachable live
    (Or.inr (Or.inr (by decide))) (by decide) (by decide)
    (AList.lookup_eq_none.mpr (by decide))).active
  have changed : ((system.run {} bobCalls).dispatchSignalingMessage .success
      carolHangsUp).activeRemoteUserId ≠ (system.run {} bobCalls).activeRemoteUserId := by decide
  exact changed active

end RemoteControl.Peer

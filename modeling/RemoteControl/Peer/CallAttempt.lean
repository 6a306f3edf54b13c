/-
This file asks what a call attempt that fails leaves of the call before it.
`StartSelectedSession` makes the selected user the active one before it knows
whether a session can be set up, and the set-up of the local media starts capture
that a later failure does not stop; neither is taken back. The call is as it was
exactly when there was nothing to take back.
-/

import RemoteControl.Peer.Capture

namespace RemoteControl.Peer

namespace Dialog

/-! ### The way to an offer -/

/-- Whether `StartSelectedSession` comes to `CreateOffer`. -/
def reachesOffer (dialog : Dialog) (outcomes : Outcomes) : Option ByteString → Bool
  | none => false
  | some remoteUserId =>
    let dialog := dialog.activate remoteUserId
    let options := dialog.mediaOptions
    match dialog.createSession outcomes.peerConnection remoteUserId options with
    | (_, none) => false
    | (dialog, some session) =>
      let (session, ready) := session.createControlChannel outcomes.dataChannel
      let dialog := dialog.putSession remoteUserId (session, [])
      if options.enableRemoteControl ∧ ready = false then false
      else (dialog.configureLocalMedia outcomes session options).2

/-- What a call attempt may not touch when it fails. -/
structure CallKept (before after : Dialog) : Prop where
  activeRemoteUserId : after.activeRemoteUserId = before.activeRemoteUserId
  keyboardControlActive : after.keyboardControlActive = before.keyboardControlActive
  mediaStats : after.mediaStats = before.mediaStats
  sessions : after.sessions = before.sessions
  desktopCapture : after.desktopCapture = before.desktopCapture
  microphone : after.microphone = before.microphone

/-- The set-up for a user starts no capture that was not running. -/
def StartsNothing (dialog : Dialog) (outcomes : Outcomes) : Prop :=
  dialog.screenCaptured outcomes = dialog.desktopCapture ∧
    dialog.microphoneCaptured outcomes = dialog.microphone

/-- No user is selected, the attempt goes through, or it is about the active user and starts
nothing. -/
def Harmless (dialog : Dialog) (outcomes : Outcomes) : Option ByteString → Prop
  | none => True
  | some remoteUserId =>
    (dialog.CanStart outcomes remoteUserId ∧
        (dialog.videoReady outcomes && dialog.audioReady outcomes) = true) ∨
      (remoteUserId = dialog.activeRemoteUserId ∧
        (dialog.CanStart outcomes remoteUserId → dialog.StartsNothing outcomes))

section

variable {dialog : Dialog} {outcomes : Outcomes} {remoteUserId : ByteString}

/-- Whom the user looks at has no part in what a set-up starts. -/
theorem captures_activate :
    (dialog.activate remoteUserId).videoReady outcomes = dialog.videoReady outcomes ∧
      (dialog.activate remoteUserId).audioReady outcomes = dialog.audioReady outcomes ∧
        (dialog.activate remoteUserId).screenCaptured outcomes = dialog.screenCaptured outcomes ∧
          (dialog.activate remoteUserId).microphoneCaptured outcomes =
            dialog.microphoneCaptured outcomes := by
  obtain ⟨keyboardControlActive, mediaStats, same⟩ := dialog.activate_spec remoteUserId
  rw [same]
  exact ⟨rfl, rfl, rfl, rfl⟩

/-- An attempt comes to an offer when nothing is in its way. -/
theorem reachesOffer_iff :
    dialog.reachesOffer outcomes (some remoteUserId) = true ↔
      dialog.CanStart outcomes remoteUserId ∧
        (dialog.videoReady outcomes && dialog.audioReady outcomes) = true := by
  have absent : dialog.sessions.lookup remoteUserId = none →
      (dialog.activate remoteUserId).sessions.lookup remoteUserId = none := by
    rw [activate_sessions]
    exact id
  rw [reachesOffer]
  by_cases fresh : remoteUserId ≠ [] ∧ dialog.sessions.lookup remoteUserId = none ∧
      outcomes.peerConnection = true
  swap
  · rw [createSession_refused]
    · exact iff_of_false Bool.false_ne_true fun reaches =>
        fresh ⟨reaches.1.1, reaches.1.2.1, reaches.1.2.2.1⟩
    · rw [activate_sessions]
      by_contra open_
      rw [not_or, not_or, not_not, Bool.not_eq_false] at open_
      exact fresh open_
  obtain ⟨named, missing, made⟩ := fresh
  rw [made, createSession_made named (absent missing)]
  simp only
  cases channel : outcomes.dataChannel with
  | false =>
    rw [if_pos ⟨rfl, rfl⟩]
    refine iff_of_false Bool.false_ne_true fun reaches => ?_
    rw [CanStart, channel] at reaches
    exact Bool.false_ne_true reaches.1.2.2.2
  | true =>
    obtain ⟨-, -, ready⟩ := (dialog.activate remoteUserId).configureLocalMedia_captures outcomes
      (callingSession_spec remoteUserId (dialog.activate remoteUserId).mediaOptions).2.2
    rw [captures_activate.1, captures_activate.2.1] at ready
    have possible : dialog.CanStart outcomes remoteUserId := ⟨named, missing, made, channel⟩
    rw [if_neg (by rintro ⟨-, failed⟩; cases failed), putSession_putSession,
      configureLocalMedia_putSession, ← ready]
    exact (and_iff_right possible).symm

/-- An attempt that fails about the active user changes only what the set-up starts. -/
theorem startSelectedSession_of_active (active : remoteUserId = dialog.activeRemoteUserId)
    (fails : dialog.reachesOffer outcomes (some remoteUserId) = false) :
    CallKept dialog (dialog.startSelectedSession outcomes (some remoteUserId)) ↔
      (dialog.CanStart outcomes remoteUserId → dialog.StartsNothing outcomes) := by
  have same : dialog.activate remoteUserId = dialog := by
    rw [activate, if_neg (not_not.mpr active), active]
  obtain ⟨screen, microphone, ready⟩ := dialog.configureLocalMedia_captures outcomes
    (callingSession_spec remoteUserId dialog.mediaOptions).2.2
  have cases_ := dialog.startSelectedSession_cases outcomes remoteUserId
  rw [same] at cases_
  rcases cases_ with ⟨impossible, result⟩ | ⟨possible, -, result⟩ | ⟨possible, configured, -⟩
  · rw [result]
    exact iff_of_true ⟨rfl, rfl, rfl, rfl, rfl, rfl⟩ fun possible => absurd possible impossible
  · obtain ⟨desktopCapture, microphoneRuns, configured⟩ := dialog.configureLocalMedia_spec
      outcomes (callingSession remoteUserId dialog.mediaOptions) dialog.mediaOptions
    rw [result, imp_iff_right possible, StartsNothing, ← screen, ← microphone]
    refine ⟨fun kept => ⟨kept.desktopCapture, kept.microphone⟩, fun nothing => ?_⟩
    rw [configured] at nothing ⊢
    exact ⟨rfl, rfl, rfl, rfl, nothing.1, nothing.2⟩
  · rw [ready] at configured
    rw [reachesOffer_iff.mpr ⟨possible, configured⟩] at fails
    cases fails

/-- An attempt about another user makes that user the active one. -/
theorem startSelectedSession_activeRemoteUserId :
    (dialog.startSelectedSession outcomes (some remoteUserId)).activeRemoteUserId =
      remoteUserId := by
  obtain ⟨keyboardControlActive, mediaStats, active⟩ := dialog.activate_spec remoteUserId
  obtain ⟨desktopCapture, microphone, configured⟩ :=
    (dialog.activate remoteUserId).configureLocalMedia_spec outcomes
      (callingSession remoteUserId (dialog.activate remoteUserId).mediaOptions)
      (dialog.activate remoteUserId).mediaOptions
  rcases dialog.startSelectedSession_cases outcomes remoteUserId with
    ⟨-, result⟩ | ⟨-, -, result⟩ | ⟨-, -, result⟩
  · rw [result, active]
  · rw [result, configured, active]
  · rw [result, configured, active]
    rfl

end

end Dialog

/-- A user who talks to bob calls alice, for whom no peer connection can be made. Alice becomes the
active user. -/
theorem failed_attempt_switches :
    let dialog := system.run {} [.startSelectedSession .success (some (bytes "bob"))]
    let outcomes := { Dialog.Outcomes.success with peerConnection := false }
    dialog.reachesOffer outcomes (some (bytes "alice")) = false ∧
      ¬ Dialog.CallKept dialog (dialog.startSelectedSession outcomes (some (bytes "alice"))) := by
  refine ⟨by decide, fun kept => ?_⟩
  have active := kept.activeRemoteUserId
  revert active
  decide

/-- A call attempt that does not come to an offer leaves the call as it was exactly when no user is
selected, or the selected user is the active one already and the set-up, if it comes to that,
starts no capture. -/
theorem failed_attempt_keeps_call_iff (dialog : Dialog) (outcomes : Dialog.Outcomes)
    (selected : Option ByteString) :
    (dialog.reachesOffer outcomes selected = false →
        Dialog.CallKept dialog (dialog.startSelectedSession outcomes selected)) ↔
      dialog.Harmless outcomes selected := by
  cases selected with
  | none => exact iff_of_true (fun _ => ⟨rfl, rfl, rfl, rfl, rfl, rfl⟩) trivial
  | some remoteUserId =>
    cases reaches : dialog.reachesOffer outcomes (some remoteUserId) with
    | true =>
      exact iff_of_true Bool.noConfusion (Or.inl (Dialog.reachesOffer_iff.mp reaches))
    | false =>
      rw [imp_iff_right rfl]
      constructor
      · intro kept
        have active := kept.activeRemoteUserId
        rw [Dialog.startSelectedSession_activeRemoteUserId] at active
        exact Or.inr ⟨active, (Dialog.startSelectedSession_of_active active reaches).mp kept⟩
      · rintro (goesThrough | ⟨active, starts⟩)
        · rw [Dialog.reachesOffer_iff.mpr goesThrough] at reaches
          cases reaches
        · exact (Dialog.startSelectedSession_of_active active reaches).mpr starts

end RemoteControl.Peer

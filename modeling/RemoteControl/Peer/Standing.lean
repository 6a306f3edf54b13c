/-
This file says what a handler of the dialog means for the calls with one user. A
dialog stands with a user by whether it has a session with them that has not ended,
and whether it is still to offer it to them. A handler moves it from one standing
to another and tells the user something, or nothing; a line that arrives is heard,
and is answered by nothing but a standing.
-/

import RemoteControl.Peer.Capture
import RemoteControl.Peer.Traffic

namespace RemoteControl.Peer

namespace Dialog

/-! ### Calls with one user -/

/-- How far the session with a user is, if there is one. -/
def stance (dialog : Dialog) (remoteUserId : ByteString) :
    Option (PeerSessionState × Option SdpCallback × Bool) :=
  (dialog.sessions.lookup remoteUserId).map PeerSession.stance

/-- There are no sessions with other users. -/
def Only (dialog : Dialog) (remoteUserId : ByteString) : Prop :=
  ∀ other, other ≠ remoteUserId → dialog.stance other = none

/-- Where a dialog stands with a user: whether it has a session with them that has not ended, and
whether it is still to offer it to them. -/
structure Standing where
  held : Bool
  untold : Bool
  deriving DecidableEq

/-- Without a session there is nothing to tell. -/
def Standing.apart : Standing := ⟨false, false⟩

/-- What the stance of a session amounts to. -/
def standingOf (remoteUserId : ByteString) :
    PeerSessionState × Option SdpCallback × Bool → Standing
  | (state, errand) =>
    { held := ¬ state.Terminal
      untold := ¬ state.Terminal ∧ errand = (some (.offer remoteUserId), false) }

/-- Where the dialog stands with a user. -/
def standing (dialog : Dialog) (remoteUserId : ByteString) : Standing :=
  ((dialog.stance remoteUserId).map (standingOf remoteUserId)).getD .apart

/-- A handler keeps to the calls with one user and tells them this. -/
structure Tells (dialog after : Dialog) (remoteUserId : ByteString) (signals : List Bool) :
    Prop where
  only : after.Only remoteUserId
  told : ∃ lines, after.sent = dialog.sent ++ lines ∧ Told remoteUserId lines signals

section

variable {dialog after : Dialog} {remoteUserId : ByteString}

theorem stance_of_sessions (same : after.sessions = dialog.sessions) (user : ByteString) :
    after.stance user = dialog.stance user := by
  rw [stance, stance, same]

theorem stance_removeSession (dialog : Dialog) (remoteUserId user : ByteString) :
    (dialog.removeSession remoteUserId).stance user =
      if user = remoteUserId then none else dialog.stance user := by
  rw [stance, lookup_removeSession]
  split <;> rfl

/-- What has the sessions that are left when one is removed. -/
theorem stance_putSession (dialog : Dialog) (remoteUserId user : ByteString)
    (result : PeerSession SdpCallback × List (Output SdpCallback)) :
    (dialog.putSession remoteUserId result).stance user =
      if user = remoteUserId then some result.1.stance else dialog.stance user := by
  rw [stance, putSession_sessions]
  split
  · rename_i same
    rw [same, AList.lookup_insert]
    rfl
  · rename_i different
    rw [AList.lookup_insert_ne different]
    rfl

theorem standing_of_absent (absent : dialog.stance remoteUserId = none) :
    dialog.standing remoteUserId = .apart := by
  rw [standing, absent]
  rfl

theorem standing_of_present {stance : PeerSessionState × Option SdpCallback × Bool}
    (present : dialog.stance remoteUserId = some stance) :
    dialog.standing remoteUserId = standingOf remoteUserId stance := by
  rw [standing, present]
  rfl

theorem standing_of_stance (same : after.stance remoteUserId = dialog.stance remoteUserId) :
    after.standing remoteUserId = dialog.standing remoteUserId := by
  rw [standing, standing, same]

/-- A session that has ended counts as none. -/
theorem standingOf_terminal {state : PeerSessionState} (terminal : state.Terminal)
    (errand : Option SdpCallback × Bool) :
    standingOf remoteUserId (state, errand) = .apart := by
  rw [standingOf, Standing.apart]
  simp [terminal]

/-- A session that lives is held, and untold as long as its offer is. -/
theorem standingOf_lively {state : PeerSessionState} (lively : ¬ state.Terminal)
    (errand : Option SdpCallback × Bool) :
    standingOf remoteUserId (state, errand) =
      ⟨true, decide (errand = (some (.offer remoteUserId), false))⟩ := by
  rw [standingOf]
  simp [lively]

/-- There is nothing to tell but an offer, and that only once. -/
theorem standingOf_told (state : PeerSessionState) {errand : Option SdpCallback × Bool}
    (told : errand ≠ (some (.offer remoteUserId), false)) :
    standingOf remoteUserId (state, errand) = ⟨decide (¬ state.Terminal), false⟩ := by
  rw [standingOf]
  simp [told]

/-- A session that is not held has ended. -/
theorem standingOf_not_held {stance : PeerSessionState × Option SdpCallback × Bool}
    (ended : (standingOf remoteUserId stance).held = false) :
    standingOf remoteUserId stance = .apart := by
  obtain ⟨state, errand⟩ := stance
  have terminal : state.Terminal := by
    by_contra lively
    rw [standingOf_lively lively] at ended
    cases ended
  exact standingOf_terminal terminal errand

theorem Only.of_stance (only : dialog.Only remoteUserId)
    (same : ∀ user, user ≠ remoteUserId → after.stance user = dialog.stance user) :
    after.Only remoteUserId :=
  fun user different => (same user different).trans (only user different)

/-- A handler that says nothing. -/
theorem Tells.silent (only : dialog.Only remoteUserId)
    (same : ∀ user, user ≠ remoteUserId → after.stance user = dialog.stance user)
    (sent : after.sent = dialog.sent) : Tells dialog after remoteUserId [] :=
  ⟨only.of_stance same, [], sent.trans (List.append_nil _).symm, told_nil remoteUserId⟩

theorem sent_removeSession (dialog : Dialog) (remoteUserId : ByteString) :
    (dialog.removeSession remoteUserId).sent = dialog.sent := by
  cases present : dialog.sessions.lookup remoteUserId with
  | none => rw [removeSession_of_absent present]
  | some session =>
    rw [removeSession_of_present present]
    show dialog.sent ++ session.close.2.filterMap Output.signalingLine = dialog.sent
    rw [lines_of_quiet session.quiet_close, List.append_nil]

theorem sent_putSession (dialog : Dialog) (remoteUserId : ByteString)
    {result : PeerSession SdpCallback × List (Output SdpCallback)}
    (quiet : result.2.filter Output.isOutgoing = []) :
    (dialog.putSession remoteUserId result).sent = dialog.sent := by
  show dialog.sent ++ result.2.filterMap Output.signalingLine = dialog.sent
  rw [lines_of_quiet quiet, List.append_nil]

theorem sent_activate (dialog : Dialog) (remoteUserId : ByteString) :
    (dialog.activate remoteUserId).sent = dialog.sent := by
  rw [activate]
  split <;> rfl

theorem sent_configureLocalMedia (dialog : Dialog) (outcomes : Outcomes)
    (session : PeerSession SdpCallback) (options : MediaOptions) :
    (dialog.configureLocalMedia outcomes session options).1.sent = dialog.sent := by
  obtain ⟨desktopCapture, microphone, same⟩ :=
    dialog.configureLocalMedia_spec outcomes session options
  rw [same]

theorem sent_stopIdleCapture (dialog : Dialog) : dialog.stopIdleCapture.sent = dialog.sent := by
  rw [stopIdleCapture]
  split <;> rfl

theorem stance_activate (dialog : Dialog) (remoteUserId user : ByteString) :
    (dialog.activate remoteUserId).stance user = dialog.stance user :=
  stance_of_sessions (dialog.activate_sessions remoteUserId) user

theorem stance_configureLocalMedia (dialog : Dialog) (outcomes : Outcomes)
    (session : PeerSession SdpCallback) (options : MediaOptions) (user : ByteString) :
    (dialog.configureLocalMedia outcomes session options).1.stance user = dialog.stance user :=
  stance_of_sessions (dialog.configureLocalMedia_sessions outcomes session options) user

/-! ### Starting a call -/

/-- `StartSelectedSession` starts a call where there is none, and says nothing yet. -/
theorem tells_startSelectedSession (only : dialog.Only remoteUserId) (outcomes : Outcomes)
    {selected : Option ByteString} (listed : ∀ user ∈ selected, user = remoteUserId) :
    Tells dialog (dialog.startSelectedSession outcomes selected) remoteUserId [] ∧
      ((dialog.startSelectedSession outcomes selected).stance remoteUserId =
          dialog.stance remoteUserId ∨
        dialog.stance remoteUserId = none ∧
          (dialog.startSelectedSession outcomes selected).stance remoteUserId =
            some (.connecting, some (.offer remoteUserId), false)) := by
  cases selected with
  | none => exact ⟨.silent only (fun _ _ => rfl) rfl, Or.inl rfl⟩
  | some user =>
    cases listed user rfl
    rcases dialog.startSelectedSession_cases outcomes remoteUserId with
      ⟨-, result⟩ | ⟨-, -, result⟩ | ⟨⟨-, absent, -⟩, -, result⟩
    · rw [result]
      exact ⟨.silent only (fun user _ => stance_activate _ _ user) (sent_activate _ _),
        Or.inl (stance_activate _ _ _)⟩
    · rw [result]
      have same (user : ByteString) := (stance_configureLocalMedia (dialog.activate remoteUserId)
        outcomes (callingSession remoteUserId (dialog.activate remoteUserId).mediaOptions)
        (dialog.activate remoteUserId).mediaOptions user).trans (stance_activate _ _ user)
      exact ⟨.silent only (fun user _ => same user)
        ((sent_configureLocalMedia _ _ _ _).trans (sent_activate _ _)), Or.inl (same _)⟩
    · rw [result]
      have connected := prepareSession_connected (dialog.activate remoteUserId) remoteUserId
        (callingSession_spec remoteUserId (dialog.activate remoteUserId).mediaOptions).2.2
      refine ⟨.silent only (fun user different => ?_) ?_, Or.inr ⟨?_, ?_⟩⟩
      · rw [stance_putSession, if_neg different, stance_configureLocalMedia, stance_activate]
      · rw [sent_putSession _ _ (PeerSession.quiet_createOffer _ _), sent_configureLocalMedia,
          sent_activate]
      · rw [stance, absent]
        rfl
      · rw [stance_putSession, if_pos rfl, stance_createOffer connected]

/-! ### Handlers that leave calls alone -/

theorem stance_fullscreenChanged (dialog : Dialog) (target : Window) (user : ByteString) :
    (dialog.fullscreenChanged target).stance user = dialog.stance user := by
  rw [stance, lookup_fullscreenChanged, stance]
  split
  · rw [Option.map_map]
    rfl
  · rfl

theorem sent_fullscreenChanged (dialog : Dialog) (target : Window) :
    (dialog.fullscreenChanged target).sent = dialog.sent := by
  rw [fullscreenChanged]
  split
  · rfl
  split
  · rfl
  · exact sent_putSession _ _ rfl

/-- Handlers that have nothing to do with calls. -/
def Aside : Action → Prop
  | .startSelectedSession _ _ | .signalingMessage _ _ | .sessionState _ _ | .hangup
  | .sessionEvent _ _ => False
  | _ => True

theorem next_of_aside (dialog : Dialog) {action : Action} (aside : Aside action) :
    (∀ user, (dialog.next action).stance user = dialog.stance user) ∧
      (dialog.next action).sent = dialog.sent := by
  have untouched {after : Dialog} (sessions : after.sessions = dialog.sessions)
      (sent : after.sent = dialog.sent) :
      (∀ user, after.stance user = dialog.stance user) ∧ after.sent = dialog.sent :=
    ⟨stance_of_sessions sessions, sent⟩
  cases action with
  | allowControl checked =>
    refine ⟨fun user => ?_, rfl⟩
    show ((Dialog.setRemoteControlAuthorized _ checked).sessions.lookup user).map _ = _
    rw [lookup_setRemoteControlAuthorized, Option.map_map]
    rfl
  | mediaChecks sendVideo receiveVideo sendAudio receiveAudio => exact untouched rfl rfl
  | record started =>
    rw [Dialog.next, onBnClickedRecord]
    split
    · exact untouched rfl rfl
    · split <;> exact untouched rfl rfl
  | recorderEnded => exact untouched rfl rfl
  | keyboardControl isOpen =>
    rw [Dialog.next, onBnClickedKeyboardControl]
    repeat' split
    all_goals exact untouched rfl rfl
  | toggleFullscreen created =>
    rw [Dialog.next, toggleFullscreen.eq_def]
    split
    · exact ⟨stance_fullscreenChanged dialog .main, sent_fullscreenChanged dialog .main⟩
    split
    · exact untouched rfl rfl
    · rename_i handle
      exact ⟨stance_fullscreenChanged { dialog with fullscreenView := some handle } _,
        sent_fullscreenChanged { dialog with fullscreenView := some handle } _⟩
  | mediaStats remoteUserId sample =>
    rw [Dialog.next, onMediaStats]
    split <;> exact untouched rfl rfl
  | _ => exact absurd aside id

/-! ### Removing a session -/

/-- `OnSessionState` says nothing, and removes no session that has not ended. -/
theorem tells_onSessionState (only : dialog.Only remoteUserId) (now : UInt64)
    (message : SessionStateMessage) :
    Tells dialog (dialog.onSessionState now message) remoteUserId [] ∧
      (dialog.onSessionState now message).standing remoteUserId =
        dialog.standing remoteUserId := by
  have noted : (dialog.noteSessionState now message).sent = dialog.sent := by
    obtain ⟨keyboardControlActive, mediaStats, same⟩ := dialog.noteSessionState_spec now message
    rw [same]
  have sent : (dialog.onSessionState now message).sent = dialog.sent := by
    rw [onSessionState]
    split
    · rfl
    simp only
    split
    · rw [collectSession]
      split
      · exact noted
      split
      · rw [sent_stopIdleCapture]
        refine Eq.trans ?_ ((sent_removeSession _ message.remoteUserId).trans noted)
        split <;> rfl
      · exact noted
    · exact noted
  rcases dialog.onSessionState_cases now message with ⟨collects, calls⟩ | ⟨-, calls⟩
  · have removed (user : ByteString) : (dialog.onSessionState now message).stance user =
        if user = message.remoteUserId then none else dialog.stance user :=
      (stance_of_sessions (sessions_of_calls calls) user).trans (stance_removeSession _ _ user)
    obtain ⟨terminal, session, present, state⟩ := collects
    have ended : dialog.stance message.remoteUserId = some session.stance := by
      rw [stance, present]
      rfl
    by_cases here : remoteUserId = message.remoteUserId
    · refine ⟨.silent only (fun user different => ?_) sent, ?_⟩
      · rw [removed, if_neg (here ▸ different)]
      · have gone : (dialog.onSessionState now message).stance remoteUserId = none := by
          rw [removed, if_pos here]
        rw [standing_of_absent gone, standing_of_present (here ▸ ended)]
        exact (standingOf_terminal (state.symm ▸ terminal) session.errand).symm
    · rw [only _ (Ne.symm here)] at ended
      cases ended
  · have same := stance_of_sessions (sessions_of_calls calls)
    exact ⟨.silent only (fun user _ => same user) sent, standing_of_stance (same remoteUserId)⟩

/-- `OnBnClickedHangup` ends the call with the active user and says so. -/
theorem tells_onBnClickedHangup (only : dialog.Only remoteUserId) (named : remoteUserId ≠ []) :
    (dialog.activeRemoteUserId = remoteUserId ∧ dialog.stance remoteUserId ≠ none) ∧
        Tells dialog dialog.onBnClickedHangup remoteUserId [false] ∧
        dialog.onBnClickedHangup.standing remoteUserId = .apart ∨
      Tells dialog dialog.onBnClickedHangup remoteUserId [] ∧
        dialog.onBnClickedHangup.standing remoteUserId = dialog.standing remoteUserId := by
  have aside {after : Dialog} (sessions : after.sessions = dialog.sessions)
      (sent : after.sent = dialog.sent) : Tells dialog after remoteUserId [] ∧
        after.standing remoteUserId = dialog.standing remoteUserId :=
    ⟨.silent only (fun user _ => stance_of_sessions sessions user) sent,
      standing_of_stance (stance_of_sessions sessions remoteUserId)⟩
  rw [onBnClickedHangup]
  simp only
  split
  · exact Or.inr (aside rfl rfl)
  split
  · exact Or.inr (aside rfl rfl)
  rename_i present
  have found : dialog.stance dialog.activeRemoteUserId ≠ none := by
    rw [stance, ne_eq, Option.map_eq_none_iff, AList.lookup_eq_none]
    exact present
  have active : dialog.activeRemoteUserId = remoteUserId := by
    by_contra other
    exact found (only _ other)
  subst active
  refine Or.inl ⟨⟨rfl, found⟩, ⟨only.of_stance fun user different => ?_,
    [CallMessage.hangup.line dialog.activeRemoteUserId], ?_, told_line _ .hangup⟩,
    standing_of_absent ?_⟩
  · rw [stance, stopIdleCapture_sessions]
    exact (stance_removeSession _ _ user).trans (if_neg different)
  · rw [sent_stopIdleCapture]
    exact sent_removeSession _ _
  · rw [stance, stopIdleCapture_sessions]
    exact (stance_removeSession _ _ _).trans (if_pos rfl)

/-! ### What a handler does to the call with a user -/

/-- A handler other than that of a signaling message. The selected user is the other one, and no
connection fails once it is set up. -/
def Local (remoteUserId : ByteString) : Action → Prop
  | .startSelectedSession _ selected => ∀ user ∈ selected, user = remoteUserId
  | .signalingMessage _ _ => False
  | .sessionEvent _ (.peerConnectionState state) => state ≠ .failed ∧ state ≠ .closed
  | _ => True

/-- A local description has been set, and it is an offer to the user. -/
def Offers (dialog : Dialog) (remoteUserId : ByteString) : Action → Prop
  | .sessionEvent user .localDescriptionSet =>
    user = remoteUserId ∧ ∃ session ∈ dialog.sessions.lookup remoteUserId,
      session.pendingSdpCallback = some (.offer remoteUserId)
  | _ => False

/-- The active call is hung up, and it is the one with the user. -/
def HangsUp (dialog : Dialog) (remoteUserId : ByteString) : Action → Prop
  | .hangup => dialog.activeRemoteUserId = remoteUserId ∧ dialog.stance remoteUserId ≠ none
  | _ => False

/-- libwebrtc fails in negotiating for the session with the user. -/
def Fails (dialog : Dialog) (remoteUserId : ByteString) : Action → Prop
  | .sessionEvent user .negotiationFailed =>
    user = remoteUserId ∧ (dialog.standing remoteUserId).held = true
  | _ => False

/-- The connection of a session that has ended is reported to live. -/
def Revives (dialog : Dialog) (remoteUserId : ByteString) : Action → Prop
  | .sessionEvent user (.peerConnectionState reported) =>
    user = remoteUserId ∧ reported ≠ .new ∧
      ∃ session ∈ dialog.sessions.lookup remoteUserId, session.state.Terminal
  | _ => False

/-- What becomes of the call with a user, and what the user is told. -/
inductive Moves (dialog after : Dialog) (remoteUserId : ByteString) (action : Action) : Prop where
  | stays (tells : Tells dialog after remoteUserId [])
      (same : after.standing remoteUserId = dialog.standing remoteUserId)
  | starts (tells : Tells dialog after remoteUserId [])
      (started : after.standing remoteUserId = ⟨true, true⟩)
  | offers (offers : dialog.Offers remoteUserId action)
      (tells : Tells dialog after remoteUserId [true])
      (told : after.standing remoteUserId = ⟨(dialog.standing remoteUserId).held, false⟩)
  | hangsUp (hangsUp : dialog.HangsUp remoteUserId action)
      (tells : Tells dialog after remoteUserId [false])
      (ended : after.standing remoteUserId = .apart)
  | fails (fails : dialog.Fails remoteUserId action) (tells : Tells dialog after remoteUserId [])
      (ended : after.standing remoteUserId = .apart)
  | revives (revives : dialog.Revives remoteUserId action)
      (tells : Tells dialog after remoteUserId [])
      (revived : ∃ session ∈ dialog.sessions.lookup remoteUserId,
        after.standing remoteUserId =
          ⟨true, decide (session.errand = (some (.offer remoteUserId), false))⟩)

section

variable {session : PeerSession SdpCallback}

theorem standing_of_lookup (present : dialog.sessions.lookup remoteUserId = some session) :
    dialog.standing remoteUserId = standingOf remoteUserId session.stance := by
  refine standing_of_present ?_
  rw [stance, present]
  rfl

theorem standing_putSession (dialog : Dialog) (remoteUserId : ByteString)
    (result : PeerSession SdpCallback × List (Output SdpCallback)) :
    (dialog.putSession remoteUserId result).standing remoteUserId =
      standingOf remoteUserId result.1.stance := by
  refine standing_of_present ?_
  rw [stance_putSession, if_pos rfl]

/-- What a callback of the session with the user tells them. -/
theorem tells_handle (only : dialog.Only remoteUserId) {event : SessionEvent} {signals : List Bool}
    (told : Told remoteUserId ((session.handle event).2.filterMap Output.signalingLine) signals) :
    Tells dialog (dialog.putSession remoteUserId (session.handle event)) remoteUserId signals :=
  ⟨only.of_stance fun user different => by rw [stance_putSession, if_neg different], _, rfl, told⟩

/-- A local description that has been set is told once, if it is an offer. -/
theorem moves_announced (only : dialog.Only remoteUserId)
    (present : dialog.sessions.lookup remoteUserId = some session)
    (bound : Bound remoteUserId session) (own : OwnCallback remoteUserId session) :
    Moves dialog (dialog.putSession remoteUserId (session.handle .localDescriptionSet))
      remoteUserId (.sessionEvent remoteUserId .localDescriptionSet) := by
  have before := standing_of_lookup present
  have after := standing_putSession dialog remoteUserId (session.handle .localDescriptionSet)
  rw [stance_announced bound] at after
  have told := tells_handle only (told_announce bound own)
  by_cases offer : session.pendingSdpCallback = some (.offer remoteUserId)
  · rw [if_pos offer] at told
    refine .offers ⟨rfl, session, present, offer⟩ told (after.trans ?_)
    rw [before, standingOf_told _ fun same =>
      Bool.false_ne_true (congrArg Prod.snd same).symm]
    rfl
  · rw [if_neg offer] at told
    have unoffered (announced : Bool) :
        (session.pendingSdpCallback, announced) ≠ (some (.offer remoteUserId), false) :=
      fun same => offer (congrArg Prod.fst same)
    refine .stays told (after.trans (before.trans ?_).symm)
    rw [standingOf_told _ (unoffered true)]
    exact standingOf_told session.state (unoffered session.localDescriptionAnnounced)

/-- What becomes of the call when libwebrtc calls back on its session. -/
theorem moves_onSessionEvent (only : dialog.Only remoteUserId)
    (present : dialog.sessions.lookup remoteUserId = some session)
    (bound : Bound remoteUserId session) (own : OwnCallback remoteUserId session)
    {event : SessionEvent} (plain : Local remoteUserId (.sessionEvent remoteUserId event)) :
    Moves dialog (dialog.putSession remoteUserId (session.handle event)) remoteUserId
      (.sessionEvent remoteUserId event) := by
  by_cases announced : event = .localDescriptionSet
  · subst announced
    exact moves_announced only present bound own
  have before := standing_of_lookup present
  have after := standing_putSession dialog remoteUserId (session.handle event)
  have told := tells_handle only (told_handle bound announced)
  by_cases failed : event = .negotiationFailed
  · subst failed
    have ended := after.trans ((congrArg _ (stance_failed bound)).trans
      (standingOf_terminal (Or.inl rfl) _))
    by_cases held : (dialog.standing remoteUserId).held = true
    · exact .fails ⟨rfl, held⟩ told ended
    · rw [Bool.not_eq_true, before] at held
      exact .stays told (ended.trans (before.trans (standingOf_not_held held)).symm)
  by_cases reports : ∃ reported, event = .peerConnectionState reported
  · obtain ⟨reported, rfl⟩ := reports
    rcases stance_reported plain.1 plain.2 with same | ⟨moved, state, lively, entered⟩
    · exact .stays told (after.trans ((congrArg _ same).trans before.symm))
    rw [entered, standingOf_lively lively] at after
    by_cases terminal : session.state.Terminal
    · exact .revives ⟨rfl, moved, session, present, terminal⟩ told ⟨session, present, after⟩
    · refine .stays told (after.trans (before.trans ?_).symm)
      exact standingOf_lively terminal session.errand
  · refine .stays told ?_
    rw [after, before, stance_handle announced failed (not_exists.mp reports)]

end

/-- Every handler but that of a signaling message is one of these moves. -/
theorem moves_next (only : dialog.Only remoteUserId) (named : remoteUserId ≠ [])
    (allBound : dialog.AllBound) (own : dialog.OwnCallbacks) {action : Action}
    (plain : Local remoteUserId action) :
    Moves dialog (dialog.next action) remoteUserId action := by
  by_cases aside : Aside action
  · obtain ⟨same, sent⟩ := dialog.next_of_aside aside
    exact .stays (.silent only (fun user _ => same user) sent)
      (standing_of_stance (same remoteUserId))
  cases action with
  | startSelectedSession outcomes selected =>
    rcases tells_startSelectedSession only outcomes plain with ⟨tells, same | ⟨-, started⟩⟩
    · exact .stays tells (standing_of_stance same)
    · refine .starts tells ((standing_of_present started).trans ?_)
      simp [standingOf, PeerSessionState.Terminal]
  | sessionState now position =>
    rw [Dialog.next]
    split
    · exact .stays (.silent only (fun _ _ => rfl) rfl) rfl
    · rename_i message found
      have onlyTaken : (dialog.taken (.sessionState now position)).Only remoteUserId := only
      obtain ⟨tells, same⟩ := tells_onSessionState onlyTaken now message
      exact .stays ⟨tells.only, tells.told⟩ same
  | hangup =>
    rcases tells_onBnClickedHangup only named with ⟨hangsUp, tells, ended⟩ | ⟨tells, same⟩
    · exact .hangsUp hangsUp tells ended
    · exact .stays tells same
  | sessionEvent user event =>
    rw [Dialog.next, onSessionEvent]
    split
    · exact .stays (.silent only (fun _ _ => rfl) rfl) rfl
    · rename_i session present
      have here : user = remoteUserId := by
        by_contra other
        have absent := only user other
        rw [stance, present] at absent
        cases absent
      subst here
      exact moves_onSessionEvent only present (allBound _ _ present) (own _ _ present) plain
  | signalingMessage outcomes json => exact absurd plain id
  | _ => exact absurd trivial aside

/-! ### Lines that arrive -/

/-- An offer of the user can be answered: there is a session or one can be made, and so can the
local media. -/
def CanAnswer (dialog : Dialog) (outcomes : Outcomes) (remoteUserId : ByteString) : Prop :=
  (dialog.stance remoteUserId ≠ none ∨ outcomes.peerConnection = true) ∧
    dialog.videoReady outcomes = true ∧ dialog.audioReady outcomes = true

instance (dialog : Dialog) (outcomes : Outcomes) (remoteUserId : ByteString) :
    Decidable (dialog.CanAnswer outcomes remoteUserId) :=
  inferInstanceAs (Decidable ((_ ∨ _) ∧ _ ∧ _))

/-- What becomes of the call with a user when a line arrives. -/
inductive Hears (dialog after : Dialog) (outcomes : Outcomes) (remoteUserId : ByteString) :
    Option Bool → Prop where
  | passes (same : after.standing remoteUserId = dialog.standing remoteUserId) :
      Hears dialog after outcomes remoteUserId none
  | answers (possible : dialog.CanAnswer outcomes remoteUserId)
      (answered : after.standing remoteUserId = ⟨true, false⟩) :
      Hears dialog after outcomes remoteUserId (some true)
  | refuses (impossible : ¬ dialog.CanAnswer outcomes remoteUserId)
      (refused : after.standing remoteUserId = .apart) :
      Hears dialog after outcomes remoteUserId (some true)
  | ends (ended : after.standing remoteUserId = .apart) :
      Hears dialog after outcomes remoteUserId (some false)

theorem stance_eq_none {dialog : Dialog} {user : ByteString} :
    dialog.stance user = none ↔ dialog.sessions.lookup user = none :=
  Option.map_eq_none_iff

/-- An offer is answered if it can be, and leaves no session if it cannot. -/
theorem hears_onOffer (only : dialog.Only remoteUserId) (named : remoteUserId ≠ [])
    (allBound : dialog.AllBound) (outcomes : Outcomes) (sdp : ByteString) :
    Tells dialog (dialog.onOffer outcomes remoteUserId sdp) remoteUserId [] ∧
      Hears dialog (dialog.onOffer outcomes remoteUserId sdp) outcomes remoteUserId
        (some true) := by
  rcases dialog.onOffer_cases outcomes named sdp with
    ⟨absent, failed, result⟩ | ⟨session, answers, ⟨failed, result⟩ | ⟨ready, result⟩⟩
  · rw [result]
    refine ⟨.silent only (fun _ _ => rfl) rfl,
      .refuses ?_ (standing_of_absent (stance_eq_none.mpr absent))⟩
    rintro ⟨present | made, -⟩
    · exact present (stance_eq_none.mpr absent)
    · cases failed.symm.trans made
  all_goals
    have connected : session.peerConnection = true := by
      rcases answers with present | ⟨-, -, rfl⟩
      · exact (allBound _ _ present).connected
      · rfl
    have media := (dialog.configureLocalMedia_captures outcomes connected).2.2
    rw [result]
  · rw [failed] at media
    refine ⟨.silent only (fun user different => ?_) ?_, .refuses ?_ (standing_of_absent ?_)⟩
    · rw [stance_removeSession, if_neg different, stance_configureLocalMedia]
    · rw [sent_removeSession, sent_configureLocalMedia]
    · rintro ⟨-, video, audio⟩
      rw [video, audio] at media
      cases media
    · rw [stance_removeSession, if_pos rfl]
  · rw [ready] at media
    have owned := prepareSession_connected dialog remoteUserId connected
    have answered := standing_of_present ((stance_putSession
      (dialog.configureLocalMedia outcomes session dialog.mediaOptions).1 remoteUserId remoteUserId
      ((dialog.prepareSession session remoteUserId).applyRemoteOffer sdp
        (.answer remoteUserId))).trans (if_pos rfl))
    refine ⟨.silent only (fun user different => ?_) ?_,
      .answers ⟨?_, Bool.and_eq_true_iff.mp media.symm⟩ (answered.trans ?_)⟩
    · rw [stance_putSession, if_neg different, stance_configureLocalMedia]
    · rw [sent_putSession _ _ (PeerSession.quiet_applyRemoteOffer _ _ _),
        sent_configureLocalMedia]
    · rcases answers with present | ⟨-, made, -⟩
      · refine Or.inl ?_
        rw [stance, present]
        exact Option.some_ne_none _
      · exact Or.inr made
    · rw [stance_applyRemoteOffer owned, standingOf_lively (by decide)]
      rfl

/-- A hangup ends the call. -/
theorem hears_onHangup (only : dialog.Only remoteUserId) (outcomes : Outcomes) :
    Tells dialog (dialog.onHangup remoteUserId) remoteUserId [] ∧
      Hears dialog (dialog.onHangup remoteUserId) outcomes remoteUserId (some false) := by
  refine ⟨.silent only (fun user different => ?_) ?_, .ends (standing_of_absent ?_)⟩
  · rw [onHangup, stance, stopIdleCapture_sessions]
    exact (stance_removeSession _ _ user).trans (if_neg different)
  · rw [onHangup, sent_stopIdleCapture]
    exact sent_removeSession _ _
  · rw [onHangup, stance, stopIdleCapture_sessions]
    exact (stance_removeSession _ _ _).trans (if_pos rfl)

/-- Whom the user looks at has no part in the call. -/
theorem Hears.of_activate (user : ByteString) {outcomes : Outcomes} {told : Option Bool}
    (hears : Tells (dialog.activate user) after remoteUserId [] ∧
      Hears (dialog.activate user) after outcomes remoteUserId told) :
    Tells dialog after remoteUserId [] ∧ Hears dialog after outcomes remoteUserId told := by
  obtain ⟨keyboardControlActive, mediaStats, same⟩ := dialog.activate_spec user
  rw [same] at hears
  refine ⟨⟨hears.1.only, hears.1.told⟩, ?_⟩
  cases hears.2 with
  | passes same => exact .passes same
  | answers possible answered => exact .answers possible answered
  | refuses impossible refused => exact .refuses impossible refused
  | ends ended => exact .ends ended

theorem stance_addRemoteCandidate (session : PeerSession SdpCallback) (item : IceCandidate) :
    (session.addRemoteCandidate item).1.stance = session.stance := by
  rw [PeerSession.addRemoteCandidate]
  split
  · rfl
  · split <;> rfl

/-- A handler that changes nothing about the calls. -/
theorem hears_nothing (only : dialog.Only remoteUserId) (outcomes : Outcomes)
    (same : ∀ user, after.stance user = dialog.stance user) (sent : after.sent = dialog.sent) :
    Tells dialog after remoteUserId [] ∧ Hears dialog after outcomes remoteUserId none :=
  ⟨.silent only (fun user _ => same user) sent, .passes (standing_of_stance (same remoteUserId))⟩

theorem sent_emit_applyRemoteAnswer (dialog : Dialog) (session : PeerSession SdpCallback)
    (sdp : ByteString) : (dialog.emit (session.applyRemoteAnswer sdp)).sent = dialog.sent := by
  show dialog.sent ++ _ = dialog.sent
  rw [lines_of_quiet (session.quiet_applyRemoteAnswer sdp), List.append_nil]

/-- A candidate leaves its session as far as it is. -/
theorem stance_putSession_addRemoteCandidate {user : ByteString}
    {session : PeerSession SdpCallback} (present : dialog.sessions.lookup user = some session)
    (item : IceCandidate) (other : ByteString) :
    (dialog.putSession user (session.addRemoteCandidate item)).stance other =
      dialog.stance other := by
  rw [stance_putSession]
  split
  · rename_i same
    rw [stance_addRemoteCandidate, stance, same, present]
    rfl
  · rfl

/-- `DispatchSignalingMessage` answers offers, ends calls, and says nothing by itself. -/
theorem hears_dispatch (only : dialog.Only remoteUserId) (named : remoteUserId ≠ [])
    (allBound : dialog.AllBound) (outcomes : Outcomes) {json : ByteString}
    (sender : signal json ≠ none →
      SignalingProtocol.stringField json (bytes "fromUserId") = remoteUserId) :
    Tells dialog (dialog.dispatchSignalingMessage outcomes json) remoteUserId [] ∧
      Hears dialog (dialog.dispatchSignalingMessage outcomes json) outcomes remoteUserId
        (signal json) := by
  rw [dispatchSignalingMessage]
  simp only
  split
  · rename_i type
    rw [signal_of_type type (by decide) (by decide)]
    exact hears_nothing only outcomes (fun _ => rfl) rfl
  split
  · rename_i type
    rw [signal_of_type type (by decide) (by decide)]
    exact hears_nothing only outcomes (fun _ => rfl) rfl
  split
  · rename_i unnamed
    have nothing : signal json = none := by
      by_contra something
      exact named ((sender something).symm.trans unnamed)
    rw [nothing]
    exact hears_nothing only outcomes (fun _ => rfl) rfl
  generalize SignalingProtocol.stringField json (bytes "fromUserId") = user at sender ⊢
  have onlyActive : (dialog.activate user).Only remoteUserId :=
    only.of_stance fun other _ => stance_activate _ _ other
  have boundActive : (dialog.activate user).AllBound := by
    rwa [AllBound, activate_sessions]
  refine Hears.of_activate user ?_
  split
  · rename_i type
    have tells : signal json = some true := by
      rw [signal, if_pos type]
    have here := sender (by rw [tells]; exact Option.some_ne_none true)
    subst here
    rw [tells]
    exact hears_onOffer onlyActive named boundActive outcomes _
  rename_i notOffer
  split
  · rename_i type
    rw [signal_of_type type (by decide) (by decide)]
    split
    · exact hears_nothing onlyActive outcomes (fun _ => rfl) rfl
    · exact hears_nothing onlyActive outcomes (fun _ => rfl) (sent_emit_applyRemoteAnswer _ _ _)
  split
  · rename_i type
    rw [signal_of_type type (by decide) (by decide)]
    split
    · exact hears_nothing onlyActive outcomes (fun _ => rfl) rfl
    · rename_i session present
      exact hears_nothing onlyActive outcomes (stance_putSession_addRemoteCandidate present _)
        (sent_putSession _ _ (session.quiet_addRemoteCandidate _))
  split
  · rename_i type
    have tells : signal json = some false := by
      rw [signal, if_neg notOffer, if_pos type]
    have here := sender (by rw [tells]; exact Option.some_ne_none false)
    subst here
    rw [tells]
    exact hears_onHangup onlyActive outcomes
  · rename_i notHangup
    rw [signal_of_type rfl notOffer notHangup]
    exact hears_nothing onlyActive outcomes (fun _ => rfl) rfl

end

end Dialog

end RemoteControl.Peer

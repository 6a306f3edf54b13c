/-
This file says once what the handlers of the dialog can do to the calls: to the
sessions and to the messages posted about them. A session that a failed set-up
leaves behind was never bound to the dialog, so taking it back restores the
dialog; what remains is that a handler treats one session, removes one, or
leaves all of them alone.
-/

import RemoteControl.Peer.Callbacks
import RemoteControl.Peer.Sessions

namespace RemoteControl.Peer

namespace Dialog

/-! ### Sessions that are not bound -/

section

variable (dialog : Dialog)

@[simp]
theorem emit_nil : dialog.emit [] = dialog := by
  simp only [emit, List.filterMap_nil, List.append_nil]

/-- A session that is not bound to the dialog reports nothing. -/
theorem updateState_of_unbound {session : PeerSession SdpCallback}
    (unbound : session.stateChangedCallback = false) (state : PeerSessionState) :
    (session.updateState state).2 = [] := by
  rw [PeerSession.updateState]
  split
  · rfl
  · rw [unbound]
    rfl

theorem close_of_unbound {session : PeerSession SdpCallback}
    (unbound : session.stateChangedCallback = false) : session.close.2 = [] := by
  rw [PeerSession.close]
  split
  · rfl
  · simp only
    split
    · rfl
    · refine updateState_of_unbound ?_ _
      exact unbound

/-- Of two stores for one user the second counts. -/
theorem putSession_putSession (remoteUserId : ByteString) (session : PeerSession SdpCallback)
    (result : PeerSession SdpCallback × List (Output SdpCallback)) :
    (dialog.putSession remoteUserId (session, [])).putSession remoteUserId result =
      dialog.putSession remoteUserId result := by
  unfold putSession
  simp only [emit_nil, AList.insert_insert]

/-- A fresh session that is taken back leaves no trace. -/
theorem removeSession_putSession {dialog : Dialog} {remoteUserId : ByteString}
    (absent : dialog.sessions.lookup remoteUserId = none) {session : PeerSession SdpCallback}
    (unbound : session.stateChangedCallback = false) :
    (dialog.putSession remoteUserId (session, [])).removeSession remoteUserId = dialog := by
  have stored : (dialog.putSession remoteUserId (session, [])).sessions.lookup remoteUserId =
      some session := AList.lookup_insert _
  rw [removeSession_of_present stored, close_of_unbound unbound, emit_nil, putSession, emit_nil]
  simp only
  rw [Table.erase_insert_of_notMem (AList.lookup_eq_none.mp absent)]

/-- Setting up the local media does not look at the sessions. -/
theorem configureLocalMedia_putSession (outcomes : Outcomes) (session : PeerSession SdpCallback)
    (options : MediaOptions) (remoteUserId : ByteString)
    (result : PeerSession SdpCallback × List (Output SdpCallback)) :
    (dialog.putSession remoteUserId result).configureLocalMedia outcomes session options =
      ((dialog.configureLocalMedia outcomes session options).1.putSession remoteUserId result,
        (dialog.configureLocalMedia outcomes session options).2) := by
  unfold configureLocalMedia
  cases options.sendVideo with
  | false => cases options.sendAudio <;> rfl
  | true =>
    simp only [if_true]
    split
    · rename_i failed
      rw [if_pos (show (dialog.configureVideo outcomes session).2 = false from failed)]
      rfl
    · rename_i configured
      rw [if_neg (show ¬ (dialog.configureVideo outcomes session).2 = false from configured)]
      cases options.sendAudio <;> rfl

/-- A session is prepared with the consent of the check box, whatever else the dialog holds. -/
theorem prepareSession_configureLocalMedia (outcomes : Outcomes)
    (configured session : PeerSession SdpCallback) (options : MediaOptions)
    (remoteUserId : ByteString) :
    (dialog.configureLocalMedia outcomes configured options).1.prepareSession session
      remoteUserId = dialog.prepareSession session remoteUserId := by
  rw [prepareSession, prepareSession, configureLocalMedia_allowControlCheck]

end

/-! ### How a call is set up -/

/-- Everything that can succeed does. -/
def Outcomes.success : Outcomes where
  peerConnection := true
  dataChannel := true
  screen := true
  videoTrack := true
  microphone := true
  audioTrack := true

section

variable (dialog : Dialog)

/-- A fresh session with the control channel the caller makes. -/
def callingSession (remoteUserId : ByteString) (options : MediaOptions) :
    PeerSession SdpCallback :=
  ((freshSession remoteUserId options).createControlChannel true).1

/-- A call can be started: it is to a user without session, and libwebrtc makes the peer
connection and the data channel. -/
def CanStart (outcomes : Outcomes) (remoteUserId : ByteString) : Prop :=
  remoteUserId ≠ [] ∧ dialog.sessions.lookup remoteUserId = none ∧
    outcomes.peerConnection = true ∧ outcomes.dataChannel = true

/-- `CreateSession` refuses the empty user, a second session and a missing peer connection. -/
theorem createSession_refused {created : Bool} {remoteUserId : ByteString}
    (refused : remoteUserId = [] ∨ dialog.sessions.lookup remoteUserId ≠ none ∨ created = false)
    (options : MediaOptions) :
    dialog.createSession created remoteUserId options = (dialog, none) := by
  rw [createSession]
  split
  · rfl
  · rename_i fresh
    rw [not_or, ← AList.lookup_eq_none] at fresh
    rcases refused with unnamed | present | rfl
    · exact absurd unnamed fresh.1
    · exact absurd fresh.2 present
    · show (dialog.emit (PeerSession.create { remoteUserId, options } false).1.2, none) = _
      have failed : ((PeerSession.create { remoteUserId, options } false).1.2 :
          List (Output SdpCallback)) = [] := rfl
      rw [failed, emit_nil]

/-- Otherwise it stores a fresh session. -/
theorem createSession_made {dialog : Dialog} {remoteUserId : ByteString}
    (named : remoteUserId ≠ []) (absent : dialog.sessions.lookup remoteUserId = none)
    (options : MediaOptions) :
    dialog.createSession true remoteUserId options =
      (dialog.putSession remoteUserId (freshSession remoteUserId options, []),
        some (freshSession remoteUserId options)) := by
  rw [createSession, if_neg]
  · rfl
  · rintro (unnamed | present)
    · exact named unnamed
    · exact AList.lookup_eq_none.mp absent present

/-- A negotiation with a session that was just stored takes it back or prepares it. -/
theorem negotiate_putSession {dialog : Dialog} {remoteUserId : ByteString}
    (absent : dialog.sessions.lookup remoteUserId = none) (outcomes : Outcomes)
    (options : MediaOptions) {session : PeerSession SdpCallback}
    (unbound : session.stateChangedCallback = false)
    (start : PeerSession SdpCallback → PeerSession SdpCallback × List (Output SdpCallback)) :
    (dialog.putSession remoteUserId (session, [])).negotiate outcomes options remoteUserId
        session start =
      if (dialog.configureLocalMedia outcomes session options).2 = false then
        (dialog.configureLocalMedia outcomes session options).1
      else
        (dialog.configureLocalMedia outcomes session options).1.putSession remoteUserId
          (start (dialog.prepareSession session remoteUserId)) := by
  rw [negotiate, configureLocalMedia_putSession]
  simp only
  split
  · refine removeSession_putSession ?_ unbound
    rwa [configureLocalMedia_sessions]
  · rw [putSession_putSession]
    congr 2
    exact dialog.prepareSession_configureLocalMedia outcomes session session options remoteUserId

/-- How `StartSelectedSession` ends: there is no call to make, the local media are missing, or
an offer is asked for. -/
theorem startSelectedSession_cases (outcomes : Outcomes) (remoteUserId : ByteString) :
    let active := dialog.activate remoteUserId
    let session := callingSession remoteUserId active.mediaOptions
    let configured := active.configureLocalMedia outcomes session active.mediaOptions
    ¬ dialog.CanStart outcomes remoteUserId ∧
        dialog.startSelectedSession outcomes (some remoteUserId) = active ∨
      dialog.CanStart outcomes remoteUserId ∧ configured.2 = false ∧
        dialog.startSelectedSession outcomes (some remoteUserId) = configured.1 ∨
      dialog.CanStart outcomes remoteUserId ∧ configured.2 = true ∧
        dialog.startSelectedSession outcomes (some remoteUserId) =
          configured.1.putSession remoteUserId
            ((active.prepareSession session remoteUserId).createOffer (.offer remoteUserId)) := by
  intro active session configured
  by_cases possible : dialog.CanStart outcomes remoteUserId
  · refine Or.inr ?_
    obtain ⟨named, absent, made, channel⟩ := possible
    have missing : active.sessions.lookup remoteUserId = none := by
      rwa [activate_sessions]
    have result : dialog.startSelectedSession outcomes (some remoteUserId) =
        if configured.2 = false then configured.1
        else configured.1.putSession remoteUserId
          ((active.prepareSession session remoteUserId).createOffer (.offer remoteUserId)) := by
      rw [Dialog.startSelectedSession, made, createSession_made named missing]
      simp only
      rw [channel, if_neg (by rintro ⟨-, failed⟩; cases failed), putSession_putSession]
      exact negotiate_putSession missing outcomes active.mediaOptions rfl _
    by_cases failed : configured.2 = false
    · exact Or.inl ⟨⟨named, absent, made, channel⟩, failed, by rw [result, if_pos failed]⟩
    · refine Or.inr ⟨⟨named, absent, made, channel⟩, Bool.not_eq_false _ ▸ failed, ?_⟩
      rw [result, if_neg failed]
  · refine Or.inl ⟨possible, ?_⟩
    rw [Dialog.startSelectedSession]
    by_cases fresh : remoteUserId ≠ [] ∧ dialog.sessions.lookup remoteUserId = none ∧
        outcomes.peerConnection = true
    · obtain ⟨named, absent, made⟩ := fresh
      have missing : active.sessions.lookup remoteUserId = none := by
        rwa [activate_sessions]
      have unready : outcomes.dataChannel = false :=
        Bool.not_eq_true _ ▸ fun channel => possible ⟨named, absent, made, channel⟩
      rw [made, createSession_made named missing, unready]
      simp only
      rw [if_pos ⟨rfl, rfl⟩, putSession_putSession]
      exact removeSession_putSession missing rfl
    · rw [createSession_refused]
      rw [activate_sessions]
      by_cases unnamed : remoteUserId = []
      · exact Or.inl unnamed
      · by_cases absent : dialog.sessions.lookup remoteUserId = none
        · exact Or.inr (Or.inr (Bool.not_eq_true _ ▸ fun made => fresh ⟨unnamed, absent, made⟩))
        · exact Or.inr (Or.inl absent)

/-- The session an offer is answered with: the one there is, or a fresh one. -/
def Answers (outcomes : Outcomes) (remoteUserId : ByteString)
    (session : PeerSession SdpCallback) : Prop :=
  dialog.sessions.lookup remoteUserId = some session ∨
    dialog.sessions.lookup remoteUserId = none ∧ outcomes.peerConnection = true ∧
      session = freshSession remoteUserId dialog.mediaOptions

/-- How an offer ends: there is no session to answer with, the local media are missing, or an
answer is prepared. -/
theorem onOffer_cases (outcomes : Outcomes) {remoteUserId : ByteString}
    (named : remoteUserId ≠ []) (sdp : ByteString) :
    dialog.sessions.lookup remoteUserId = none ∧ outcomes.peerConnection = false ∧
        dialog.onOffer outcomes remoteUserId sdp = dialog ∨
      ∃ session, dialog.Answers outcomes remoteUserId session ∧
        let configured := dialog.configureLocalMedia outcomes session dialog.mediaOptions
        (configured.2 = false ∧ dialog.onOffer outcomes remoteUserId sdp =
            configured.1.removeSession remoteUserId ∨
          configured.2 = true ∧ dialog.onOffer outcomes remoteUserId sdp =
            configured.1.putSession remoteUserId
              ((dialog.prepareSession session remoteUserId).applyRemoteOffer sdp
                (.answer remoteUserId))) := by
  rw [Dialog.onOffer, sessionForOffer]
  cases present : dialog.sessions.lookup remoteUserId with
  | some session =>
    refine Or.inr ⟨session, Or.inl present, ?_⟩
    simp only [negotiate]
    split
    · rename_i failed
      exact Or.inl ⟨failed, rfl⟩
    · rename_i configured
      refine Or.inr ⟨Bool.not_eq_false _ ▸ configured, ?_⟩
      rw [prepareSession_configureLocalMedia]
  | none =>
    cases made : outcomes.peerConnection with
    | false =>
      refine Or.inl ⟨rfl, rfl, ?_⟩
      rw [createSession_refused _ (Or.inr (Or.inr rfl))]
    | true =>
      refine Or.inr ⟨freshSession remoteUserId dialog.mediaOptions,
        Or.inr ⟨present, made, rfl⟩, ?_⟩
      have missing : (dialog.configureLocalMedia outcomes
          (freshSession remoteUserId dialog.mediaOptions) dialog.mediaOptions).1.sessions.lookup
            remoteUserId = none := by
        rwa [configureLocalMedia_sessions]
      rw [createSession_made named present]
      simp only
      rw [negotiate_putSession present _ _ rfl]
      split
      · rename_i failed
        exact Or.inl ⟨failed, (removeSession_of_absent missing).symm⟩
      · rename_i configured
        exact Or.inr ⟨Bool.not_eq_false _ ▸ configured, rfl⟩

end

/-! ### What a handler does to the calls -/

/-- The sessions, the messages posted about them, and the fullscreen view. -/
def calls (dialog : Dialog) :
    Table ByteString (PeerSession SdpCallback) × List SessionStateMessage × Option Nat :=
  (dialog.sessions, dialog.posted, dialog.fullscreenView)

/-- What a handler other than that of the fullscreen view makes of one session. -/
inductive Treated (dialog : Dialog) (remoteUserId : ByteString) :
    PeerSession SdpCallback × List (Output SdpCallback) → Prop where
  | handled {session : PeerSession SdpCallback}
    (present : dialog.sessions.lookup remoteUserId = some session) (event : SessionEvent) :
    Treated dialog remoteUserId (session.handle event)
  | candidate {session : PeerSession SdpCallback}
    (present : dialog.sessions.lookup remoteUserId = some session) (item : IceCandidate) :
    Treated dialog remoteUserId (session.addRemoteCandidate item)
  | offered (named : remoteUserId ≠ []) (owner : Dialog) (options : MediaOptions) :
    Treated dialog remoteUserId
      ((owner.prepareSession (callingSession remoteUserId options) remoteUserId).createOffer
        (.offer remoteUserId))
  | answered (named : remoteUserId ≠ []) (owner : Dialog) {session : PeerSession SdpCallback}
    (found : dialog.sessions.lookup remoteUserId = some session ∨
      ∃ options, session = freshSession remoteUserId options) (sdp : ByteString) :
    Treated dialog remoteUserId
      ((owner.prepareSession session remoteUserId).applyRemoteOffer sdp (.answer remoteUserId))

/-- A handler leaves the calls alone, stores a session it treated, removes a session, or passes
the consent on to all of them. -/
inductive Effect (dialog after : Dialog) : Prop where
  | aside (same : after.calls = dialog.calls)
  | stored (remoteUserId : ByteString)
    {result : PeerSession SdpCallback × List (Output SdpCallback)}
    (treated : Treated dialog remoteUserId result)
    (same : after.calls = (dialog.putSession remoteUserId result).calls)
  | removed (remoteUserId : ByteString)
    (same : after.calls = (dialog.removeSession remoteUserId).calls)
  | allowed (checked : Bool)
    (same : after.calls = (dialog.setRemoteControlAuthorized checked).calls)

section

variable {dialog other : Dialog}

theorem sessions_of_calls (same : other.calls = dialog.calls) :
    other.sessions = dialog.sessions := congrArg Prod.fst same

theorem calls_activate (dialog : Dialog) (remoteUserId : ByteString) :
    (dialog.activate remoteUserId).calls = dialog.calls := by
  rw [activate]
  split <;> rfl

theorem calls_stopIdleCapture (dialog : Dialog) : dialog.stopIdleCapture.calls = dialog.calls := by
  rw [stopIdleCapture]
  split <;> rfl

theorem calls_configureLocalMedia (dialog : Dialog) (outcomes : Outcomes)
    (session : PeerSession SdpCallback) (options : MediaOptions) :
    (dialog.configureLocalMedia outcomes session options).1.calls = dialog.calls := by
  obtain ⟨desktopCapture, microphone, same⟩ :=
    dialog.configureLocalMedia_spec outcomes session options
  rw [same]
  rfl

theorem calls_noteSessionState (dialog : Dialog) (now : UInt64) (message : SessionStateMessage) :
    (dialog.noteSessionState now message).calls = dialog.calls := by
  obtain ⟨keyboardControlActive, mediaStats, same⟩ := dialog.noteSessionState_spec now message
  rw [same]
  rfl

/-- What is stored, removed or passed on depends on nothing but the calls. -/
theorem calls_putSession (same : other.calls = dialog.calls) (remoteUserId : ByteString)
    (result : PeerSession SdpCallback × List (Output SdpCallback)) :
    (other.putSession remoteUserId result).calls =
      (dialog.putSession remoteUserId result).calls := by
  rw [calls, calls, Prod.mk.injEq, Prod.mk.injEq] at same
  simp only [calls, putSession, emit, same]

theorem calls_removeSession (same : other.calls = dialog.calls) (remoteUserId : ByteString) :
    (other.removeSession remoteUserId).calls = (dialog.removeSession remoteUserId).calls := by
  have sessions := sessions_of_calls same
  cases present : dialog.sessions.lookup remoteUserId with
  | none => rw [removeSession_of_absent present, removeSession_of_absent (sessions ▸ present), same]
  | some session =>
    rw [removeSession_of_present present, removeSession_of_present (sessions ▸ present)]
    rw [calls, calls, Prod.mk.injEq, Prod.mk.injEq] at same
    simp only [calls, emit, same]

theorem Treated.of_sessions {remoteUserId : ByteString}
    {result : PeerSession SdpCallback × List (Output SdpCallback)}
    (treated : Treated other remoteUserId result) (same : other.sessions = dialog.sessions) :
    Treated dialog remoteUserId result := by
  cases treated with
  | handled present event => exact .handled (same ▸ present) event
  | candidate present item => exact .candidate (same ▸ present) item
  | offered named owner options => exact .offered named owner options
  | answered named owner found sdp => exact .answered named owner (same ▸ found) sdp

theorem Effect.of_calls {after : Dialog} (effect : Effect other after)
    (same : other.calls = dialog.calls) : Effect dialog after := by
  cases effect with
  | aside unchanged => exact .aside (unchanged.trans same)
  | stored remoteUserId treated stored =>
    exact .stored remoteUserId (treated.of_sessions (sessions_of_calls same))
      (stored.trans (calls_putSession same remoteUserId _))
  | removed remoteUserId removed =>
    exact .removed remoteUserId (removed.trans (calls_removeSession same remoteUserId))
  | allowed checked allowed =>
    refine .allowed checked (allowed.trans ?_)
    rw [calls, calls, Prod.mk.injEq, Prod.mk.injEq] at same
    simp only [calls, setRemoteControlAuthorized, same]

end

/-! ### Every handler -/

section

variable (dialog : Dialog)

theorem effect_startSelectedSession (outcomes : Outcomes) (selected : Option ByteString) :
    Effect dialog (dialog.startSelectedSession outcomes selected) := by
  cases selected with
  | none => exact .aside rfl
  | some remoteUserId =>
    have active := dialog.calls_activate remoteUserId
    rcases dialog.startSelectedSession_cases outcomes remoteUserId with
      ⟨-, result⟩ | ⟨-, -, result⟩ | ⟨possible, -, result⟩
    · exact .aside (result ▸ active)
    · rw [result]
      exact .aside ((calls_configureLocalMedia _ _ _ _).trans active)
    · rw [result]
      refine .stored remoteUserId (.offered possible.1 (dialog.activate remoteUserId)
        (dialog.activate remoteUserId).mediaOptions) ?_
      exact calls_putSession ((calls_configureLocalMedia _ _ _ _).trans active) _ _

theorem effect_onOffer (outcomes : Outcomes) {remoteUserId : ByteString}
    (named : remoteUserId ≠ []) (sdp : ByteString) :
    Effect dialog (dialog.onOffer outcomes remoteUserId sdp) := by
  rcases dialog.onOffer_cases outcomes named sdp with
    ⟨-, -, result⟩ | ⟨session, answers, ⟨-, result⟩ | ⟨-, result⟩⟩
  · exact .aside (by rw [result])
  · rw [result]
    exact .removed remoteUserId (calls_removeSession (calls_configureLocalMedia _ _ _ _) _)
  · rw [result]
    have found : dialog.sessions.lookup remoteUserId = some session ∨
        ∃ options, session = freshSession remoteUserId options :=
      answers.imp_right fun fresh => ⟨_, fresh.2.2⟩
    exact .stored remoteUserId (.answered named dialog found sdp)
      (calls_putSession (calls_configureLocalMedia _ _ _ _) _ _)

theorem effect_onHangup (remoteUserId : ByteString) :
    Effect dialog (dialog.onHangup remoteUserId) :=
  .removed remoteUserId (calls_stopIdleCapture _)

/-- A line with an answer only makes a request of libwebrtc. -/
theorem calls_emit_applyRemoteAnswer (session : PeerSession SdpCallback) (sdp : ByteString) :
    (dialog.emit (session.applyRemoteAnswer sdp)).calls = dialog.calls := by
  rw [PeerSession.applyRemoteAnswer]
  split
  · show (dialog.sessions, dialog.posted ++ [], dialog.fullscreenView) = dialog.calls
    rw [List.append_nil]
    rfl
  · rw [emit_nil]

theorem effect_dispatchSignalingMessage (outcomes : Outcomes) (json : ByteString) :
    Effect dialog (dialog.dispatchSignalingMessage outcomes json) := by
  rw [dispatchSignalingMessage]
  simp only
  split
  · exact .aside rfl
  split
  · exact .aside rfl
  split
  · exact .aside rfl
  rename_i named
  generalize SignalingProtocol.stringField json (bytes "fromUserId") = remoteUserId at named ⊢
  refine Effect.of_calls ?_ (dialog.calls_activate remoteUserId)
  split
  · exact effect_onOffer _ outcomes named _
  split
  · split
    · exact .aside rfl
    · exact .aside (calls_emit_applyRemoteAnswer _ _ _)
  split
  · split
    · exact .aside rfl
    · rename_i session present
      exact .stored remoteUserId (.candidate present _) rfl
  split
  · exact effect_onHangup _ remoteUserId
  · exact .aside rfl

theorem effect_onSessionState (now : UInt64) (message : SessionStateMessage) :
    Effect dialog (dialog.onSessionState now message) := by
  have noted := dialog.calls_noteSessionState now message
  rw [onSessionState]
  split
  · exact .aside rfl
  simp only
  split
  · refine Effect.of_calls ?_ noted
    rw [collectSession]
    split
    · exact .aside rfl
    split
    · refine .removed message.remoteUserId ((calls_stopIdleCapture _).trans ?_)
      split <;> rfl
    · exact .aside rfl
  · exact .aside noted

/-- What a hangup does besides removing the session. -/
theorem calls_hungUp (dialog : Dialog) :
    (Dialog.clearView { dialog.stopRecording with
      activeRemoteUserId := [] }).resetMediaStats.calls = dialog.calls := rfl

theorem effect_onBnClickedHangup : Effect dialog dialog.onBnClickedHangup := by
  rw [onBnClickedHangup]
  simp only
  split
  · exact .aside rfl
  split
  · exact .aside rfl
  · have removed : (Dialog.removeSession { dialog.setKeyboardControlActive false with
        sent := dialog.sent ++ [SignalingProtocol.hangup dialog.activeRemoteUserId] }
          dialog.activeRemoteUserId).calls =
        (dialog.removeSession dialog.activeRemoteUserId).calls := by
      refine calls_removeSession ?_ _
      rfl
    exact .removed dialog.activeRemoteUserId
      ((calls_stopIdleCapture _).trans ((calls_hungUp _).trans removed))

/-- The state a handler of a posted message starts in: the message is taken from the queue. -/
def taken (action : Action) : Dialog :=
  match action with
  | .sessionState _ position => { dialog with posted := dialog.posted.eraseIdx position }
  | _ => dialog

/-- Every handler but that of the fullscreen view has one of the effects. -/
theorem effect_next {action : Action} (windowed : ∀ created, action ≠ .toggleFullscreen created) :
    Effect (dialog.taken action) (dialog.next action) := by
  cases action with
  | allowControl checked => exact .allowed checked rfl
  | mediaChecks sendVideo receiveVideo sendAudio receiveAudio => exact .aside rfl
  | startSelectedSession outcomes selected => exact effect_startSelectedSession _ _ _
  | signalingMessage outcomes json => exact effect_dispatchSignalingMessage _ _ _
  | sessionState now position =>
    rw [Dialog.next]
    split
    · rename_i absent
      refine .aside ?_
      rw [taken, List.eraseIdx_of_length_le (List.getElem?_eq_none_iff.mp absent)]
    · exact effect_onSessionState _ _ _
  | hangup => exact effect_onBnClickedHangup _
  | record started =>
    refine .aside ?_
    rw [Dialog.next, onBnClickedRecord]
    split
    · rfl
    · split <;> rfl
  | recorderEnded => exact .aside rfl
  | keyboardControl isOpen =>
    refine .aside ?_
    rw [Dialog.next, onBnClickedKeyboardControl]
    repeat' split
    all_goals rfl
  | toggleFullscreen created => exact absurd rfl (windowed created)
  | mediaStats remoteUserId sample =>
    refine .aside ?_
    rw [Dialog.next, onMediaStats]
    split <;> rfl
  | sessionEvent remoteUserId event =>
    rw [Dialog.next, onSessionEvent]
    split
    · exact .aside rfl
    · rename_i session present
      exact .stored remoteUserId (.handled present event) rfl

end

/-! ### Sessions stay bound -/

/-- A session in the table is open, has its peer connection and reports about its user. -/
def Bound (remoteUserId : ByteString) (session : PeerSession SdpCallback) : Prop :=
  remoteUserId ≠ [] ∧ session.binding = (remoteUserId, true, some remoteUserId, false, true)

theorem Bound.of_binding {remoteUserId : ByteString} {session after : PeerSession SdpCallback}
    (bound : Bound remoteUserId session) (same : after.binding = session.binding) :
    Bound remoteUserId after := ⟨bound.1, same.trans bound.2⟩

/-- Preparing a session binds it. -/
theorem binding_prepareSession (dialog : Dialog) {session : PeerSession SdpCallback}
    {remoteUserId : ByteString} (owned : session.remoteUserId = remoteUserId)
    (opened : session.closed = false) (connected : session.peerConnection = true) :
    (dialog.prepareSession session remoteUserId).binding =
      (remoteUserId, true, some remoteUserId, false, true) := by
  show (session.remoteUserId, true, some remoteUserId, session.closed, session.peerConnection) = _
  rw [owned, opened, connected]

theorem callingSession_spec (remoteUserId : ByteString) (options : MediaOptions) :
    (callingSession remoteUserId options).remoteUserId = remoteUserId ∧
      (callingSession remoteUserId options).closed = false ∧
      (callingSession remoteUserId options).peerConnection = true := by
  rw [callingSession, PeerSession.createControlChannel]
  split
  · exact ⟨rfl, rfl, rfl⟩
  · exact ⟨rfl, rfl, rfl⟩

/-- Every session of the dialog is bound. -/
def AllBound (dialog : Dialog) : Prop :=
  ∀ remoteUserId session, dialog.sessions.lookup remoteUserId = some session →
    Bound remoteUserId session

theorem Treated.bound {dialog : Dialog} {remoteUserId : ByteString}
    {result : PeerSession SdpCallback × List (Output SdpCallback)}
    (treated : Treated dialog remoteUserId result) (allBound : dialog.AllBound) :
    Bound remoteUserId result.1 := by
  cases treated with
  | handled present event =>
    exact (allBound _ _ present).of_binding
      (congrArg Prod.fst (PeerSession.fixtures_handle _ event))
  | candidate present item =>
    exact (allBound _ _ present).of_binding
      (congrArg Prod.fst (PeerSession.fixtures_addRemoteCandidate _ item))
  | offered named owner options =>
    obtain ⟨owned, opened, connected⟩ := callingSession_spec remoteUserId options
    exact ⟨named, (congrArg Prod.fst (PeerSession.fixtures_createOffer _ _)).trans
      (binding_prepareSession owner owned opened connected)⟩
  | answered named owner found sdp =>
    refine ⟨named, (congrArg Prod.fst (PeerSession.fixtures_applyRemoteOffer _ _ _)).trans ?_⟩
    rcases found with present | ⟨options, rfl⟩
    · have bound := (allBound _ _ present).2
      simp only [PeerSession.binding, Prod.mk.injEq] at bound
      exact binding_prepareSession owner bound.1 bound.2.2.2.1 bound.2.2.2.2
    · exact binding_prepareSession owner rfl rfl rfl

/-! ### The fullscreen view -/

/-- The callback of the video view moves the active user's picture, and no other. -/
theorem lookup_fullscreenChanged (dialog : Dialog) (target : Window) (remoteUserId : ByteString) :
    (dialog.fullscreenChanged target).sessions.lookup remoteUserId =
      if remoteUserId = dialog.activeRemoteUserId ∧ remoteUserId ≠ [] then
        (dialog.sessions.lookup remoteUserId).map (·.updateRemoteVideoTarget target)
      else dialog.sessions.lookup remoteUserId := by
  unfold fullscreenChanged
  split
  · rename_i unnamed
    rw [if_neg (by rintro ⟨active, named⟩; exact named (active.trans unnamed))]
  rename_i named
  by_cases active : remoteUserId = dialog.activeRemoteUserId
  · rw [if_pos ⟨active, active ▸ named⟩, active]
    split
    · rename_i absent
      rw [absent]
      rfl
    · rename_i session present
      rw [putSession_sessions, AList.lookup_insert, present]
      rfl
  · rw [if_neg (by rintro ⟨same, -⟩; exact active same)]
    split
    · rfl
    · rw [putSession_sessions, AList.lookup_insert_ne active]

theorem fullscreenChanged_posted (dialog : Dialog) (target : Window) :
    (dialog.fullscreenChanged target).posted = dialog.posted := by
  rw [fullscreenChanged]
  split
  · rfl
  split
  · rfl
  · rw [putSession, emit_nil]

/-- Entering or leaving fullscreen changes nothing of a session but the window it renders to. -/
theorem toggleFullscreen_spec (dialog : Dialog) (created : Option Nat) :
    (dialog.toggleFullscreen created).posted = dialog.posted ∧
      ∀ remoteUserId session,
        (dialog.toggleFullscreen created).sessions.lookup remoteUserId = some session →
        ∃ earlier, dialog.sessions.lookup remoteUserId = some earlier ∧
          (session = earlier ∨ ∃ target, session = earlier.updateRemoteVideoTarget target) := by
  have changed (before : Dialog) (target : Window) (remoteUserId : ByteString)
      (session : PeerSession SdpCallback)
      (present : (before.fullscreenChanged target).sessions.lookup remoteUserId = some session) :
      ∃ earlier, before.sessions.lookup remoteUserId = some earlier ∧
        (session = earlier ∨ ∃ target, session = earlier.updateRemoteVideoTarget target) := by
    rw [lookup_fullscreenChanged] at present
    split at present
    · obtain ⟨earlier, found, rfl⟩ := Option.map_eq_some_iff.mp present
      exact ⟨earlier, found, Or.inr ⟨target, rfl⟩⟩
    · exact ⟨session, present, Or.inl rfl⟩
  unfold toggleFullscreen
  split
  · exact ⟨dialog.fullscreenChanged_posted .main, changed dialog .main⟩
  split
  · exact ⟨rfl, fun remoteUserId session present => ⟨session, present, Or.inl rfl⟩⟩
  · rename_i handle
    exact ⟨fullscreenChanged_posted _ _,
      changed { dialog with fullscreenView := some handle } (.fullscreen handle)⟩

/-! ### Sessions are bound in every state -/

theorem lookup_setRemoteControlAuthorized (dialog : Dialog) (checked : Bool)
    (remoteUserId : ByteString) :
    (dialog.setRemoteControlAuthorized checked).sessions.lookup remoteUserId =
      (dialog.sessions.lookup remoteUserId).map (·.setRemoteControlAuthorized checked) :=
  Table.lookup_mapValues _ _ _

theorem posted_of_calls {dialog other : Dialog} (same : other.calls = dialog.calls) :
    other.posted = dialog.posted := congrArg (fun calls => calls.2.1) same

/-- `RemoveSession` only adds to the messages. -/
theorem posted_removeSession (dialog : Dialog) (remoteUserId : ByteString) :
    ∃ later, (dialog.removeSession remoteUserId).posted = dialog.posted ++ later := by
  cases present : dialog.sessions.lookup remoteUserId with
  | none => exact ⟨[], by rw [removeSession_of_absent present, List.append_nil]⟩
  | some session => exact ⟨_, by rw [removeSession_of_present present]; rfl⟩

/-- Where a session after a handler comes from, and what was posted meanwhile: the session was
there before, or it was treated, or it got the consent. -/
theorem Effect.origin {dialog after : Dialog} (effect : Effect dialog after)
    {remoteUserId : ByteString} {session : PeerSession SdpCallback}
    (present : after.sessions.lookup remoteUserId = some session) :
    dialog.sessions.lookup remoteUserId = some session ∧
        (∃ later, after.posted = dialog.posted ++ later) ∨
      (∃ result, Treated dialog remoteUserId result ∧ session = result.1 ∧
        after.posted = dialog.posted ++ result.2.filterMap Output.notification) ∨
      ∃ earlier checked, dialog.sessions.lookup remoteUserId = some earlier ∧
        session = earlier.setRemoteControlAuthorized checked ∧ after.posted = dialog.posted := by
  cases effect with
  | aside same =>
    rw [sessions_of_calls same] at present
    exact Or.inl ⟨present, [], by rw [posted_of_calls same, List.append_nil]⟩
  | @stored owner result treated same =>
    rw [sessions_of_calls same] at present
    by_cases own : remoteUserId = owner
    · subst own
      rw [putSession_sessions, AList.lookup_insert, Option.some_inj] at present
      exact Or.inr (Or.inl ⟨result, treated, present.symm, posted_of_calls same⟩)
    · rw [putSession_sessions, AList.lookup_insert_ne own] at present
      exact Or.inl ⟨present, _, posted_of_calls same⟩
  | removed owner same =>
    rw [sessions_of_calls same, lookup_removeSession] at present
    obtain ⟨later, grown⟩ := dialog.posted_removeSession owner
    split at present
    · cases present
    · exact Or.inl ⟨present, later, (posted_of_calls same).trans grown⟩
  | allowed checked same =>
    rw [sessions_of_calls same, lookup_setRemoteControlAuthorized] at present
    obtain ⟨earlier, found, authorized⟩ := Option.map_eq_some_iff.mp present
    exact Or.inr (Or.inr ⟨earlier, checked, found, authorized.symm,
      (posted_of_calls same).trans rfl⟩)

theorem Effect.allBound {dialog after : Dialog} (effect : Effect dialog after)
    (allBound : dialog.AllBound) : after.AllBound := by
  intro remoteUserId session present
  rcases effect.origin present with
    ⟨same, -⟩ | ⟨result, treated, rfl, -⟩ | ⟨earlier, checked, found, rfl, -⟩
  · exact allBound remoteUserId session same
  · exact treated.bound allBound
  · exact (allBound remoteUserId earlier found).of_binding rfl

theorem sessions_taken (dialog : Dialog) (action : Action) :
    (dialog.taken action).sessions = dialog.sessions := by
  cases action <;> rfl

theorem AllBound.next {dialog : Dialog} (allBound : dialog.AllBound) (action : Action) :
    (dialog.next action).AllBound := by
  by_cases windowed : ∃ created, action = .toggleFullscreen created
  · obtain ⟨created, rfl⟩ := windowed
    intro remoteUserId session present
    obtain ⟨earlier, found, same⟩ :=
      (dialog.toggleFullscreen_spec created).2 remoteUserId session present
    refine (allBound remoteUserId earlier found).of_binding ?_
    rcases same with rfl | ⟨target, rfl⟩ <;> rfl
  · refine (dialog.effect_next (not_exists.mp windowed)).allBound ?_
    rwa [AllBound, sessions_taken]

theorem allBound_of_reachable {dialog : Dialog} (reachable : system.Reachable dialog) :
    dialog.AllBound := by
  refine reachable.invariant ?_ fun dialog action _ allBound _ => allBound.next action
  rintro dialog rfl remoteUserId session present
  cases present

/-- The empty user has no session. -/
theorem AllBound.unnamed {dialog : Dialog} (allBound : dialog.AllBound) :
    dialog.sessions.lookup [] = none := by
  cases present : dialog.sessions.lookup [] with
  | none => rfl
  | some session => exact absurd rfl (allBound [] session present).1

end Dialog

end RemoteControl.Peer

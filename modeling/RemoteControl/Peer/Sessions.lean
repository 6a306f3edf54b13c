/-
This file proves what holds of every session of the dialog, whatever the other
sessions do. A handler treats a session in five ways: it passes on what libwebrtc
reports, adds a remote candidate, moves the picture to another window, and
prepares it for an offer or an answer. A property of sessions that these five
give or keep holds of every session after every handler, except that the consent
of the user, which the preparation copies, must not change meanwhile.
-/

import RemoteControl.Peer.Dialog

namespace RemoteControl.Peer

namespace Dialog

/-! ### Properties of single sessions -/

/-- Every session has the property. -/
def Each (dialog : Dialog) (holds : PeerSession SdpCallback → Prop) : Prop :=
  ∀ remoteUserId session, dialog.sessions.lookup remoteUserId = some session → holds session

/-- Every session with another user has the property. -/
def Others (dialog : Dialog) (remoteUserId : ByteString)
    (holds : PeerSession SdpCallback → Prop) : Prop :=
  ∀ other session, other ≠ remoteUserId → dialog.sessions.lookup other = some session →
    holds session

/-- A property that the treatments of a session give or keep, for a state of the consent. -/
structure Kept (allow : Bool) (holds : PeerSession SdpCallback → Prop) : Prop where
  handled : ∀ session event, holds session → holds (session.handle event).1
  candidate : ∀ session item, holds session → holds (session.addRemoteCandidate item).1
  retargeted : ∀ session target, holds session → holds (session.updateRemoteVideoTarget target)
  offered : ∀ (dialog : Dialog) session remoteUserId, dialog.allowControlCheck = allow →
    holds ((dialog.prepareSession session remoteUserId).createOffer (.offer remoteUserId)).1
  answered : ∀ (dialog : Dialog) session remoteUserId sdp, dialog.allowControlCheck = allow →
    holds ((dialog.prepareSession session remoteUserId).applyRemoteOffer sdp
      (.answer remoteUserId)).1

/-! ### What the helpers leave alone -/

section

variable (dialog : Dialog)

@[simp]
theorem emit_sessions (outputs : List (Output SdpCallback)) :
    (dialog.emit outputs).sessions = dialog.sessions := rfl

@[simp]
theorem emit_allowControlCheck (outputs : List (Output SdpCallback)) :
    (dialog.emit outputs).allowControlCheck = dialog.allowControlCheck := rfl

@[simp]
theorem putSession_sessions (remoteUserId : ByteString)
    (result : PeerSession SdpCallback × List (Output SdpCallback)) :
    (dialog.putSession remoteUserId result).sessions =
      dialog.sessions.insert remoteUserId result.1 := rfl

@[simp]
theorem putSession_allowControlCheck (remoteUserId : ByteString)
    (result : PeerSession SdpCallback × List (Output SdpCallback)) :
    (dialog.putSession remoteUserId result).allowControlCheck = dialog.allowControlCheck := rfl

@[simp]
theorem activate_sessions (remoteUserId : ByteString) :
    (dialog.activate remoteUserId).sessions = dialog.sessions := by
  rw [activate]
  split <;> rfl

@[simp]
theorem activate_allowControlCheck (remoteUserId : ByteString) :
    (dialog.activate remoteUserId).allowControlCheck = dialog.allowControlCheck := by
  rw [activate]
  split <;> rfl

@[simp]
theorem stopIdleCapture_sessions : dialog.stopIdleCapture.sessions = dialog.sessions := by
  rw [stopIdleCapture]
  split <;> rfl

/-- Setting up the local media touches only the capture managers. -/
theorem configureLocalMedia_spec (outcomes : Outcomes) (session : PeerSession SdpCallback)
    (options : MediaOptions) :
    ∃ desktopCapture microphone, (dialog.configureLocalMedia outcomes session options).1 =
      { dialog with desktopCapture, microphone } := by
  rw [configureLocalMedia]
  cases options.sendVideo with
  | false =>
    simp only [Bool.false_eq_true, Bool.true_eq_false, if_false]
    split
    · exact ⟨dialog.desktopCapture, _, rfl⟩
    · exact ⟨dialog.desktopCapture, dialog.microphone, rfl⟩
  | true =>
    simp only [if_true]
    split
    · exact ⟨_, dialog.microphone, rfl⟩
    · split
      · exact ⟨_, _, rfl⟩
      · exact ⟨_, dialog.microphone, rfl⟩

@[simp]
theorem configureLocalMedia_sessions (outcomes : Outcomes) (session : PeerSession SdpCallback)
    (options : MediaOptions) :
    (dialog.configureLocalMedia outcomes session options).1.sessions = dialog.sessions := by
  obtain ⟨desktopCapture, microphone, same⟩ :=
    dialog.configureLocalMedia_spec outcomes session options
  rw [same]

@[simp]
theorem configureLocalMedia_allowControlCheck (outcomes : Outcomes)
    (session : PeerSession SdpCallback) (options : MediaOptions) :
    (dialog.configureLocalMedia outcomes session options).1.allowControlCheck =
      dialog.allowControlCheck := by
  obtain ⟨desktopCapture, microphone, same⟩ :=
    dialog.configureLocalMedia_spec outcomes session options
  rw [same]

/-- The active user's part of `OnSessionState` touches only control and statistics. -/
theorem noteSessionState_spec (now : UInt64) (message : SessionStateMessage) :
    ∃ keyboardControlActive mediaStats, dialog.noteSessionState now message =
      { dialog with keyboardControlActive, mediaStats } := by
  obtain ⟨remoteUserId, state⟩ := message
  rw [noteSessionState]
  split
  · cases state <;> exact ⟨_, _, rfl⟩
  · exact ⟨_, _, rfl⟩

theorem removeSession_of_absent {dialog : Dialog} {remoteUserId : ByteString}
    (absent : dialog.sessions.lookup remoteUserId = none) :
    dialog.removeSession remoteUserId = dialog := by
  rw [removeSession, absent]

theorem removeSession_of_present {dialog : Dialog} {remoteUserId : ByteString}
    {session : PeerSession SdpCallback}
    (present : dialog.sessions.lookup remoteUserId = some session) :
    dialog.removeSession remoteUserId =
      { dialog with sessions := dialog.sessions.erase remoteUserId }.emit session.close.2 := by
  rw [removeSession, present]

/-- What `RemoveSession` leaves of the sessions. -/
theorem lookup_removeSession (remoteUserId other : ByteString) :
    (dialog.removeSession remoteUserId).sessions.lookup other =
      if other = remoteUserId then none else dialog.sessions.lookup other := by
  cases present : dialog.sessions.lookup remoteUserId with
  | none =>
    rw [removeSession_of_absent present]
    split
    · rename_i same
      rw [same, present]
    · rfl
  | some session =>
    rw [removeSession_of_present present]
    exact Table.lookup_erase _ _ _

end

/-! ### Storing and removing sessions -/

section

variable {dialog after : Dialog} {holds : PeerSession SdpCallback → Prop}
  {remoteUserId : ByteString}

theorem Each.of_sessions (each : dialog.Each holds) (same : after.sessions = dialog.sessions) :
    after.Each holds := by
  intro other session present
  rw [same] at present
  exact each other session present

theorem Others.of_sessions (others : dialog.Others remoteUserId holds)
    (same : after.sessions = dialog.sessions) : after.Others remoteUserId holds := by
  intro other session different present
  rw [same] at present
  exact others other session different present

theorem Each.others (each : dialog.Each holds) (remoteUserId : ByteString) :
    dialog.Others remoteUserId holds := fun other session _ present => each other session present

/-- A stored session concerns only its own user. -/
theorem Others.putSession (others : dialog.Others remoteUserId holds)
    (result : PeerSession SdpCallback × List (Output SdpCallback)) :
    (dialog.putSession remoteUserId result).Others remoteUserId holds := by
  intro other session different present
  rw [putSession_sessions, AList.lookup_insert_ne different] at present
  exact others other session different present

theorem Others.putSession_holds (others : dialog.Others remoteUserId holds)
    {result : PeerSession SdpCallback × List (Output SdpCallback)} (fits : holds result.1) :
    (dialog.putSession remoteUserId result).Each holds := by
  intro other session present
  by_cases same : other = remoteUserId
  · rw [putSession_sessions, same, AList.lookup_insert, Option.some_inj] at present
    exact present ▸ fits
  · exact others.putSession result other session same present

theorem Others.removeSession (others : dialog.Others remoteUserId holds) :
    (dialog.removeSession remoteUserId).Each holds := by
  intro other session present
  rw [lookup_removeSession] at present
  split at present
  · cases present
  · rename_i different
    exact others other session different present

theorem Each.removeSession (each : dialog.Each holds) (remoteUserId : ByteString) :
    (dialog.removeSession remoteUserId).Each holds := (each.others remoteUserId).removeSession

/-- The session `CreateSession` makes. -/
def freshSession (remoteUserId : ByteString) (options : MediaOptions) : PeerSession SdpCallback :=
  { remoteUserId, options, peerConnection := true }

/-- The three ways `CreateSession` ends: there is no session to make, libwebrtc makes none, or
a fresh one is stored. -/
theorem createSession_cases (dialog : Dialog) (created : Bool) (remoteUserId : ByteString)
    (options : MediaOptions) :
    (dialog.createSession created remoteUserId options).2 = none ∧
        (dialog.createSession created remoteUserId options).1.sessions = dialog.sessions ∧
        (dialog.createSession created remoteUserId options).1.allowControlCheck =
          dialog.allowControlCheck ∨
      remoteUserId ≠ [] ∧ dialog.sessions.lookup remoteUserId = none ∧
        dialog.createSession created remoteUserId options =
          (dialog.putSession remoteUserId (freshSession remoteUserId options, []),
            some (freshSession remoteUserId options)) := by
  rw [createSession]
  split
  · exact Or.inl ⟨rfl, rfl, rfl⟩
  · rename_i fresh
    rw [not_or, ← AList.lookup_eq_none] at fresh
    cases created with
    | false => exact Or.inl ⟨rfl, rfl, rfl⟩
    | true => exact Or.inr ⟨fresh.1, fresh.2, rfl⟩

end

/-! ### Every handler -/

section

variable {dialog : Dialog} {holds : PeerSession SdpCallback → Prop} {remoteUserId : ByteString}

/-- A negotiation ends with a prepared session, or without one. -/
theorem Others.negotiate (others : dialog.Others remoteUserId holds) (outcomes : Outcomes)
    (options : MediaOptions) (session : PeerSession SdpCallback)
    {start : PeerSession SdpCallback → PeerSession SdpCallback × List (Output SdpCallback)}
    (fits : ∀ later : Dialog, later.allowControlCheck = dialog.allowControlCheck →
      holds (start (later.prepareSession session remoteUserId)).1) :
    (dialog.negotiate outcomes options remoteUserId session start).Each holds := by
  have untouched := others.of_sessions
    (dialog.configureLocalMedia_sessions outcomes session options)
  rw [Dialog.negotiate]
  simp only
  split
  · exact untouched.removeSession
  · exact untouched.putSession_holds
      (fits _ (dialog.configureLocalMedia_allowControlCheck outcomes session options))

theorem Each.startSelectedSession (kept : Kept dialog.allowControlCheck holds)
    (each : dialog.Each holds) (outcomes : Outcomes) (selected : Option ByteString) :
    (dialog.startSelectedSession outcomes selected).Each holds := by
  cases selected with
  | none => exact each
  | some remoteUserId =>
    have active := each.of_sessions (dialog.activate_sessions remoteUserId)
    rw [Dialog.startSelectedSession]
    rcases createSession_cases (dialog.activate remoteUserId) outcomes.peerConnection
      remoteUserId (dialog.activate remoteUserId).mediaOptions with
      ⟨missing, same, -⟩ | ⟨-, -, made⟩
    · split
      · rename_i failed
        rw [failed] at same
        exact active.of_sessions same
      · rename_i failed
        rw [failed] at missing
        cases missing
    · rw [made]
      have others := ((active.others remoteUserId).putSession
        (freshSession remoteUserId (dialog.activate remoteUserId).mediaOptions, [])).putSession
      simp only
      split
      · exact (others _).removeSession
      · refine (others _).negotiate outcomes _ _ fun later same => ?_
        refine kept.offered later _ remoteUserId ?_
        rw [same, putSession_allowControlCheck, putSession_allowControlCheck,
          activate_allowControlCheck]

theorem Each.onOffer (kept : Kept dialog.allowControlCheck holds) (each : dialog.Each holds)
    (outcomes : Outcomes) (remoteUserId sdp : ByteString) :
    (dialog.onOffer outcomes remoteUserId sdp).Each holds := by
  rw [Dialog.onOffer, Dialog.sessionForOffer]
  cases dialog.sessions.lookup remoteUserId with
  | some session =>
    exact (each.others remoteUserId).negotiate outcomes _ session fun later same =>
      kept.answered later session remoteUserId sdp same
  | none =>
    simp only
    rcases createSession_cases dialog outcomes.peerConnection remoteUserId dialog.mediaOptions
      with ⟨missing, same, -⟩ | ⟨-, -, made⟩
    · split
      · rename_i failed
        rw [failed] at same
        exact each.of_sessions same
      · rename_i failed
        rw [failed] at missing
        cases missing
    · rw [made]
      refine ((each.others remoteUserId).putSession _).negotiate outcomes _ _ fun later same => ?_
      exact kept.answered later _ remoteUserId sdp (by rw [same, putSession_allowControlCheck])

theorem Each.onHangup (each : dialog.Each holds) (remoteUserId : ByteString) :
    (dialog.onHangup remoteUserId).Each holds :=
  (each.removeSession remoteUserId).of_sessions (stopIdleCapture_sessions _)

theorem Each.dispatchSignalingMessage (kept : Kept dialog.allowControlCheck holds)
    (each : dialog.Each holds) (outcomes : Outcomes) (json : ByteString) :
    (dialog.dispatchSignalingMessage outcomes json).Each holds := by
  rw [Dialog.dispatchSignalingMessage]
  simp only
  split
  · exact each
  split
  · exact each
  split
  · exact each
  generalize SignalingProtocol.stringField json (bytes "fromUserId") = remoteUserId
  have active := each.of_sessions (dialog.activate_sessions remoteUserId)
  split
  · refine active.onOffer ?_ outcomes remoteUserId _
    rwa [activate_allowControlCheck]
  split
  · split
    · exact active
    · exact active.of_sessions rfl
  split
  · split
    · exact active
    · rename_i session present
      exact (active.others remoteUserId).putSession_holds
        (kept.candidate session _ (active remoteUserId session present))
  split
  · exact active.onHangup remoteUserId
  · exact active

theorem Each.collectSession (each : dialog.Each holds) (message : SessionStateMessage) :
    (dialog.collectSession message).Each holds := by
  rw [Dialog.collectSession]
  split
  · exact each
  · split
    · refine (each.removeSession message.remoteUserId).of_sessions ?_
      simp only
      rw [stopIdleCapture_sessions]
      split <;> rfl
    · exact each

theorem Each.onSessionState (each : dialog.Each holds) (now : UInt64)
    (message : SessionStateMessage) : (dialog.onSessionState now message).Each holds := by
  have noted : (dialog.noteSessionState now message).Each holds := by
    obtain ⟨keyboardControlActive, mediaStats, same⟩ := dialog.noteSessionState_spec now message
    exact each.of_sessions (by rw [same])
  rw [Dialog.onSessionState]
  split
  · exact each
  simp only
  split
  · exact noted.collectSession message
  · exact noted

theorem Each.onBnClickedHangup (each : dialog.Each holds) :
    dialog.onBnClickedHangup.Each holds := by
  rw [Dialog.onBnClickedHangup]
  simp only
  split
  · exact each
  split
  · exact each
  · have hungUp : Dialog.Each { dialog.setKeyboardControlActive false with
        sent := dialog.sent ++ [SignalingProtocol.hangup dialog.activeRemoteUserId] } holds :=
      each.of_sessions rfl
    exact (hungUp.removeSession _).of_sessions (stopIdleCapture_sessions _)

theorem Each.fullscreenChanged (kept : Kept dialog.allowControlCheck holds)
    (each : dialog.Each holds) (target : Window) :
    (dialog.fullscreenChanged target).Each holds := by
  rw [Dialog.fullscreenChanged]
  split
  · exact each
  split
  · exact each
  · rename_i session present
    exact (each.others _).putSession_holds (kept.retargeted session target (each _ _ present))

theorem Each.toggleFullscreen (kept : Kept dialog.allowControlCheck holds)
    (each : dialog.Each holds) (created : Option Nat) :
    (dialog.toggleFullscreen created).Each holds := by
  unfold Dialog.toggleFullscreen
  split
  · exact (each.fullscreenChanged kept .main).of_sessions rfl
  split
  · exact each
  · rename_i handle
    have opened : Dialog.Each { dialog with fullscreenView := some handle } holds :=
      each.of_sessions rfl
    refine opened.fullscreenChanged ?_ (.fullscreen handle)
    exact kept

theorem Each.onSessionEvent (kept : Kept dialog.allowControlCheck holds)
    (each : dialog.Each holds) (remoteUserId : ByteString) (event : SessionEvent) :
    (dialog.onSessionEvent remoteUserId event).Each holds := by
  rw [Dialog.onSessionEvent]
  split
  · exact each
  · rename_i session present
    exact (each.others _).putSession_holds (kept.handled session event (each _ _ present))

/-- A property that is kept survives every handler that leaves the consent alone. -/
theorem Each.next (kept : Kept dialog.allowControlCheck holds) (each : dialog.Each holds)
    {action : Action} (consent : ∀ checked, action ≠ .allowControl checked) :
    (dialog.next action).Each holds := by
  cases action with
  | allowControl checked => exact absurd rfl (consent checked)
  | mediaChecks sendVideo receiveVideo sendAudio receiveAudio => exact each.of_sessions rfl
  | startSelectedSession outcomes selected => exact each.startSelectedSession kept outcomes selected
  | signalingMessage outcomes json => exact each.dispatchSignalingMessage kept outcomes json
  | sessionState now position =>
    rw [Dialog.next]
    split
    · exact each
    · have popped : Dialog.Each { dialog with posted := dialog.posted.eraseIdx position } holds :=
        each.of_sessions rfl
      exact popped.onSessionState now _
  | hangup => exact each.onBnClickedHangup
  | record started =>
    refine each.of_sessions ?_
    rw [Dialog.next, onBnClickedRecord]
    split
    · rfl
    · split <;> rfl
  | recorderEnded => exact each.of_sessions rfl
  | keyboardControl isOpen =>
    refine each.of_sessions ?_
    rw [Dialog.next, onBnClickedKeyboardControl]
    repeat' split
    all_goals rfl
  | toggleFullscreen created => exact each.toggleFullscreen kept created
  | mediaStats remoteUserId sample =>
    refine each.of_sessions ?_
    rw [Dialog.next, onMediaStats]
    split <;> rfl
  | sessionEvent remoteUserId event => exact each.onSessionEvent kept remoteUserId event

end

end Dialog

end RemoteControl.Peer

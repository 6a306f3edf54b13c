/-
This file follows the control of a remote computer through the dialog: which user
gets the input of the views, and since when. Control is given by a click on the
button while the channel of the active user is open, and every handler that
changes the active user or hears of the end of the call takes it back.
-/

import RemoteControl.Peer.Effects
import RemoteControl.Video.MutualControl

namespace RemoteControl.Peer

open Video (MulDiv VideoRenderWnd InputMessage)

namespace Dialog

variable (dialog : Dialog)

/-! ### Forwarding -/

/-- `SendRemoteInput`: the user whose control channel is called, and the call. -/
def sendRemoteInput (mulDiv : MulDiv) (source : VideoRenderWnd) (message : InputMessage)
    (wParam lParam : UInt32) : Option (ByteString × InputCall) :=
  if dialog.keyboardControlActive = false then none
  else if dialog.activeRemoteUserId = [] then none
  else
    match dialog.sessions.lookup dialog.activeRemoteUserId with
    | none => none
    | some session =>
      if session.controlChannel = none then none
      else
        (Video.sendRemoteInput mulDiv source message wParam lParam).map
          fun call => (dialog.activeRemoteUserId, call)

/-- There is a session with a control channel. -/
def HasChannel (remoteUserId : ByteString) : Prop :=
  ∃ session ∈ dialog.sessions.lookup remoteUserId, session.controlChannel ≠ none

/-- The input is meant for a user. -/
def Controls (remoteUserId : ByteString) : Prop :=
  dialog.keyboardControlActive = true ∧ dialog.activeRemoteUserId = remoteUserId

theorem sendRemoteInput_eq_some_iff {mulDiv : MulDiv} {source : VideoRenderWnd}
    {message : InputMessage} {wParam lParam : UInt32} {remoteUserId : ByteString}
    {call : InputCall} :
    dialog.sendRemoteInput mulDiv source message wParam lParam = some (remoteUserId, call) ↔
      remoteUserId ≠ [] ∧ dialog.Controls remoteUserId ∧ dialog.HasChannel remoteUserId ∧
        Video.sendRemoteInput mulDiv source message wParam lParam = some call := by
  unfold sendRemoteInput
  split_ifs with inactive nobody
  · simp [Controls, inactive]
  · refine iff_of_false (by simp) ?_
    rintro ⟨named, ⟨-, rfl⟩, -⟩
    exact named nobody
  rw [Bool.not_eq_false] at inactive
  cases present : dialog.sessions.lookup dialog.activeRemoteUserId with
  | none =>
    refine iff_of_false (by simp) ?_
    rintro ⟨-, ⟨-, rfl⟩, ⟨session, found, -⟩, -⟩
    simp [present] at found
  | some session =>
    by_cases channel : session.controlChannel = none
    · refine iff_of_false (by simp [channel]) ?_
      rintro ⟨-, ⟨-, rfl⟩, ⟨other, found, attached⟩, -⟩
      rw [present, Option.mem_some_iff] at found
      exact attached (found ▸ channel)
    · simp only [channel, if_false, Option.map_eq_some_iff, Prod.mk.injEq]
      constructor
      · rintro ⟨_, made, rfl, rfl⟩
        exact ⟨nobody, ⟨inactive, rfl⟩, ⟨session, present, channel⟩, made⟩
      · rintro ⟨-, ⟨-, rfl⟩, -, made⟩
        exact ⟨call, made, rfl, rfl⟩

/-! ### What gives and takes control -/

/-- The button is clicked while the control channel of the active user is open. -/
def Grants (remoteUserId : ByteString) (dialog : Dialog) : Action → Prop
  | .keyboardControl isOpen =>
    dialog.keyboardControlActive = false ∧ dialog.activeRemoteUserId = remoteUserId ∧
      ∃ session ∈ dialog.sessions.lookup remoteUserId,
        ∃ channel ∈ session.controlChannel, channel.attached = true ∧ isOpen = true
  | _ => False

/-- A line about a call, from a user who is not the controlled one or hangs up. -/
def Diverts (remoteUserId json : ByteString) : Prop :=
  let type := SignalingProtocol.stringField json (bytes "type")
  let sender := SignalingProtocol.stringField json (bytes "fromUserId")
  type ≠ bytes "presence.snapshot" ∧ type ≠ bytes "presence.changed" ∧ sender ≠ [] ∧
    (sender ≠ remoteUserId ∨ type = bytes "hangup")

/-- The states that end the control of the active user. -/
def Interrupts (state : PeerSessionState) : Prop :=
  state = .disconnected ∨ state = .failed ∨ state = .closed

instance (state : PeerSessionState) : Decidable (Interrupts state) :=
  inferInstanceAs (Decidable (_ ∨ _))

/-- Another click, the end of the call on either side or another user's call takes it back. -/
def Revokes (remoteUserId : ByteString) (dialog : Dialog) : Action → Prop
  | .keyboardControl _ | .hangup => True
  | .startSelectedSession _ selected => ∃ other ∈ selected, other ≠ remoteUserId
  | .signalingMessage _ json => Diverts remoteUserId json
  | .sessionState _ position =>
    ∃ state, dialog.posted[position]? = some ⟨remoteUserId, state⟩ ∧ Interrupts state
  | _ => False

/-! ### What a handler does to the control -/

/-- Whether input is forwarded, and the active user. -/
def control : Bool × ByteString := (dialog.keyboardControlActive, dialog.activeRemoteUserId)

variable {dialog}

theorem controls_iff {remoteUserId : ByteString} :
    dialog.Controls remoteUserId ↔ dialog.control = (true, remoteUserId) := by
  rw [Controls, control, Prod.mk.injEq]

theorem Controls.of_control {after : Dialog} {remoteUserId : ByteString}
    (same : after.control = dialog.control) :
    after.Controls remoteUserId ↔ dialog.Controls remoteUserId := by
  rw [controls_iff, controls_iff, same]

variable (dialog)

@[simp]
theorem control_putSession (remoteUserId : ByteString)
    (result : PeerSession SdpCallback × List (Output SdpCallback)) :
    (dialog.putSession remoteUserId result).control = dialog.control := rfl

@[simp]
theorem control_removeSession (remoteUserId : ByteString) :
    (dialog.removeSession remoteUserId).control = dialog.control := by
  rw [removeSession]
  split <;> rfl

@[simp]
theorem control_stopIdleCapture : dialog.stopIdleCapture.control = dialog.control := by
  rw [stopIdleCapture]
  split <;> rfl

@[simp]
theorem control_configureLocalMedia (outcomes : Outcomes) (session : PeerSession SdpCallback)
    (options : MediaOptions) :
    (dialog.configureLocalMedia outcomes session options).1.control = dialog.control := by
  obtain ⟨desktopCapture, microphone, same⟩ :=
    dialog.configureLocalMedia_spec outcomes session options
  rw [same]
  rfl

/-- Only for the user who is active already the control stays. -/
theorem control_activate (remoteUserId : ByteString) :
    (dialog.activate remoteUserId).control =
      (dialog.keyboardControlActive && remoteUserId = dialog.activeRemoteUserId, remoteUserId) := by
  unfold activate
  split <;> simp_all [control, setKeyboardControlActive, resetMediaStats]

theorem control_startSelectedSession (outcomes : Outcomes) (remoteUserId : ByteString) :
    (dialog.startSelectedSession outcomes (some remoteUserId)).control =
      (dialog.activate remoteUserId).control := by
  rcases dialog.startSelectedSession_cases outcomes remoteUserId with
    ⟨-, result⟩ | ⟨-, -, result⟩ | ⟨-, -, result⟩ <;> simp [result]

theorem control_onOffer (outcomes : Outcomes) {remoteUserId : ByteString}
    (named : remoteUserId ≠ []) (sdp : ByteString) :
    (dialog.onOffer outcomes remoteUserId sdp).control = dialog.control := by
  rcases dialog.onOffer_cases outcomes named sdp with
    ⟨-, -, result⟩ | ⟨session, -, ⟨-, result⟩ | ⟨-, result⟩⟩ <;> simp [result]

theorem control_onHangup (remoteUserId : ByteString) :
    (dialog.onHangup remoteUserId).control = (dialog.keyboardControlActive, []) := by
  rw [onHangup, control_stopIdleCapture]
  have same := congrArg Prod.fst (dialog.control_removeSession remoteUserId)
  exact Prod.ext same rfl

/-- A line about a call makes its sender the active user, or nobody when the sender hangs up. -/
theorem control_dispatchSignalingMessage (outcomes : Outcomes) (json : ByteString) :
    let type := SignalingProtocol.stringField json (bytes "type")
    let sender := SignalingProtocol.stringField json (bytes "fromUserId")
    (dialog.dispatchSignalingMessage outcomes json).control =
      if type = bytes "presence.snapshot" ∨ type = bytes "presence.changed" ∨ sender = [] then
        dialog.control
      else if type = bytes "hangup" then ((dialog.activate sender).control.1, [])
      else (dialog.activate sender).control := by
  intro type sender
  unfold dispatchSignalingMessage
  by_cases snapshot : type = bytes "presence.snapshot"
  · simp [type, snapshot]
  by_cases changed : type = bytes "presence.changed"
  · simp [type, changed]
  by_cases unnamed : sender = []
  · simp [sender, unnamed]
  have other {name : ByteString} (named : type = name) (different : name ≠ bytes "hangup") :
      ¬ type = bytes "hangup" := named ▸ different
  simp only [type, sender, snapshot, changed, unnamed, or_self, if_false]
  by_cases offer : type = bytes "offer"
  · rw [if_pos offer, control_onOffer _ _ unnamed, if_neg (other offer (by decide))]
  rw [if_neg offer]
  by_cases answer : type = bytes "answer"
  · rw [if_pos answer, if_neg (other answer (by decide))]
    split <;> rfl
  rw [if_neg answer]
  by_cases candidate : type = bytes "ice-candidate"
  · rw [if_pos candidate, if_neg (other candidate (by decide))]
    split <;> rfl
  rw [if_neg candidate]
  split
  · exact control_onHangup _ _
  · rfl

theorem control_noteSessionState (now : UInt64) (message : SessionStateMessage) :
    (dialog.noteSessionState now message).control =
      (dialog.keyboardControlActive &&
        !decide (message.remoteUserId = dialog.activeRemoteUserId ∧ Interrupts message.state),
        dialog.activeRemoteUserId) := by
  unfold noteSessionState
  by_cases active : message.remoteUserId = dialog.activeRemoteUserId
  · cases state : message.state <;>
      simp [active, control, Interrupts, setKeyboardControlActive, resetMediaStats]
  · simp [active, control]

/-- Collecting a session may leave nobody active. -/
theorem control_collectSession (message : SessionStateMessage) :
    (dialog.collectSession message).control = dialog.control ∨
      message.remoteUserId = dialog.activeRemoteUserId ∧
        (dialog.collectSession message).activeRemoteUserId = [] := by
  have removed := dialog.control_removeSession message.remoteUserId
  have active : (dialog.removeSession message.remoteUserId).activeRemoteUserId =
      dialog.activeRemoteUserId := congrArg Prod.snd removed
  unfold collectSession
  split
  · exact .inl rfl
  split
  · simp only [active, control_stopIdleCapture]
    split
    · rename_i same
      exact .inr ⟨same, congrArg Prod.snd (control_stopIdleCapture _)⟩
    · exact .inl removed
  · exact .inl rfl

/-- The end of a call, or an interruption, ends the control of its user. -/
theorem controls_onSessionState (now : UInt64) (message : SessionStateMessage)
    {remoteUserId : ByteString} (named : remoteUserId ≠ []) :
    (dialog.onSessionState now message).Controls remoteUserId ↔
      dialog.Controls remoteUserId ∧
        ¬ (message.remoteUserId = remoteUserId ∧ Interrupts message.state) := by
  have noted : (dialog.noteSessionState now message).Controls remoteUserId ↔
      dialog.Controls remoteUserId ∧
        ¬ (message.remoteUserId = remoteUserId ∧ Interrupts message.state) := by
    rw [controls_iff, control_noteSessionState, controls_iff, control]
    grind
  unfold onSessionState
  by_cases new : message.state = .new
  · simp [new, Interrupts]
  rw [if_neg new]
  simp only
  split
  · rename_i terminal
    rcases (dialog.noteSessionState now message).control_collectSession message with
      same | ⟨active, nobody⟩
    · rw [Controls.of_control same, noted]
    · refine iff_of_false (fun controls => named (controls.2 ▸ nobody)) ?_
      rintro ⟨⟨-, rfl⟩, stays⟩
      refine stays ⟨active.trans ?_, .inr terminal⟩
      exact congrArg Prod.snd (dialog.control_noteSessionState now message)
  · exact noted

theorem controls_onBnClickedKeyboardControl (isOpen : Bool) {remoteUserId : ByteString}
    (named : remoteUserId ≠ []) :
    (dialog.onBnClickedKeyboardControl isOpen).Controls remoteUserId ↔
      Grants remoteUserId dialog (.keyboardControl isOpen) := by
  unfold onBnClickedKeyboardControl
  split_ifs with active nobody
  · simp [Controls, Grants, active, setKeyboardControlActive]
  · refine iff_of_false (fun controls => active controls.1) ?_
    rintro ⟨-, rfl, -⟩
    exact named nobody
  · by_cases mine : dialog.activeRemoteUserId = remoteUserId
    · subst mine
      cases present : dialog.sessions.lookup dialog.activeRemoteUserId with
      | none => simp [Controls, Grants, active, present]
      | some session =>
        cases held : session.controlChannel with
        | none => simp [Controls, Grants, active, present, held]
        | some channel =>
          cases attached : channel.attached <;> cases isOpen <;>
            simp_all [Controls, Grants, setKeyboardControlActive]
    · refine iff_of_false ?_ fun grants => mine grants.2.1
      rintro ⟨-, controls⟩
      refine mine (Eq.trans ?_ controls)
      split
      · rfl
      split
      · rfl
      split <;> rfl

theorem not_active_onBnClickedHangup : dialog.onBnClickedHangup.keyboardControlActive = false := by
  unfold onBnClickedHangup
  simp only
  split_ifs with nobody missing
  · rfl
  · refine (congrArg Prod.fst (control_stopIdleCapture _)).trans ?_
    exact congrArg Prod.fst (control_removeSession _ _)
  · rfl

theorem control_onBnClickedRecord (started : Bool) :
    (dialog.onBnClickedRecord started).control = dialog.control := by
  unfold onBnClickedRecord
  split_ifs <;> rfl

theorem control_toggleFullscreen (created : Option Nat) :
    (dialog.toggleFullscreen created).control = dialog.control := by
  have changed (other : Dialog) (target : Window) :
      (other.fullscreenChanged target).control = other.control := by
    unfold fullscreenChanged
    split
    · rfl
    · split <;> rfl
  unfold toggleFullscreen
  split
  · exact changed dialog .main
  · split
    · rfl
    · exact changed _ _

theorem control_onMediaStats (remoteUserId : ByteString) (sample : StatsSample) :
    (dialog.onMediaStats remoteUserId sample).control = dialog.control := by
  unfold onMediaStats
  split <;> rfl

theorem control_onSessionEvent (remoteUserId : ByteString) (event : SessionEvent) :
    (dialog.onSessionEvent remoteUserId event).control = dialog.control := by
  unfold onSessionEvent
  split <;> rfl

/-- A handler gives the control of a user, or it has been given and the handler does not take it
back. -/
theorem controls_next {remoteUserId : ByteString} (named : remoteUserId ≠ []) (action : Action) :
    (dialog.next action).Controls remoteUserId ↔
      Grants remoteUserId dialog action ∨
        dialog.Controls remoteUserId ∧ ¬ Revokes remoteUserId dialog action := by
  have aside {after : Dialog} (same : after.control = dialog.control) :
      after.Controls remoteUserId ↔ False ∨ dialog.Controls remoteUserId ∧ ¬ False := by
    rw [Controls.of_control same]
    simp
  cases action with
  | allowControl | mediaChecks | recorderEnded => exact aside rfl
  | startSelectedSession outcomes selected =>
    cases selected with
    | none => simp [next, Grants, Revokes, startSelectedSession]
    | some user =>
      rw [next, controls_iff, control_startSelectedSession, control_activate, controls_iff, control]
      simp only [Grants, Revokes, Option.mem_some_iff]
      grind
  | signalingMessage outcomes json =>
    rw [next, controls_iff, control_dispatchSignalingMessage, control_activate, controls_iff,
      control]
    simp only [Grants, Revokes, Diverts]
    grind
  | sessionState now position =>
    cases taken : dialog.posted[position]? with
    | none => simp [next, Grants, Revokes, taken]
    | some message =>
      obtain ⟨user, state⟩ := message
      simp only [next, taken, controls_onSessionState _ _ _ named, Grants, Revokes, Option.some_inj,
        SessionStateMessage.mk.injEq, false_or]
      refine and_congr Iff.rfl (not_congr ⟨?_, ?_⟩)
      · rintro ⟨rfl, interrupts⟩
        exact ⟨state, ⟨rfl, rfl⟩, interrupts⟩
      · rintro ⟨_, ⟨rfl, rfl⟩, interrupts⟩
        exact ⟨rfl, interrupts⟩
  | hangup =>
    refine iff_of_false (fun controls => ?_) (by simp [Grants, Revokes])
    exact Bool.false_ne_true ((dialog.not_active_onBnClickedHangup).symm.trans controls.1)
  | record started => exact aside (dialog.control_onBnClickedRecord started)
  | keyboardControl isOpen =>
    rw [next, controls_onBnClickedKeyboardControl dialog isOpen named]
    simp [Revokes]
  | toggleFullscreen created => exact aside (dialog.control_toggleFullscreen created)
  | mediaStats user sample => exact aside (dialog.control_onMediaStats user sample)
  | sessionEvent user event => exact aside (dialog.control_onSessionEvent user event)

end Dialog

/-! ### Along a run -/

theorem allows_all (dialog : Dialog) (actions : List Action) : system.Allows dialog actions := by
  induction actions generalizing dialog with
  | nil => trivial
  | cons action rest inductionHypothesis => exact ⟨trivial, inductionHypothesis _⟩

/-- The button was clicked while the user was active with an open control channel, and no handler
has taken the control back since. -/
def ControlGiven (remoteUserId : ByteString) (actions : List Action) : Prop :=
  ∃ before click after, actions = before ++ click :: after ∧
    Dialog.Grants remoteUserId (system.run {} before) click ∧
    (system.restrict fun dialog action => ¬ Dialog.Revokes remoteUserId dialog action).Allows
      (system.run {} (before ++ [click])) after

theorem controls_iff_given {remoteUserId : ByteString} (named : remoteUserId ≠ [])
    (actions : List Action) :
    (system.run {} actions).Controls remoteUserId ↔ ControlGiven remoteUserId actions :=
  @Transition.System.holds_iff_since _ _ system (Dialog.Controls · remoteUserId)
    (Dialog.Grants remoteUserId) (Dialog.Revokes remoteUserId)
    (fun dialog action => dialog.controls_next named action) {}
    (fun controls => Bool.false_ne_true controls.1) actions (allows_all {} actions)

/-- In every run the input of a view goes to a user exactly when that user has been given control,
which nothing has taken back since, and there is still a control channel. -/
theorem input_goes_to_controlled_user (mulDiv : MulDiv) (source : VideoRenderWnd)
    (message : InputMessage) (wParam lParam : UInt32) (actions : List Action)
    (remoteUserId : ByteString) (call : InputCall) :
    (system.run {} actions).sendRemoteInput mulDiv source message wParam lParam =
        some (remoteUserId, call) ↔
      remoteUserId ≠ [] ∧ ControlGiven remoteUserId actions ∧
        (system.run {} actions).HasChannel remoteUserId ∧
        Video.sendRemoteInput mulDiv source message wParam lParam = some call := by
  rw [Dialog.sendRemoteInput_eq_some_iff]
  exact and_congr_right fun named => and_congr (controls_iff_given named actions) Iff.rfl

/-- A session with bob has a control channel, and the button is clicked while it is open. -/
def bobControlled : List Action :=
  [.signalingMessage .success
      (bytes "\x7b\"type\":\"offer\",\"sdp\":\"v=0\",\"fromUserId\":\"bob\"\x7d"),
    .sessionEvent (bytes "bob") (.dataChannel (bytes "remote-control")), .keyboardControl true]

theorem input_goes_to_controlled_user_bobControlled :
    (system.run {} bobControlled).sendRemoteInput .documented
        { clientWidth := 8, clientHeight := 4 } .keyDown 0x41 0 =
          some (bytes "bob", .key 0x41 true) ∧
      ControlGiven (bytes "bob") bobControlled := by
  have sent : (system.run {} bobControlled).sendRemoteInput .documented
      { clientWidth := 8, clientHeight := 4 } .keyDown 0x41 0 =
        some (bytes "bob", .key 0x41 true) := by decide
  exact ⟨sent, ((input_goes_to_controlled_user _ _ _ _ _ _ _ _).mp sent).2.1⟩

end RemoteControl.Peer

/-
This file follows the windows that the sessions render to. Leaving fullscreen
moves the picture of the active user back to the main view and then destroys the
fullscreen view, also when another user, who was active before, is still shown
there. So every picture has a window in exactly those runs that never leave
fullscreen over such a picture.
-/

import RemoteControl.Peer.Effects

namespace RemoteControl.Peer

namespace Dialog

/-! ### Windows that exist -/

/-- The window exists while the fullscreen view is the given one. -/
def Shown (view : Option Nat) : Window → Prop
  | .main => True
  | .fullscreen handle => view = some handle

/-- The session's renderer, if it has one, posts its frames to a window that exists. -/
def Rendered (view : Option Nat) (session : PeerSession SdpCallback) : Prop :=
  ∀ renderer, session.remoteVideoRenderer = some renderer → Shown view renderer.target

/-- Every live session renders to a window that exists. -/
def AllRendered (dialog : Dialog) : Prop :=
  ∀ remoteUserId session, dialog.sessions.lookup remoteUserId = some session →
    Rendered dialog.fullscreenView session

theorem Rendered.of_same {view : Option Nat} {session after : PeerSession SdpCallback}
    (rendered : Rendered view session)
    (same : after.remoteVideoRenderer = session.remoteVideoRenderer) : Rendered view after := by
  rw [Rendered, same]
  exact rendered

/-- A session that is prepared renders to the main view. -/
theorem rendered_prepareSession (view : Option Nat) (dialog : Dialog)
    (session : PeerSession SdpCallback) (remoteUserId : ByteString) :
    Rendered view (dialog.prepareSession session remoteUserId) := by
  intro renderer present
  cases present
  trivial

theorem rendered_updateRemoteVideoTarget (view : Option Nat) (target : Window)
    (session : PeerSession SdpCallback) (shown : Shown view target) :
    Rendered view (session.updateRemoteVideoTarget target) := by
  intro renderer present
  obtain ⟨earlier, -, rfl⟩ := Option.map_eq_some_iff.mp present
  exact shown

/-! ### Handlers that do not move the fullscreen view -/

theorem Treated.rendered {dialog : Dialog} {remoteUserId : ByteString}
    {result : PeerSession SdpCallback × List (Output SdpCallback)}
    (treated : Treated dialog remoteUserId result) (allRendered : dialog.AllRendered) :
    Rendered dialog.fullscreenView result.1 := by
  cases treated with
  | handled present event =>
    exact (allRendered _ _ present).of_same
      (congrArg Prod.snd (PeerSession.fixtures_handle _ event))
  | candidate present item =>
    exact (allRendered _ _ present).of_same
      (congrArg Prod.snd (PeerSession.fixtures_addRemoteCandidate _ item))
  | offered named owner options =>
    have rendered := rendered_prepareSession dialog.fullscreenView owner
      (callingSession remoteUserId options) remoteUserId
    exact rendered.of_same (congrArg Prod.snd (PeerSession.fixtures_createOffer _ _))
  | @answered named owner session found sdp =>
    have rendered := rendered_prepareSession dialog.fullscreenView owner session remoteUserId
    exact rendered.of_same (congrArg Prod.snd (PeerSession.fixtures_applyRemoteOffer _ _ _))

theorem fullscreenView_removeSession (dialog : Dialog) (remoteUserId : ByteString) :
    (dialog.removeSession remoteUserId).fullscreenView = dialog.fullscreenView := by
  rw [removeSession]
  split <;> rfl

theorem Effect.fullscreenView {dialog after : Dialog} (effect : Effect dialog after) :
    after.fullscreenView = dialog.fullscreenView := by
  cases effect with
  | aside same => exact congrArg (fun calls => calls.2.2) same
  | stored owner treated same => exact congrArg (fun calls => calls.2.2) same
  | removed owner same =>
    exact (congrArg (fun calls => calls.2.2) same).trans
      (dialog.fullscreenView_removeSession owner)
  | allowed checked same => exact congrArg (fun calls => calls.2.2) same

theorem Effect.allRendered {dialog after : Dialog} (effect : Effect dialog after)
    (allRendered : dialog.AllRendered) : after.AllRendered := by
  intro remoteUserId session present
  rw [effect.fullscreenView]
  rcases effect.origin present with
    ⟨same, -⟩ | ⟨result, treated, rfl, -⟩ | ⟨earlier, checked, found, rfl, -⟩
  · exact allRendered remoteUserId session same
  · exact treated.rendered allRendered
  · exact (allRendered remoteUserId earlier found).of_same rfl

/-! ### Entering and leaving fullscreen -/

/-- Fullscreen is only left while nobody but the active user is shown there. -/
def LeavesNobody (dialog : Dialog) : Action → Prop
  | .toggleFullscreen _ =>
    ∀ handle remoteUserId session renderer, dialog.fullscreenView = some handle →
      remoteUserId ≠ dialog.activeRemoteUserId →
      dialog.sessions.lookup remoteUserId = some session →
      session.remoteVideoRenderer = some renderer → renderer.target ≠ .fullscreen handle
  | _ => True

/-- Entering fullscreen moves the active picture there; the others are in the main view. -/
theorem allRendered_enter {dialog : Dialog} (allRendered : dialog.AllRendered)
    (windowed : dialog.fullscreenView = none) (handle : Nat) :
    ({ dialog with fullscreenView := some handle }.fullscreenChanged
      (.fullscreen handle)).AllRendered := by
  intro remoteUserId session present
  have view : ({ dialog with fullscreenView := some handle }.fullscreenChanged
      (.fullscreen handle)).fullscreenView = some handle := by
    unfold fullscreenChanged
    split
    · rfl
    · split <;> rfl
  rw [view]
  rw [lookup_fullscreenChanged] at present
  split at present
  · obtain ⟨earlier, -, rfl⟩ := Option.map_eq_some_iff.mp present
    exact rendered_updateRemoteVideoTarget (some handle) (.fullscreen handle) earlier rfl
  · intro renderer renders
    have shown := allRendered remoteUserId session present renderer renders
    rw [windowed] at shown
    cases target : renderer.target with
    | main => trivial
    | fullscreen other =>
      rw [target] at shown
      cases shown

/-- Leaving fullscreen keeps every picture exactly when nobody else is shown there. -/
theorem allRendered_leave {dialog : Dialog} (allRendered : dialog.AllRendered)
    (allBound : dialog.AllBound) {handle : Nat} (full : dialog.fullscreenView = some handle)
    (created : Option Nat) :
    (dialog.toggleFullscreen created).AllRendered ↔
      dialog.LeavesNobody (.toggleFullscreen created) := by
  have left : dialog.toggleFullscreen created =
      { dialog.fullscreenChanged .main with fullscreenView := none } := by
    rw [toggleFullscreen.eq_def, full]
  rw [left]
  constructor
  · intro rendered found remoteUserId session renderer view inactive present renders target
    have still : (dialog.fullscreenChanged .main).sessions.lookup remoteUserId = some session := by
      rw [lookup_fullscreenChanged, if_neg (by rintro ⟨active, -⟩; exact inactive active), present]
    have shown := rendered remoteUserId session still renderer renders
    rw [target] at shown
    cases shown
  · intro nobody remoteUserId session present
    have moved : (dialog.fullscreenChanged .main).sessions.lookup remoteUserId = some session :=
      present
    rw [lookup_fullscreenChanged] at moved
    split at moved
    · obtain ⟨earlier, -, rfl⟩ := Option.map_eq_some_iff.mp moved
      exact rendered_updateRemoteVideoTarget none .main earlier trivial
    · rename_i other
      have inactive : remoteUserId ≠ dialog.activeRemoteUserId := fun active =>
        other ⟨active, (allBound remoteUserId session moved).1⟩
      intro renderer renders
      have shown := allRendered remoteUserId session moved renderer renders
      have away := nobody handle remoteUserId session renderer full inactive moved renders
      cases target : renderer.target with
      | main => trivial
      | fullscreen window =>
        rw [target, full] at shown
        rw [target] at away
        exact absurd (congrArg Window.fullscreen (Option.some_inj.mp shown).symm) away

/-- A handler keeps every picture exactly when it leaves nobody in the fullscreen view. -/
theorem allRendered_next {dialog : Dialog} (allRendered : dialog.AllRendered)
    (allBound : dialog.AllBound) (action : Action) :
    (dialog.next action).AllRendered ↔ dialog.LeavesNobody action := by
  by_cases windowed : ∃ created, action = .toggleFullscreen created
  · obtain ⟨created, rfl⟩ := windowed
    cases view : dialog.fullscreenView with
    | some handle => exact allRendered_leave allRendered allBound view created
    | none =>
      have nobody : dialog.LeavesNobody (.toggleFullscreen created) := by
        intro handle remoteUserId session renderer full
        rw [view] at full
        cases full
      refine iff_of_true ?_ nobody
      rw [Dialog.next, toggleFullscreen.eq_def, view]
      cases created with
      | none => exact allRendered
      | some handle => exact allRendered_enter allRendered view handle
  · have kept : (dialog.taken action).AllRendered := by
      cases action <;> exact allRendered
    refine iff_of_true ((dialog.effect_next (not_exists.mp windowed)).allRendered kept) ?_
    cases action with
    | toggleFullscreen created => exact absurd ⟨created, rfl⟩ windowed
    | _ => trivial

end Dialog

/-- In every run that never leaves fullscreen while someone other than the active user is shown
there, every live session renders to a window that exists. The first step that does otherwise
breaks this. -/
theorem sessions_render_to_windows {dialog : Dialog}
    (reachable : (system.restrict Dialog.LeavesNobody).Reachable dialog) :
    dialog.AllRendered ∧
      ∀ action, (dialog.next action).AllRendered ↔ dialog.LeavesNobody action := by
  have rendered : dialog.AllRendered := by
    refine reachable.invariant ?_ fun dialog action reachable rendered allowed => ?_
    · rintro dialog rfl remoteUserId session present
      cases present
    · have allBound := Dialog.allBound_of_reachable reachable.of_restrict
      exact (Dialog.allRendered_next rendered allBound action).mpr allowed.2
  exact ⟨rendered, Dialog.allRendered_next rendered
    (Dialog.allBound_of_reachable reachable.of_restrict)⟩

/-- Bob calls and is shown in fullscreen. -/
def fullscreenCall : List Action :=
  [.signalingMessage .success
      (bytes "\x7b\"type\":\"offer\",\"sdp\":\"v=0\",\"fromUserId\":\"bob\"\x7d"),
    .toggleFullscreen (some 7)]

theorem sessions_render_to_windows_fullscreenCall :
    (system.run {} fullscreenCall).AllRendered ∧
      ((system.run {} fullscreenCall).next (.toggleFullscreen none)).AllRendered := by
  have windowed : (Dialog.next {} (.signalingMessage .success
      (bytes "\x7b\"type\":\"offer\",\"sdp\":\"v=0\",\"fromUserId\":\"bob\"\x7d"))
        ).fullscreenView = none := by decide
  have reachable : (system.restrict Dialog.LeavesNobody).Reachable
      (system.run {} fullscreenCall) := by
    refine Transition.System.Reachable.run_restrict (.start rfl) ⟨⟨trivial, trivial⟩, ⟨trivial, ?_⟩,
      trivial⟩
    intro handle remoteUserId session renderer full
    cases windowed.symm.trans full
  have active : (system.run {} fullscreenCall).activeRemoteUserId = bytes "bob" := by decide
  have keys : (system.run {} fullscreenCall).sessions.keys = [bytes "bob"] := by decide
  obtain ⟨rendered, next⟩ := sessions_render_to_windows reachable
  refine ⟨rendered, (next _).mpr ?_⟩
  intro handle remoteUserId session renderer full inactive present
  have key := Table.mem_keys_iff_lookup.mpr ⟨session, present⟩
  rw [keys, List.mem_singleton] at key
  exact absurd (key.trans active.symm) inactive

/-- While bob is shown in fullscreen, carol calls, and the user leaves fullscreen. -/
def strandedPicture : List Action :=
  fullscreenCall ++
    [.signalingMessage .success
        (bytes "\x7b\"type\":\"offer\",\"sdp\":\"v=0\",\"fromUserId\":\"carol\"\x7d"),
      .toggleFullscreen none]

/-- Bob's picture stays in the window that was destroyed. -/
theorem picture_stranded : ¬ ∀ dialog, system.Reachable dialog → dialog.AllRendered := by
  intro rendered
  have reachable : system.Reachable (system.run {} strandedPicture) :=
    (Transition.System.Reachable.start rfl).run ⟨trivial, trivial, trivial, trivial, trivial⟩
  have target : (((system.run {} strandedPicture).sessions.lookup (bytes "bob")).bind
      (·.remoteVideoRenderer)).map (·.target) = some (.fullscreen 7) := by decide
  have view : (system.run {} strandedPicture).fullscreenView = none := by decide
  obtain ⟨renderer, renders, stranded⟩ := Option.map_eq_some_iff.mp target
  obtain ⟨session, present, owned⟩ := Option.bind_eq_some_iff.mp renders
  have shown := rendered _ reachable (bytes "bob") session present renderer owned
  rw [stranded, view] at shown
  cases shown

end RemoteControl.Peer

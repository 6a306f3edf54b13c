/-
This file follows the keys from the main view and its fullscreen view to the
input callback. `OnKeyDown` and `OnKeyUp` decide separately which keys stay here:
no release of Escape is ever forwarded, but its press is, when it comes to the
main view outside fullscreen. Every other key is forwarded with both ends or with
neither, whatever happens to the views in between.
-/

import RemoteControl.Library.Transition
import RemoteControl.Video.View

namespace RemoteControl.Video

/-! ### The views -/

/-- The view a key message comes to. -/
inductive Pane where
  | main
  | fullscreen
  deriving DecidableEq

/-- The fullscreen view, and whether it has an input callback. -/
structure FullscreenView where
  view : VideoRenderWnd
  inputCallback : Bool := false

/-- The main view with its fullscreen view. -/
structure VideoViews where
  main : VideoRenderWnd
  inputCallback : Bool
  fullscreen : Bool := false
  fullscreenView : Option FullscreenView := none

/-- What `GetMonitorInfo` and `CreateFullscreen` answer: no monitor, no window, or a window of a
client size. -/
inductive Creation where
  | noMonitor
  | failed
  | created (clientWidth clientHeight : Int32)

/-- What the input callback is passed for a key. -/
structure KeyMessage where
  source : Pane
  isDown : Bool
  key : UInt32
  lParam : UInt32

/-- `MAKELPARAM`. -/
def makeLParam (low high : UInt32) : UInt32 := low % 65536 ||| (high % 65536) <<< 16

def vkEscape : UInt32 := 0x1B
def vkF10 : UInt32 := 0x79
def vkF11 : UInt32 := 0x7A

namespace VideoViews

variable (views : VideoViews)

/-- `ToggleScaleMode`. -/
def toggleScaleMode : VideoViews :=
  let originalSize := !views.main.originalSize
  { views with
    main := { views.main with originalSize := originalSize, frameDirty := true }
    fullscreenView := views.fullscreenView.map fun fullscreen =>
      { fullscreen with
        view := { fullscreen.view with originalSize := originalSize, frameDirty := true } } }

/-- `EnterFullscreen`. -/
def enterFullscreen (creation : Creation) : VideoViews :=
  if views.fullscreen then views
  else match creation with
    | .noMonitor => views
    | .failed => { views with fullscreenView := none }
    | .created clientWidth clientHeight =>
      let view : VideoRenderWnd :=
        { clientWidth := clientWidth
          clientHeight := clientHeight
          fullscreenOwner := true
          originalSize := views.main.originalSize
          frame := views.main.frame
          frameDirty := views.main.frame.isSome }
      { views with
        main := { views.main with frame := none, frameDirty := false }.releaseD3d
        fullscreen := true
        fullscreenView := some ⟨view, views.inputCallback⟩ }

/-- `ExitFullscreen`. -/
def exitFullscreen : VideoViews :=
  if !views.fullscreen then views
  else
    { views with
      main :=
        { views.main with
          frame := (views.fullscreenView.bind fun fullscreen => fullscreen.view.frame).or
            views.main.frame
          frameDirty := true }
      fullscreen := false
      fullscreenView := none }

/-- `ToggleFullscreen`. -/
def toggleFullscreen (creation : Creation) : VideoViews :=
  if views.fullscreen then views.exitFullscreen else views.enterFullscreen creation

/-- `fullscreen_` of a view; that of the fullscreen view is never set. -/
def isFullscreen : Pane → Bool
  | .main => views.fullscreen
  | .fullscreen => false

/-- A view has an input callback. -/
def hasInputCallback : Pane → Bool
  | .main => views.inputCallback
  | .fullscreen => views.fullscreenView.any FullscreenView.inputCallback

/-- `OnKeyDown` of a view. -/
def onKeyDown (pane : Pane) (injected : Bool) (creation : Creation)
    (key repeatCount flags : UInt32) : VideoViews × List KeyMessage :=
  if injected then (views, [])
  else if pane = .fullscreen ∧ (key = vkEscape ∨ key = vkF11) then (views.exitFullscreen, [])
  else if key = vkF10 then (views.toggleScaleMode, [])
  else if (key = vkEscape ∧ views.isFullscreen pane) ∨ key = vkF11 then
    (views.toggleFullscreen creation, [])
  else if views.hasInputCallback pane then
    (views, [⟨pane, true, key, makeLParam repeatCount flags⟩])
  else (views, [])

/-- `OnKeyUp` of a view. -/
def onKeyUp (pane : Pane) (injected : Bool) (key repeatCount flags : UInt32) : List KeyMessage :=
  if injected then []
  else if key = vkEscape ∨ key = vkF11 ∨ key = vkF10 then []
  else if views.hasInputCallback pane then [⟨pane, false, key, makeLParam repeatCount flags⟩]
  else []

/-- A view that can be sent messages. -/
def Exists : Pane → Prop
  | .main => True
  | .fullscreen => views.fullscreenView.isSome

instance (pane : Pane) : Decidable (views.Exists pane) :=
  match pane with
  | .main => isTrue trivial
  | .fullscreen => inferInstanceAs (Decidable (_ = true))

end VideoViews

/-! ### Presses and releases -/

/-- A key that was pressed and released, and which of the two the callback was passed. -/
structure Press where
  key : UInt32
  pressForwarded : Bool
  releaseForwarded : Bool

/-- The views, the keys that are down with whether their press was forwarded, the messages the
callback was passed, and the presses that are over; the newest come first. -/
structure Desk where
  views : VideoViews
  held : UInt32 → Option Bool := fun _ => none
  forwarded : List KeyMessage := []
  presses : List Press := []

/-- What happens at the desk. -/
inductive DeskAction where
  | keyDown (pane : Pane) (creation : Creation) (key repeatCount flags : UInt32)
  | keyUp (pane : Pane) (key repeatCount flags : UInt32)
  | toggleFullscreen (creation : Creation)
  | exitFullscreen
  | toggleScaleMode

namespace Desk

variable (desk : Desk)

/-- A key goes down, or is repeated while it is down. -/
def press (pane : Pane) (creation : Creation) (key repeatCount flags : UInt32) : Desk :=
  let (views, messages) := desk.views.onKeyDown pane false creation key repeatCount flags
  { desk with
    views := views
    held := Function.update desk.held key
      (some ((desk.held key).getD false || !messages.isEmpty))
    forwarded := messages ++ desk.forwarded }

/-- A key goes up. -/
def release (pane : Pane) (key repeatCount flags : UInt32) : Desk :=
  let messages := desk.views.onKeyUp pane false key repeatCount flags
  { desk with
    held := Function.update desk.held key none
    forwarded := messages ++ desk.forwarded
    presses := ⟨key, (desk.held key).getD false, !messages.isEmpty⟩ :: desk.presses }

def next : DeskAction → Desk
  | .keyDown pane creation key repeatCount flags =>
    desk.press pane creation key repeatCount flags
  | .keyUp pane key repeatCount flags => desk.release pane key repeatCount flags
  | .toggleFullscreen creation => { desk with views := desk.views.toggleFullscreen creation }
  | .exitFullscreen => { desk with views := desk.views.exitFullscreen }
  | .toggleScaleMode => { desk with views := desk.views.toggleScaleMode }

/-- Keys come to views that exist, and only a key that is down goes up. -/
def Allowed : DeskAction → Prop
  | .keyDown pane _ _ _ _ => desk.views.Exists pane
  | .keyUp pane key _ _ => desk.views.Exists pane ∧ (desk.held key).isSome
  | _ => True

instance (action : DeskAction) : Decidable (desk.Allowed action) :=
  match action with
  | .keyDown pane _ _ _ _ => inferInstanceAs (Decidable (desk.views.Exists pane))
  | .keyUp _ _ _ _ => inferInstanceAs (Decidable (_ ∧ _))
  | .toggleFullscreen _ | .exitFullscreen | .toggleScaleMode => isTrue trivial

/-- A desk outside fullscreen, where no key is down. -/
def system : Transition.System Desk DeskAction where
  initial desk := ∃ main inputCallback, desk = { views := { main, inputCallback } }
  allowed := Allowed
  next := next

/-! ### Balance -/

/-- The messages for a key, as whether each is a `WM_KEYDOWN`; the newest come first. -/
def edges (key : UInt32) : List Bool :=
  (desk.forwarded.filter fun message => message.key = key).map KeyMessage.isDown

/-- The runs of `WM_KEYDOWN`s: one starts where no other `WM_KEYDOWN` comes just before. -/
def runs : List Bool → Nat
  | [] => 0
  | isDown :: earlier =>
    if isDown ∧ earlier.head? ≠ some true then runs earlier + 1 else runs earlier

/-- For a key that is up, the callback was passed as many runs of `WM_KEYDOWN`s as `WM_KEYUP`s, and
for every press that is over, both ends or neither. -/
structure Balanced : Prop where
  counts : ∀ key, desk.held key = none →
    runs (desk.edges key) = (desk.edges key).count false
  presses : ∀ press ∈ desk.presses, press.pressForwarded = press.releaseForwarded

/-- No press of Escape comes to the main view outside fullscreen, where it would be forwarded. -/
def SparesEscape (action : DeskAction) : Prop :=
  ∀ creation repeatCount flags, action = .keyDown .main creation vkEscape repeatCount flags →
    desk.views.fullscreen = true ∨ desk.views.inputCallback = false

end Desk

/-! ### What the handlers forward -/

/-- A key that the views react to themselves. -/
def IsLocal (key : UInt32) : Prop := key = vkEscape ∨ key = vkF11 ∨ key = vkF10

instance (key : UInt32) : Decidable (IsLocal key) := inferInstanceAs (Decidable (_ ∨ _ ∨ _))

namespace VideoViews

/-- The keys whose releases are forwarded. -/
def forwards (views : VideoViews) (key : UInt32) : Bool :=
  views.inputCallback && !decide (IsLocal key)

/-- There is a fullscreen view exactly in fullscreen, and it has the input callback. -/
structure Coherent (views : VideoViews) : Prop where
  shown : views.fullscreen = views.fullscreenView.isSome
  callback : ∀ view ∈ views.fullscreenView, view.inputCallback = views.inputCallback

/-- The views after a toggle: still coherent, with the same input callback. -/
structure Kept (views after : VideoViews) : Prop where
  coherent : after.Coherent
  inputCallback : after.inputCallback = views.inputCallback

variable {views : VideoViews}

theorem Coherent.kept (coherent : views.Coherent) : views.Kept views := ⟨coherent, rfl⟩

theorem Coherent.toggleScaleMode (coherent : views.Coherent) :
    views.Kept views.toggleScaleMode := by
  refine ⟨⟨?_, ?_⟩, rfl⟩
  · exact coherent.shown.trans Option.isSome_map.symm
  · intro view present
    obtain ⟨view, before, rfl⟩ := Option.mem_map.mp present
    exact coherent.callback view before

theorem Coherent.enterFullscreen (coherent : views.Coherent) (creation : Creation) :
    views.Kept (views.enterFullscreen creation) := by
  rw [VideoViews.enterFullscreen.eq_def]
  split
  · exact coherent.kept
  · rename_i outside
    cases creation with
    | noMonitor => exact coherent.kept
    | failed =>
      exact ⟨⟨Bool.eq_false_iff.mpr outside, fun _ absent => absurd absent (Option.not_mem_none _)⟩,
        rfl⟩
    | created clientWidth clientHeight =>
      refine ⟨⟨rfl, fun view present => ?_⟩, rfl⟩
      rw [← Option.mem_some.mp present]

theorem Coherent.exitFullscreen (coherent : views.Coherent) :
    views.Kept views.exitFullscreen := by
  rw [VideoViews.exitFullscreen]
  split
  · exact coherent.kept
  · exact ⟨⟨rfl, fun _ absent => absurd absent (Option.not_mem_none _)⟩, rfl⟩

theorem Coherent.toggleFullscreen (coherent : views.Coherent) (creation : Creation) :
    views.Kept (views.toggleFullscreen creation) := by
  rw [VideoViews.toggleFullscreen]
  split
  · exact coherent.exitFullscreen
  · exact coherent.enterFullscreen creation

theorem Coherent.hasInputCallback (coherent : views.Coherent) {pane : Pane}
    (present : views.Exists pane) : views.hasInputCallback pane = views.inputCallback := by
  cases pane with
  | main => rfl
  | fullscreen =>
    obtain ⟨view, shown⟩ := Option.isSome_iff_exists.mp present
    rw [VideoViews.hasInputCallback, shown]
    exact coherent.callback view (Option.mem_def.mpr shown)

variable {pane : Pane} {creation : Creation} {key repeatCount flags : UInt32}

theorem forwards_of_isLocal (stays : IsLocal key) : views.forwards key = false := by
  rw [forwards, decide_eq_true stays, Bool.not_true, Bool.and_false]

theorem forwards_of_not_isLocal (leaves : ¬ IsLocal key) :
    views.forwards key = views.inputCallback := by
  rw [forwards, decide_eq_false leaves, Bool.not_false, Bool.and_true]

/-- The release of a key is forwarded from either view, if the key is not local. -/
theorem onKeyUp_eq (coherent : views.Coherent) (present : views.Exists pane) :
    views.onKeyUp pane false key repeatCount flags =
      if views.forwards key then [⟨pane, false, key, makeLParam repeatCount flags⟩] else [] := by
  rw [onKeyUp, if_neg Bool.false_ne_true, coherent.hasInputCallback present]
  by_cases stays : IsLocal key
  · rw [forwards_of_isLocal stays]
    exact if_pos stays
  · rw [forwards_of_not_isLocal stays]
    exact if_neg stays

/-- So is its press, save for Escape in the main view outside fullscreen. -/
theorem onKeyDown_eq (coherent : views.Coherent) (present : views.Exists pane)
    (spared : pane = .main → key = vkEscape →
      views.fullscreen = true ∨ views.inputCallback = false) :
    (views.onKeyDown pane false creation key repeatCount flags).2 =
      if views.forwards key then [⟨pane, true, key, makeLParam repeatCount flags⟩] else [] := by
  rw [onKeyDown, if_neg Bool.false_ne_true, coherent.hasInputCallback present]
  by_cases stays : IsLocal key
  · rw [forwards_of_isLocal stays, if_neg Bool.false_ne_true]
    split_ifs with inFullscreen scale toggle callback
    · rfl
    · rfl
    · rfl
    · -- the only local key that gets here is Escape, in the main view outside fullscreen
      push Not at inFullscreen toggle
      have escape : key = vkEscape :=
        stays.resolve_right (not_or.mpr ⟨toggle.2, scale⟩)
      have main : pane = .main := by
        cases pane with
        | main => rfl
        | fullscreen => exact absurd escape (inFullscreen rfl).1
      subst main
      rcases spared rfl escape with full | unset
      · exact absurd full (toggle.1 escape)
      · exact absurd callback (Bool.eq_false_iff.mp unset)
    · rfl
  · rw [forwards_of_not_isLocal stays]
    rw [IsLocal, not_or, not_or] at stays
    obtain ⟨notEscape, notF11, notF10⟩ := stays
    rw [if_neg fun both => both.2.elim notEscape notF11, if_neg notF10,
      if_neg fun either => either.elim (fun both => notEscape both.1) notF11]
    split_ifs <;> rfl

theorem kept_onKeyDown (coherent : views.Coherent) :
    views.Kept (views.onKeyDown pane false creation key repeatCount flags).1 := by
  rw [onKeyDown, if_neg Bool.false_ne_true]
  split_ifs
  · exact coherent.exitFullscreen
  · exact coherent.toggleScaleMode
  · exact coherent.toggleFullscreen creation
  · exact coherent.kept
  · exact coherent.kept

end VideoViews

/-! ### One key -/

namespace Desk

/-- What holds of one key: a press that is not over was forwarded if its release will be, the last
message is a `WM_KEYDOWN` exactly during a forwarded press, and the runs are counted up to that. -/
structure InStep (forwards : Bool) (held : Option Bool) (edges : List Bool) : Prop where
  press : ∀ pressed, held = some pressed → pressed = forwards
  last : edges.head? = some true ↔ held = some true
  counts : runs edges = edges.count false + if held = some true then 1 else 0

namespace InStep

variable {forwards pressed : Bool} {held : Option Bool} {edges : List Bool}

theorem initial : InStep forwards none [] :=
  ⟨fun _ absent => absurd absent.symm (Option.some_ne_none _), by decide, rfl⟩

theorem balanced (inStep : InStep forwards none edges) : runs edges = edges.count false :=
  inStep.counts

/-- A key that is not forwarded is not in the middle of a run. -/
theorem held_ne (inStep : InStep false held edges) : held ≠ some true :=
  fun down => Bool.noConfusion (inStep.press true down)

/-- Another `WM_KEYDOWN` starts a run if the key was up. -/
theorem down (inStep : InStep true held edges) : InStep true (some true) (true :: edges) := by
  refine ⟨fun pressed now => (Option.some_inj.mp now).symm, iff_of_true rfl rfl, ?_⟩
  rw [List.count_cons_of_ne (by decide), if_pos rfl, runs, inStep.counts]
  by_cases again : held = some true
  · rw [if_neg fun starts => starts.2 (inStep.last.mpr again), if_pos again]
  · rw [if_pos ⟨rfl, fun ends => again (inStep.last.mp ends)⟩, if_neg again]

theorem down_kept (inStep : InStep false held edges) : InStep false (some false) edges := by
  refine ⟨fun pressed now => (Option.some_inj.mp now).symm, ?_, ?_⟩
  · exact iff_of_false (fun ends => inStep.held_ne (inStep.last.mp ends)) (by decide)
  · rw [inStep.counts, if_neg inStep.held_ne, if_neg (by decide)]

/-- A `WM_KEYUP` ends a forwarded press. -/
theorem up (inStep : InStep true (some pressed) edges) : InStep true none (false :: edges) := by
  refine ⟨fun _ absent => absurd absent.symm (Option.some_ne_none _), by simp, ?_⟩
  have wasPressed : pressed = true := inStep.press pressed rfl
  rw [List.count_cons_self, runs, if_neg fun starts => Bool.noConfusion starts.1, inStep.counts,
    wasPressed, if_pos rfl, if_neg (by decide), Nat.add_zero]

theorem up_kept (inStep : InStep false (some pressed) edges) : InStep false none edges := by
  refine ⟨fun _ absent => absurd absent.symm (Option.some_ne_none _), ?_, ?_⟩
  · exact iff_of_false (fun ends => inStep.held_ne (inStep.last.mp ends)) (by decide)
  · rw [inStep.counts, if_neg inStep.held_ne, if_neg (by decide)]

end InStep

/-! ### One step -/

/-- The invariant of the desk. -/
structure Orderly (desk : Desk) : Prop where
  coherent : desk.views.Coherent
  inStep : ∀ key, InStep (desk.views.forwards key) (desk.held key) (desk.edges key)
  presses : ∀ press ∈ desk.presses, press.pressForwarded = press.releaseForwarded

variable {desk : Desk} {pane : Pane} {creation : Creation} {key other repeatCount flags : UInt32}

theorem Orderly.balanced (orderly : desk.Orderly) : desk.Balanced := by
  refine ⟨fun key up => ?_, orderly.presses⟩
  have inStep := orderly.inStep key
  rw [up] at inStep
  exact inStep.balanced

theorem forwards_of_kept {views after : VideoViews} (kept : views.Kept after) (key : UInt32) :
    after.forwards key = views.forwards key := by
  rw [VideoViews.forwards, VideoViews.forwards, kept.inputCallback]

/-- A toggle moves no key. -/
theorem Orderly.of_kept {views : VideoViews} (orderly : desk.Orderly)
    (kept : desk.views.Kept views) : { desk with views := views }.Orderly := by
  refine ⟨kept.coherent, fun key => ?_, orderly.presses⟩
  rw [forwards_of_kept kept]
  exact orderly.inStep key

/-- The messages of one handler, in front of those there were. -/
theorem edges_append {views : VideoViews} {held : UInt32 → Option Bool} {forwards : Bool}
    {message : KeyMessage} {forwarded : List KeyMessage} {presses : List Press} (other : UInt32) :
    edges ⟨views, held, (if forwards then [message] else []) ++ forwarded, presses⟩ other =
      if forwards ∧ message.key = other then
        message.isDown :: (forwarded.filter fun message => message.key = other).map
          KeyMessage.isDown
      else (forwarded.filter fun message => message.key = other).map KeyMessage.isDown := by
  rw [edges, List.filter_append]
  cases forwards with
  | false => rfl
  | true =>
    by_cases about : message.key = other <;> simp [about]

theorem Orderly.press (orderly : desk.Orderly) (present : desk.views.Exists pane)
    (spared : desk.SparesEscape (.keyDown pane creation key repeatCount flags)) :
    (desk.press pane creation key repeatCount flags).Orderly := by
  have kept : desk.views.Kept
      (desk.views.onKeyDown pane false creation key repeatCount flags).1 :=
    VideoViews.kept_onKeyDown orderly.coherent
  have spares : pane = .main → key = vkEscape →
      desk.views.fullscreen = true ∨ desk.views.inputCallback = false :=
    fun main escape => spared creation repeatCount flags (by rw [main, escape])
  have messages : (desk.views.onKeyDown pane false creation key repeatCount flags).2 =
      if desk.views.forwards key then [⟨pane, true, key, makeLParam repeatCount flags⟩] else [] :=
    VideoViews.onKeyDown_eq orderly.coherent present spares
  refine ⟨kept.coherent, fun other => ?_, orderly.presses⟩
  rw [Desk.press]
  simp only [forwards_of_kept kept, messages, edges_append]
  have inStep := orderly.inStep other
  by_cases same : key = other
  · subst same
    rw [Function.update_self]
    cases forwards : desk.views.forwards key with
    | true =>
      rw [forwards] at inStep
      simpa [edges] using inStep.down
    | false =>
      rw [forwards] at inStep
      have held : (desk.held key).getD false = false := by
        cases before : desk.held key with
        | none => rfl
        | some pressed => exact inStep.press pressed before
      simpa [edges, held] using inStep.down_kept
  · rw [Function.update_of_ne (Ne.symm same), if_neg fun both => same both.2]
    exact inStep

theorem Orderly.release (orderly : desk.Orderly) (present : desk.views.Exists pane)
    (down : (desk.held key).isSome) : (desk.release pane key repeatCount flags).Orderly := by
  have messages : desk.views.onKeyUp pane false key repeatCount flags =
      if desk.views.forwards key then [⟨pane, false, key, makeLParam repeatCount flags⟩] else [] :=
    VideoViews.onKeyUp_eq orderly.coherent present
  obtain ⟨pressed, held⟩ := Option.isSome_iff_exists.mp down
  have wasForwarded := (orderly.inStep key).press pressed held
  refine ⟨orderly.coherent, fun other => ?_, ?_⟩
  · rw [Desk.release]
    simp only [messages, edges_append]
    have inStep := orderly.inStep other
    by_cases same : key = other
    · subst same
      rw [Function.update_self]
      rw [held] at inStep
      cases forwards : desk.views.forwards key with
      | true =>
        rw [forwards] at inStep
        simpa [edges] using inStep.up
      | false =>
        rw [forwards] at inStep
        simpa [edges] using inStep.up_kept
    · rw [Function.update_of_ne (Ne.symm same), if_neg fun both => same both.2]
      exact inStep
  · intro press among
    rw [Desk.release, List.mem_cons] at among
    obtain rfl | before := among
    · simp only [held, Option.getD_some, wasForwarded, messages]
      cases desk.views.forwards key <;> rfl
    · exact orderly.presses press before

/-- A step that spares Escape keeps the desk in order. -/
theorem Orderly.next {action : DeskAction} (orderly : desk.Orderly)
    (allowed : desk.Allowed action) (spared : desk.SparesEscape action) :
    (desk.next action).Orderly := by
  cases action with
  | keyDown pane creation key repeatCount flags => exact orderly.press allowed spared
  | keyUp pane key repeatCount flags => exact orderly.release allowed.1 allowed.2
  | toggleFullscreen creation =>
    exact orderly.of_kept (orderly.coherent.toggleFullscreen creation)
  | exitFullscreen => exact orderly.of_kept orderly.coherent.exitFullscreen
  | toggleScaleMode => exact orderly.of_kept orderly.coherent.toggleScaleMode

theorem orderly_initial (main : VideoRenderWnd) (inputCallback : Bool) :
    Orderly { views := { main, inputCallback } } := by
  refine ⟨⟨rfl, fun _ absent => absurd absent (Option.not_mem_none _)⟩, fun key => ?_,
    fun _ absent => absurd absent List.not_mem_nil⟩
  exact InStep.initial

/-! ### Escape -/

/-- Outside fullscreen, the main view forwards the press of Escape. -/
theorem press_escape (outside : desk.views.fullscreen = false)
    (callback : desk.views.inputCallback = true) :
    desk.press .main creation vkEscape repeatCount flags =
      { desk with
        held := Function.update desk.held vkEscape (some true)
        forwarded := ⟨.main, true, vkEscape, makeLParam repeatCount flags⟩ :: desk.forwarded } := by
  have forwarded : desk.views.onKeyDown .main false creation vkEscape repeatCount flags =
      (desk.views, [⟨.main, true, vkEscape, makeLParam repeatCount flags⟩]) := by
    rw [VideoViews.onKeyDown, if_neg Bool.false_ne_true, if_neg (by decide), if_neg (by decide),
      if_neg, VideoViews.hasInputCallback, if_pos callback]
    rintro (⟨-, full⟩ | isF11)
    · exact Bool.noConfusion (outside.symm.trans full)
    · exact absurd isF11 (by decide)
  simp only [press, forwarded, List.isEmpty_cons, Bool.not_false, Bool.or_true]
  rfl

/-- No release of it is forwarded. -/
theorem release_escape : desk.release pane vkEscape repeatCount flags =
    { desk with
      held := Function.update desk.held vkEscape none
      presses := ⟨vkEscape, (desk.held vkEscape).getD false, false⟩ :: desk.presses } := rfl

/-- A press of Escape that is forwarded is never made up for. -/
theorem Orderly.not_balanced {action : DeskAction} (orderly : desk.Orderly)
    (hits : ¬ desk.SparesEscape action) :
    (desk.next action).Allowed (.keyUp .main vkEscape repeatCount flags) ∧
      ¬ ((desk.next action).next (.keyUp .main vkEscape repeatCount flags)).Balanced := by
  rw [SparesEscape] at hits
  push Not at hits
  obtain ⟨creation, repeated, flagged, rfl, outside, callback⟩ := hits
  rw [← Bool.eq_false_iff] at outside
  rw [Bool.ne_false_iff] at callback
  simp only [Desk.next, press_escape outside callback, release_escape]
  refine ⟨⟨trivial, ?_⟩, fun balanced => ?_⟩
  · show (Function.update desk.held vkEscape (some true) vkEscape).isSome
    rw [Function.update_self]
    rfl
  · have counts : runs (true :: desk.edges vkEscape) = (true :: desk.edges vkEscape).count false :=
      balanced.counts vkEscape (by simp only [Function.update_self])
    have inStep := orderly.inStep vkEscape
    rw [VideoViews.forwards_of_isLocal (Or.inl rfl)] at inStep
    rw [runs, if_pos ⟨rfl, fun ends => inStep.held_ne (inStep.last.mp ends)⟩,
      List.count_cons_of_ne (by decide), inStep.counts, if_neg inStep.held_ne] at counts
    omega

end Desk

/-- In every run that brings no press of Escape to the main view outside fullscreen, the messages
for each key are balanced. After the first such press they are not, once Escape is released. -/
theorem forwarded_keys_balanced {desk : Desk}
    (reachable : (Desk.system.restrict Desk.SparesEscape).Reachable desk) :
    desk.Balanced ∧ ∀ action, ¬ desk.SparesEscape action → ∀ repeatCount flags,
      (desk.next action).Allowed (.keyUp .main vkEscape repeatCount flags) ∧
        ¬ ((desk.next action).next (.keyUp .main vkEscape repeatCount flags)).Balanced := by
  have orderly : desk.Orderly := by
    refine reachable.invariant ?_ fun desk action _ orderly allowed => ?_
    · rintro desk ⟨main, inputCallback, rfl⟩
      exact Desk.orderly_initial main inputCallback
    · exact orderly.next allowed.1 allowed.2
  exact ⟨orderly.balanced, fun action hits repeatCount flags => orderly.not_balanced hits⟩

/-- A view in the main window, with an input callback. -/
def attendedDesk : Desk where
  views := { main := { clientWidth := 640, clientHeight := 360 }, inputCallback := true }

/-- A letter goes down in the main view and up in the fullscreen view, which Escape then leaves. -/
def letterAcrossViews : List DeskAction :=
  [.keyDown .main .noMonitor 0x41 1 0x1E, .toggleFullscreen (.created 1920 1080),
    .keyUp .fullscreen 0x41 1 0xC01E, .keyDown .fullscreen .noMonitor vkEscape 1 0x01,
    .keyUp .main vkEscape 1 0xC001]

theorem forwarded_keys_balanced_letter :
    (Desk.system.run attendedDesk letterAcrossViews).Balanced := by
  have start : (Desk.system.restrict Desk.SparesEscape).Reachable attendedDesk :=
    .start ⟨_, _, rfl⟩
  have reachable : (Desk.system.restrict Desk.SparesEscape).Reachable
      (Desk.system.run attendedDesk letterAcrossViews) := by
    refine start.run_restrict ⟨⟨trivial, ?_⟩, ⟨trivial, ?_⟩, ⟨⟨rfl, rfl⟩, ?_⟩, ⟨rfl, ?_⟩,
      ⟨⟨trivial, rfl⟩, ?_⟩, trivial⟩
    all_goals
      intro creation repeatCount flags same
      cases same
  exact (forwarded_keys_balanced reachable).1

/-- Escape is pressed and released in the main view outside fullscreen: its press is forwarded and
its release is not. -/
theorem escape_stuck :
    ¬ ∀ desk, Desk.system.Reachable desk → desk.Balanced := by
  intro balanced
  have start : Desk.system.Reachable attendedDesk := .start ⟨_, _, rfl⟩
  have reachable : Desk.system.Reachable (Desk.system.run attendedDesk
      [.keyDown .main .noMonitor vkEscape 1 0x01, .keyUp .main vkEscape 1 0xC001]) :=
    start.run ⟨trivial, ⟨trivial, rfl⟩, trivial⟩
  have counts := (balanced _ reachable).counts vkEscape rfl
  revert counts
  decide

end RemoteControl.Video

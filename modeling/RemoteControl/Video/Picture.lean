/-
This file proves where the picture is. In fit mode the video rectangle is the
largest one of the frame's shape that the window holds, up to the rounding of one
side, and no step of its computation overflows for sizes that Direct3D accepts.
`RenderD3d` draws into that rectangle whenever it draws, and only with such sizes.
-/

import RemoteControl.Video.View

namespace RemoteControl.Video

open Rounding

/-! ### Rectangles -/

namespace CRect

/-- One rectangle lies inside another. -/
def Inside (inner outer : CRect) : Prop :=
  outer.left ≤ inner.left ∧ outer.top ≤ inner.top ∧ inner.right ≤ outer.right ∧
    inner.bottom ≤ outer.bottom

/-- The margins on opposite sides of an inner rectangle differ by one pixel at most. -/
def CenteredIn (inner outer : CRect) : Prop :=
  |(inner.left - outer.left) - (outer.right - inner.right)| ≤ 1 ∧
    |(inner.top - outer.top) - (outer.bottom - inner.bottom)| ≤ 1

@[simp]
theorem width_centered (client : CRect) (width height : Int) :
    (client.centered width height).width = width := add_sub_cancel_left _ _

@[simp]
theorem height_centered (client : CRect) (width height : Int) :
    (client.centered width height).height = height := add_sub_cancel_left _ _

/-- A smaller rectangle is centered inside. -/
theorem centered_inside (client : CRect) {width height : Int} (narrower : width ≤ client.width)
    (lower : height ≤ client.height) :
    (client.centered width height).Inside client ∧
      (client.centered width height).CenteredIn client := by
  have columns : (client.width - width).tdiv 2 = (client.width - width) / 2 :=
    Int.tdiv_eq_ediv_of_nonneg (by omega)
  have rows : (client.height - height).tdiv 2 = (client.height - height) / 2 :=
    Int.tdiv_eq_ediv_of_nonneg (by omega)
  simp only [Inside, CenteredIn, centered, abs_le, columns, rows]
  rw [CRect.width] at *
  rw [CRect.height] at *
  omega

end CRect

/-! ### The size in fit mode -/

/-- A positive quotient that is rounded down, but not to zero, is off by less than one unit. -/
theorem abs_quotient_sub_lt {product divisor : Int} (positive : 0 < product)
    (divides : 0 < divisor) : |max 1 (product / divisor) * divisor - product| < divisor := by
  have upper := Int.lt_ediv_add_one_mul_self product divides
  have lower := Int.ediv_mul_le product divides.ne'
  rw [add_mul, one_mul] at upper
  rcases le_or_gt 1 (product / divisor) with some | none
  · rw [max_eq_right some, abs_lt]
    omega
  · have zero : product / divisor = 0 :=
      le_antisymm (by omega) (Int.ediv_nonneg positive.le divides.le)
    rw [zero, zero_mul, zero_add] at upper
    rw [max_eq_left none.le, one_mul, abs_lt]
    omega

/-- Products of two sides fit, and so do their quotients. -/
theorem fits_of_sides {first second third : Int} (firstSide : IsSide first)
    (secondSide : IsSide second) (thirdSide : IsSide third) :
    FitsLongLong (first * second) ∧ FitsInt (first * second / third) := by
  obtain ⟨low, high⟩ := firstSide
  obtain ⟨low', high'⟩ := secondSide
  have divides := thirdSide.1
  rw [maxSide] at high high'
  have positive : 0 ≤ first * second := mul_nonneg (by omega) (by omega)
  have bounded : first * second ≤ 16384 * 16384 :=
    mul_le_mul high high' (by omega) (by omega)
  have quotient : first * second / third ≤ first * second := Int.ediv_le_self _ positive
  have nonneg : 0 ≤ first * second / third := Int.ediv_nonneg positive (by omega)
  constructor
  · constructor <;> omega
  · constructor <;> omega

/-- The size of the largest picture of the frame's shape that the client area holds. -/
structure IsFitted (client : CRect) (frameWidth frameHeight width height : Int) : Prop where
  positive : 1 ≤ width ∧ 1 ≤ height
  narrower : width ≤ client.width
  lower : height ≤ client.height
  spans : width = client.width ∨ height = client.height
  aspect : |width * frameHeight - height * frameWidth| < max frameWidth frameHeight

namespace VideoRenderWnd

variable {view : VideoRenderWnd} {client : CRect} {frame : VideoFrameData}

/-- For sides Direct3D accepts, the casts of the fit change nothing. -/
theorem fitSize_of_sides (columns : IsSide client.width) (rows : IsSide client.height)
    (width : IsSide frame.width.toInt) (height : IsSide frame.height.toInt) :
    fitSize client frame =
      if client.height < client.width * frame.height.toInt / frame.width.toInt then
        (client.height * frame.width.toInt / frame.height.toInt, client.height)
      else (client.width, client.width * frame.height.toInt / frame.width.toInt) := by
  rw [fitSize]
  simp only [toInt_of_fits (fits_of_sides columns height width).2,
    toInt_of_fits (fits_of_sides rows width height).2]

/-- A picture that is too high at full width is narrower at full height. -/
theorem quotient_lt_of_tooHigh (width : 0 < frame.width.toInt) (height : 0 < frame.height.toInt)
    (tooHigh : client.height < client.width * frame.height.toInt / frame.width.toInt) :
    client.height * frame.width.toInt / frame.height.toInt < client.width := by
  have scaled : (client.height + 1) * frame.width.toInt ≤ client.width * frame.height.toInt :=
    (Int.le_ediv_iff_mul_le width).mp tooHigh
  refine Int.ediv_lt_of_lt_mul height ?_
  linarith [add_mul client.height 1 frame.width.toInt]

theorem isFitted_fitSize (columns : IsSide client.width) (rows : IsSide client.height)
    (width : IsSide frame.width.toInt) (height : IsSide frame.height.toInt) :
    IsFitted client frame.width.toInt frame.height.toInt (max 1 (fitSize client frame).1)
      (max 1 (fitSize client frame).2) := by
  have columnsPositive : 0 < client.width := columns.1
  have rowsPositive : 0 < client.height := rows.1
  have widthPositive : 0 < frame.width.toInt := width.1
  have heightPositive : 0 < frame.height.toInt := height.1
  rw [fitSize_of_sides columns rows width height]
  split
  · rename_i tooHigh
    have narrower := quotient_lt_of_tooHigh widthPositive heightPositive tooHigh
    have close := abs_quotient_sub_lt (mul_pos rowsPositive widthPositive) heightPositive
    simp only [max_eq_right rows.1]
    exact ⟨⟨le_max_left _ _, rows.1⟩, max_le columns.1 narrower.le, le_refl _, Or.inr rfl,
      close.trans_le (le_max_right _ _)⟩
  · rename_i fits
    have close := abs_quotient_sub_lt (mul_pos columnsPositive heightPositive) widthPositive
    rw [abs_sub_comm] at close
    simp only [max_eq_right columns.1]
    exact ⟨⟨columns.1, le_max_left _ _⟩, le_refl _, max_le rows.1 (not_lt.mp fits), Or.inl rfl,
      close.trans_le (le_max_left _ _)⟩

/-! ### The video rectangle -/

theorem width_clientRect (view : VideoRenderWnd) :
    view.clientRect.width = view.clientWidth.toInt := Int.sub_zero _

theorem height_clientRect (view : VideoRenderWnd) :
    view.clientRect.height = view.clientHeight.toInt := Int.sub_zero _

/-- Where the video is, for a frame and a client area that are not empty. -/
theorem calculateVideoRect_eq (framed : view.frame = some frame)
    (columns : 0 < view.clientWidth.toInt) (rows : 0 < view.clientHeight.toInt)
    (width : 0 < frame.width.toInt) (height : 0 < frame.height.toInt) :
    view.calculateVideoRect =
      if view.originalSize then
        view.clientRect.centered frame.width.toInt frame.height.toInt
      else
        view.clientRect.centered (max 1 (fitSize view.clientRect frame).1)
          (max 1 (fitSize view.clientRect frame).2) := by
  have shown :
      ¬ (view.clientRect.IsRectEmpty ∨ frame.width.toInt ≤ 0 ∨ frame.height.toInt ≤ 0) := by
    simp only [CRect.IsRectEmpty, clientRect]
    omega
  rw [calculateVideoRect, framed]
  simp only
  rw [if_neg shown]
  split
  · have columnsKept : max 1 frame.width.toInt = frame.width.toInt := max_eq_right width
    have rowsKept : max 1 frame.height.toInt = frame.height.toInt := max_eq_right height
    simp only [columnsKept, rowsKept]
  · rfl

theorem calculateVideoRect_nonempty (framed : view.frame = some frame)
    (columns : 0 < view.clientWidth.toInt) (rows : 0 < view.clientHeight.toInt)
    (width : 0 < frame.width.toInt) (height : 0 < frame.height.toInt) :
    ¬ view.calculateVideoRect.IsRectEmpty := by
  rw [calculateVideoRect_eq framed columns rows width height]
  split
  · simp only [CRect.IsRectEmpty, CRect.centered]
    omega
  · simp only [CRect.IsRectEmpty, CRect.centered]
    omega

end VideoRenderWnd

/-- A picture that is as large as the window allows. -/
structure FitsBest (client video : CRect) (frameWidth frameHeight : Int) : Prop where
  nonempty : ¬ video.IsRectEmpty
  inside : video.Inside client
  centered : video.CenteredIn client
  spans : video.width = client.width ∨ video.height = client.height
  aspect : |video.width * frameHeight - video.height * frameWidth| < max frameWidth frameHeight
  /-- One pixel more on both sides would leave the client area. -/
  maximal : client.width < video.width + 1 ∨ client.height < video.height + 1

/-- No value of the fit leaves its type, from the products to the corners. -/
structure NoOverflow (client video : CRect) (frameWidth frameHeight : Int) : Prop where
  heightProduct : FitsLongLong (client.width * frameHeight)
  height : FitsInt (client.width * frameHeight / frameWidth)
  widthProduct : FitsLongLong (client.height * frameWidth)
  width : FitsInt (client.height * frameWidth / frameHeight)
  margins : FitsInt (client.width - video.width) ∧ FitsInt (client.height - video.height)
  corners : FitsInt video.left ∧ FitsInt video.top ∧ FitsInt (video.left + video.width) ∧
    FitsInt (video.top + video.height)

theorem IsFitted.fitsBest {client : CRect} {frameWidth frameHeight width height : Int}
    (fitted : IsFitted client frameWidth frameHeight width height) :
    FitsBest client (client.centered width height) frameWidth frameHeight := by
  obtain ⟨inside, centered⟩ := client.centered_inside fitted.narrower fitted.lower
  have columns := client.width_centered width height
  have rows := client.height_centered width height
  refine ⟨?_, inside, centered, ?_, ?_, ?_⟩
  · rw [CRect.width] at columns
    rw [CRect.height] at rows
    rw [CRect.IsRectEmpty]
    have positive := fitted.positive
    omega
  · rw [columns, rows]
    exact fitted.spans
  · rw [columns, rows]
    exact fitted.aspect
  · rw [columns, rows]
    exact fitted.spans.imp (fun same => by omega) (fun same => by omega)

theorem fitsBest_calculateVideoRect {view : VideoRenderWnd} {frame : VideoFrameData}
    (framed : view.frame = some frame) (fit : view.originalSize = false)
    (columns : IsSide view.clientWidth.toInt) (rows : IsSide view.clientHeight.toInt)
    (width : IsSide frame.width.toInt) (height : IsSide frame.height.toInt) :
    FitsBest view.clientRect view.calculateVideoRect frame.width.toInt frame.height.toInt := by
  rw [VideoRenderWnd.calculateVideoRect_eq framed columns.1 rows.1 width.1 height.1, fit]
  refine (VideoRenderWnd.isFitted_fitSize ?_ ?_ width height).fitsBest
  · rwa [VideoRenderWnd.width_clientRect]
  · rwa [VideoRenderWnd.height_clientRect]

/-- In fit mode the picture is as large as the window allows and no value overflows, for every
size of the window and of the frame that Direct3D can display. -/
theorem fit_rectangle_largest {view : VideoRenderWnd} {frame : VideoFrameData}
    (framed : view.frame = some frame) (fit : view.originalSize = false)
    (columns : IsSide view.clientWidth.toInt) (rows : IsSide view.clientHeight.toInt)
    (width : IsSide frame.width.toInt) (height : IsSide frame.height.toInt) :
    FitsBest view.clientRect view.calculateVideoRect frame.width.toInt frame.height.toInt ∧
      NoOverflow view.clientRect view.calculateVideoRect frame.width.toInt frame.height.toInt := by
  have best := fitsBest_calculateVideoRect framed fit columns rows width height
  refine ⟨best, ?_⟩
  have sides : IsSide view.clientRect.width ∧ IsSide view.clientRect.height := by
    rw [VideoRenderWnd.width_clientRect, VideoRenderWnd.height_clientRect]
    exact ⟨columns, rows⟩
  have byWidth := fits_of_sides sides.1 height width
  have byHeight := fits_of_sides sides.2 width height
  obtain ⟨left, top, right, bottom⟩ := best.inside
  have nonempty := best.nonempty
  obtain ⟨-, columnsLimit⟩ := columns
  obtain ⟨-, rowsLimit⟩ := rows
  simp only [VideoRenderWnd.clientRect, maxSide, CRect.IsRectEmpty] at *
  refine ⟨byWidth.1, byWidth.2, byHeight.1, byHeight.2, ⟨?_, ?_⟩, ?_, ?_, ?_, ?_⟩ <;>
    simp only [FitsInt, CRect.width, CRect.height] <;> omega

/-- A wide frame in an ordinary window. -/
def wideView : VideoRenderWnd where
  clientWidth := 640
  clientHeight := 480
  frame := some { width := 1920, height := 1080, pixels := #[] }

theorem fit_rectangle_largest_wide :
    FitsBest wideView.clientRect wideView.calculateVideoRect 1920 1080 ∧
      wideView.calculateVideoRect = ⟨0, 60, 640, 420⟩ := by
  have framed : wideView.frame = some { width := 1920, height := 1080, pixels := #[] } := rfl
  exact ⟨(fit_rectangle_largest framed rfl (by decide) (by decide) (by decide) (by decide)).1,
    by decide⟩

/-! ### What is drawn -/

namespace VideoRenderWnd

variable {view : VideoRenderWnd} {answers : D3dAnswers} {frame : VideoFrameData}

/-- `EnsureD3d` touches only the Direct3D state, whose swap chain has the client size afterwards. -/
theorem ensureD3d_spec (view : VideoRenderWnd) (answers : D3dAnswers) :
    ∃ d3d frameDirty, (view.ensureD3d answers).1 = { view with d3d, frameDirty } ∧
      ((view.ensureD3d answers).2 = true → ∀ state, d3d = some state →
        state.swapChain.width = view.clientWidth ∧ state.swapChain.height = view.clientHeight) := by
  rw [ensureD3d]
  split
  · exact ⟨view.d3d, view.frameDirty, rfl, fun ready => nomatch ready⟩
  split
  · rename_i state present
    split
    · rw [resizeD3d]
      split
      · exact ⟨none, view.frameDirty, rfl, fun ready => nomatch ready⟩
      · rename_i swapChain made
        refine ⟨_, view.frameDirty, rfl, fun _ state same => ?_⟩
        rw [← Option.some_inj.mp same]
        exact makeSurface_size made
    · rename_i sameSize
      rw [not_or, not_not, not_not] at sameSize
      refine ⟨some state, view.frameDirty, by rw [← present], fun _ state' same => ?_⟩
      rw [← Option.some_inj.mp same]
      exact sameSize
  · split
    · exact ⟨view.d3d, view.frameDirty, rfl, fun ready => nomatch ready⟩
    · rename_i swapChain made
      refine ⟨_, true, rfl, fun _ state same => ?_⟩
      rw [← Option.some_inj.mp same]
      exact makeSurface_size made

/-- A prepared texture has the size of the frame. -/
theorem prepareTexture_size {state : D3dState}
    (ready : (D3dState.prepareTexture state answers frame).2 = true) :
    (D3dState.prepareTexture state answers frame).1.textureWidth = frame.width ∧
      (D3dState.prepareTexture state answers frame).1.textureHeight = frame.height := by
  rw [D3dState.prepareTexture] at ready ⊢
  split
  · rename_i differs
    rw [if_pos differs] at ready
    split
    · rename_i refused
      split at ready
      · cases ready
      · rename_i made
        rw [refused] at made
        cases made
    · exact ⟨rfl, rfl⟩
  · rename_i sameSize
    rw [not_or, not_not, not_not] at sameSize
    exact sameSize

/-- Once a frame with pixels is uploaded, the texture, if there is one, has its size. -/
theorem uploadFrame_spec {state : D3dState} (present : view.d3d = some state)
    (width : 0 < frame.width.toInt) (height : 0 < frame.height.toInt)
    (uploaded : (view.uploadFrame answers state frame).2 = true) :
    ∃ state' frameDirty,
      (view.uploadFrame answers state frame).1 = { view with d3d := some state', frameDirty } ∧
        (frame.pixels.size ≠ 0 →
          state'.textureWidth = frame.width ∧ state'.textureHeight = frame.height) := by
  rw [uploadFrame] at uploaded ⊢
  split
  · rename_i needed
    rw [if_pos needed] at uploaded
    simp only at uploaded ⊢
    split at uploaded
    · cases uploaded
    split at uploaded
    · cases uploaded
    split at uploaded
    · cases uploaded
    · rename_i ready enough mapped
      rw [if_neg ready, if_neg enough, if_neg mapped]
      exact ⟨_, false, rfl, fun _ => prepareTexture_size (Bool.not_eq_false _ ▸ ready)⟩
  · rename_i upToDate
    refine ⟨state, view.frameDirty, by rw [← present], fun pixels => ?_⟩
    by_contra differs
    rw [not_and_or] at differs
    exact upToDate ⟨pixels, width, height, Or.inr differs⟩

/-- `drawVideo` draws only with a texture and a frame. -/
theorem drawVideo_viewport (view : VideoRenderWnd) {drawn : CRect}
    (rendered : (view.drawVideo answers).viewport = some drawn) :
    (∃ state surface, view.d3d = some state ∧ state.videoView = some surface) ∧
      (∃ frame, view.frame = some frame ∧ frame.pixels.size ≠ 0) ∧
        drawn = view.calculateVideoRect := by
  have viewport : (view.drawVideo answers).viewport =
      view.frame.bind fun frame =>
        if (view.d3d.bind (·.videoView)).isSome ∧ frame.pixels.size ≠ 0 then
          some view.calculateVideoRect
        else none := by
    rw [drawVideo]
    cases answers.present <;> cases view.frame <;> rfl
  rw [viewport] at rendered
  obtain ⟨frame, framed, rendered⟩ := Option.bind_eq_some_iff.mp rendered
  split at rendered
  · rename_i textured
    obtain ⟨surface, viewed⟩ := Option.isSome_iff_exists.mp textured.1
    obtain ⟨state, present, made⟩ := Option.bind_eq_some_iff.mp viewed
    exact ⟨⟨state, surface, present, made⟩, ⟨frame, framed, textured.2⟩,
      (Option.some_inj.mp rendered).symm⟩
  · cases rendered

/-- The video is drawn into the video rectangle, in a window and from a texture of sizes that
Direct3D accepts. -/
theorem renderD3d_viewport {drawn : CRect} (framed : view.frame = some frame)
    (width : 0 < frame.width.toInt) (height : 0 < frame.height.toInt)
    (rendered : (view.renderD3d answers).viewport = some drawn) :
    drawn = view.calculateVideoRect ∧ IsSide view.clientWidth.toInt ∧
      IsSide view.clientHeight.toInt ∧ IsSide frame.width.toInt ∧ IsSide frame.height.toInt := by
  obtain ⟨clientWidth, clientHeight, shown, dirty, originalSize, fullscreenOwner, earlier⟩ := view
  cases framed
  obtain ⟨d3d, frameDirty, ensured, sized⟩ := ensureD3d_spec
    ⟨clientWidth, clientHeight, some frame, dirty, originalSize, fullscreenOwner, earlier⟩ answers
  rw [renderD3d] at rendered
  split at rendered
  · cases rendered
  simp only at rendered
  split at rendered
  · rename_i state ready present
    rw [ensured] at rendered present
    have swapChain := sized ready state present
    simp only at rendered
    split at rendered
    · rename_i uploaded
      obtain ⟨state', frameDirty', after, size⟩ :=
        uploadFrame_spec present width height uploaded
      rw [after] at rendered
      obtain ⟨⟨state'', surface, found, viewed⟩, ⟨frame', framed', pixels⟩, same⟩ :=
        drawVideo_viewport _ rendered
      rw [← Option.some_inj.mp found] at viewed
      rw [← Option.some_inj.mp framed'] at pixels
      obtain ⟨sameWidth, sameHeight⟩ := state'.viewSize surface viewed
      refine ⟨same, ?_, ?_, ?_, ?_⟩
      · rw [← swapChain.1]
        exact state.swapChain.widthFits
      · rw [← swapChain.2]
        exact state.swapChain.heightFits
      · rw [← (size pixels).1, ← sameWidth]
        exact surface.widthFits
      · rw [← (size pixels).2, ← sameHeight]
        exact surface.heightFits
    · cases rendered
  · cases rendered

end VideoRenderWnd

end RemoteControl.Video

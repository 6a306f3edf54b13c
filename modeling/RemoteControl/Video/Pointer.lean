/-
This file follows the pointer from the window to the screen of the other peer.
Points are taken relative to the rectangle the video is drawn in, except in a
fullscreen view in fit mode, where they are taken relative to the whole window:
there the two agree exactly when the picture leaves no bar. A pixel is scaled to
sixteen bits, to a pixel of the primary screen, and to the virtual desktop; every
step rounds, and what survives is proved from the rounding alone.
-/

import RemoteControl.Video.Picture

namespace RemoteControl.Video

open Rounding

/-! ### One coordinate -/

theorem toNat_ofInt {value : Int} (nonneg : 0 ≤ value) (small : value ≤ 65535) :
    ((UInt16.ofInt value).toNat : Int) = value := by
  rw [UInt16.ofInt, UInt16.toNat_ofNat']
  omega

namespace VideoRenderWnd

section

variable {mulDiv : MulDiv} {offset other size : Int}

/-- A pixel of an edge keeps its proportional place on the scale, up to rounding. -/
theorem nearest_normalizeAxis (mulDiv : MulDiv) (nonneg : 0 ≤ offset) (inside : offset < size)
    (fits : FitsInt size) :
    Nearest (offset * 65535) (max 1 (size - 1)) (normalizeAxis mulDiv offset size).toNat := by
  obtain ⟨-, limit⟩ := fits
  have scaled : Nearest (offset * 65535) (max 1 (size - 1))
      (mulDiv.scale offset 65535 (max 1 (size - 1))) := by
    refine mulDiv.nearest ⟨?_, ?_⟩ ⟨?_, ?_⟩ ⟨?_, ?_⟩ ?_ ?_
    all_goals try omega
    rw [abs_of_nonneg (by omega)]
    omega
  have bounds : 0 ≤ mulDiv.scale offset 65535 (max 1 (size - 1)) ∧
      mulDiv.scale offset 65535 (max 1 (size - 1)) ≤ 65535 :=
    scaled.mem_Icc (by omega) (by omega) (by omega)
  obtain ⟨low, high⟩ := bounds
  rwa [normalizeAxis, toNat_ofInt low high]

theorem normalizeAxis_zero (mulDiv : MulDiv) (positive : 0 < size) (fits : FitsInt size) :
    normalizeAxis mulDiv 0 size = 0 := by
  have nearest := nearest_normalizeAxis mulDiv (le_refl 0) positive fits
  have zero : ((normalizeAxis mulDiv 0 size).toNat : Int) = 0 :=
    nearest.eq_of_close (by omega) (by omega) (by omega)
  exact UInt16.toNat_inj.mp (by exact_mod_cast zero)

theorem normalizeAxis_last (mulDiv : MulDiv) (several : 1 < size) (fits : FitsInt size) :
    normalizeAxis mulDiv (size - 1) size = 65535 := by
  have inside : size - 1 < size := by omega
  have nearest := nearest_normalizeAxis mulDiv (by omega) inside fits
  have last : ((normalizeAxis mulDiv (size - 1) size).toNat : Int) = 65535 :=
    nearest.eq_of_close (by omega) (by omega) (by omega)
  exact UInt16.toNat_inj.mp (by exact_mod_cast last)

/-- On an edge that is shorter than the scale, different pixels stay apart. -/
theorem normalizeAxis_injective (nonneg : 0 ≤ offset) (inside : offset < size)
    (nonneg' : 0 ≤ other) (inside' : other < size) (short : size ≤ 65535)
    (same : normalizeAxis mulDiv offset size = normalizeAxis mulDiv other size) :
    offset = other := by
  have fits : FitsInt size := ⟨by omega, by omega⟩
  have first := nearest_normalizeAxis mulDiv nonneg inside fits
  have second := nearest_normalizeAxis mulDiv nonneg' inside' fits
  rw [same] at first
  rcases lt_trichotomy offset other with less | equal | greater
  · exact absurd (first.lt_of_apart (by omega) second (by omega)) (lt_irrefl _)
  · exact equal
  · exact absurd (second.lt_of_apart (by omega) first (by omega)) (lt_irrefl _)

end

end VideoRenderWnd

/-! ### Points and the picture -/

/-- Points of the window are taken relative to a picture in it: to their proportional place, from
one end of the scale at the first pixel of an edge to the other end at its last, and a point in a
bar like the pixel of the picture next to it. -/
structure PointsInto (mulDiv : MulDiv) (view : VideoRenderWnd) (drawn : CRect) : Prop where
  proportional : ∀ point, ∃ x y, view.normalizeVideoPoint mulDiv point = some (x, y) ∧
    Nearest (((drawn.clamp point).x - drawn.left) * 65535) (max 1 (drawn.width - 1)) x.toNat ∧
    Nearest (((drawn.clamp point).y - drawn.top) * 65535) (max 1 (drawn.height - 1)) y.toNat
  leftmost : ∀ row, ∃ y, view.normalizeVideoPoint mulDiv ⟨drawn.left, row⟩ = some (0, y)
  rightmost : 1 < drawn.width → ∀ row, ∃ y,
    view.normalizeVideoPoint mulDiv ⟨drawn.right - 1, row⟩ = some (65535, y)
  top : ∀ column, ∃ x, view.normalizeVideoPoint mulDiv ⟨column, drawn.top⟩ = some (x, 0)
  bottom : 1 < drawn.height → ∀ column, ∃ x,
    view.normalizeVideoPoint mulDiv ⟨column, drawn.bottom - 1⟩ = some (x, 65535)
  bars : ∀ point, view.normalizeVideoPoint mulDiv point =
    view.normalizeVideoPoint mulDiv (drawn.clamp point)

namespace CRect

theorem centered_eq_self_iff {client : CRect} {width height : Int} :
    client.centered width height = client ↔ width = client.width ∧ height = client.height := by
  constructor
  · intro same
    have columns := client.width_centered width height
    have rows := client.height_centered width height
    rw [same] at columns rows
    exact ⟨columns.symm, rows.symm⟩
  · rintro ⟨rfl, rfl⟩
    simp only [centered, sub_self, Int.zero_tdiv, add_zero, width, height, add_sub_cancel]

theorem clamp_clamp (rect : CRect) (point : CPoint) :
    rect.clamp (rect.clamp point) = rect.clamp point := by
  simp only [clamp, CPoint.mk.injEq]
  omega

theorem clamp_offset {rect : CRect} (nonempty : ¬ rect.IsRectEmpty) (point : CPoint) :
    (0 ≤ (rect.clamp point).x - rect.left ∧ (rect.clamp point).x - rect.left < rect.width) ∧
      0 ≤ (rect.clamp point).y - rect.top ∧ (rect.clamp point).y - rect.top < rect.height := by
  rw [IsRectEmpty] at nonempty
  simp only [clamp, width, height]
  omega

end CRect

namespace VideoRenderWnd

variable {view : VideoRenderWnd} {mulDiv : MulDiv}

theorem normalizeVideoPoint_eq (nonempty : ¬ view.normalizationBounds.IsRectEmpty)
    (mulDiv : MulDiv) (point : CPoint) :
    view.normalizeVideoPoint mulDiv point =
      some (normalizeAxis mulDiv
          ((view.normalizationBounds.clamp point).x - view.normalizationBounds.left)
          view.normalizationBounds.width,
        normalizeAxis mulDiv
          ((view.normalizationBounds.clamp point).y - view.normalizationBounds.top)
          view.normalizationBounds.height) := if_neg nonempty

/-- Points are taken relative to the bounds they are normalized with. -/
theorem pointsInto_normalizationBounds (nonempty : ¬ view.normalizationBounds.IsRectEmpty)
    (columns : FitsInt view.normalizationBounds.width)
    (rows : FitsInt view.normalizationBounds.height) :
    PointsInto mulDiv view view.normalizationBounds := by
  have positive : 0 < view.normalizationBounds.width ∧ 0 < view.normalizationBounds.height := by
    rw [CRect.IsRectEmpty] at nonempty
    rw [CRect.width, CRect.height]
    omega
  have first (low high value : Int) (room : low < high) (atLow : value = low) :
      max low (min value (high - 1)) - low = 0 := by omega
  have last (low high value : Int) (room : low < high) (atHigh : value = high - 1) :
      max low (min value (high - 1)) - low = high - low - 1 := by omega
  have room : view.normalizationBounds.left < view.normalizationBounds.right ∧
      view.normalizationBounds.top < view.normalizationBounds.bottom := by
    rw [CRect.IsRectEmpty] at nonempty
    omega
  refine ⟨fun point => ?_, fun row => ?_, fun several row => ?_, fun column => ?_,
    fun several column => ?_, fun point => ?_⟩
  · obtain ⟨⟨left, right⟩, top, bottom⟩ := CRect.clamp_offset nonempty point
    exact ⟨_, _, normalizeVideoPoint_eq nonempty mulDiv point,
      nearest_normalizeAxis mulDiv left right columns, nearest_normalizeAxis mulDiv top bottom rows⟩
  · rw [normalizeVideoPoint_eq nonempty, CRect.clamp, first _ _ _ room.1 rfl,
      normalizeAxis_zero mulDiv positive.1 columns]
    exact ⟨_, rfl⟩
  · rw [normalizeVideoPoint_eq nonempty, CRect.clamp, last _ _ _ room.1 rfl]
    exact ⟨_, by rw [← CRect.width, normalizeAxis_last mulDiv several columns]⟩
  · rw [normalizeVideoPoint_eq nonempty, CRect.clamp, first _ _ _ room.2 rfl,
      normalizeAxis_zero mulDiv positive.2 rows]
    exact ⟨_, rfl⟩
  · rw [normalizeVideoPoint_eq nonempty, CRect.clamp, last _ _ _ room.2 rfl]
    exact ⟨_, by rw [← CRect.height, normalizeAxis_last mulDiv several rows]⟩
  · rw [normalizeVideoPoint_eq nonempty, normalizeVideoPoint_eq nonempty, CRect.clamp_clamp]

/-- Different pixels of a window that is shorter than the scale are normalized differently. -/
theorem clamp_eq_of_normalizeVideoPoint_eq
    (nonempty : ¬ view.normalizationBounds.IsRectEmpty)
    (columns : view.normalizationBounds.width ≤ 65535)
    (rows : view.normalizationBounds.height ≤ 65535) {point other : CPoint}
    (same : view.normalizeVideoPoint mulDiv point = view.normalizeVideoPoint mulDiv other) :
    view.normalizationBounds.clamp point = view.normalizationBounds.clamp other := by
  rw [normalizeVideoPoint_eq nonempty, normalizeVideoPoint_eq nonempty, Option.some_inj,
    Prod.mk.injEq] at same
  obtain ⟨⟨left, right⟩, top, bottom⟩ := CRect.clamp_offset nonempty point
  obtain ⟨⟨left', right'⟩, top', bottom'⟩ := CRect.clamp_offset nonempty other
  have column := normalizeAxis_injective left right left' right' columns same.1
  have row := normalizeAxis_injective top bottom top' bottom' rows same.2
  rw [CPoint.ext_iff]
  omega

/-- The fitted picture leaves no bar: either its height comes out as the window's, or the window
is a single column. -/
def FillsClient (client : CRect) (frame : VideoFrameData) : Prop :=
  max 1 (client.width * frame.height.toInt / frame.width.toInt) = client.height ∨
    client.height < client.width * frame.height.toInt / frame.width.toInt ∧ client.width = 1

/-- The pointer is aligned with the picture outside fullscreen, in original size, and whenever the
picture fills the window. -/
def Aligned (view : VideoRenderWnd) (frame : VideoFrameData) : Prop :=
  view.fullscreenOwner = false ∨ view.originalSize = true ∨ FillsClient view.clientRect frame

variable {frame : VideoFrameData}

theorem fillsClient_iff (framed : view.frame = some frame) (fit : view.originalSize = false)
    (columns : IsSide view.clientWidth.toInt) (rows : IsSide view.clientHeight.toInt)
    (width : IsSide frame.width.toInt) (height : IsSide frame.height.toInt) :
    FillsClient view.clientRect frame ↔ view.calculateVideoRect = view.clientRect := by
  have columns' : IsSide view.clientRect.width := by rwa [width_clientRect]
  have rows' : IsSide view.clientRect.height := by rwa [height_clientRect]
  have fitted := isFitted_fitSize columns' rows' width height
  rw [calculateVideoRect_eq framed columns.1 rows.1 width.1 height.1, fit]
  simp only [Bool.false_eq_true, if_false]
  rw [CRect.centered_eq_self_iff, FillsClient]
  rw [fitSize_of_sides columns' rows' width height] at fitted ⊢
  have positive : 1 ≤ view.clientRect.width ∧ 1 ≤ view.clientRect.height := ⟨columns'.1, rows'.1⟩
  split
  · rename_i tooHigh
    rw [if_pos tooHigh] at fitted
    have smaller : view.clientRect.height * frame.width.toInt / frame.height.toInt <
        view.clientRect.width := quotient_lt_of_tooHigh width.1 height.1 tooHigh
    simp only
    omega
  · simp only
    omega

/-- The bounds in a fullscreen view in fit mode are the whole window, elsewhere the picture. -/
theorem normalizationBounds_eq_of_aligned (framed : view.frame = some frame)
    (columns : IsSide view.clientWidth.toInt) (rows : IsSide view.clientHeight.toInt)
    (width : IsSide frame.width.toInt) (height : IsSide frame.height.toInt)
    (aligned : view.Aligned frame) : view.normalizationBounds = view.calculateVideoRect := by
  rw [normalizationBounds]
  split
  · rename_i stretched
    rcases aligned with main | original | fills
    · rw [main] at stretched
      cases stretched.1
    · rw [original] at stretched
      cases stretched.2
    · exact ((fillsClient_iff framed stretched.2 columns rows width height).mp fills).symm
  · rfl

/-- The sides of the video rectangle are `int`s. -/
theorem fitsInt_calculateVideoRect (framed : view.frame = some frame)
    (columns : IsSide view.clientWidth.toInt) (rows : IsSide view.clientHeight.toInt)
    (width : IsSide frame.width.toInt) (height : IsSide frame.height.toInt) :
    FitsInt view.calculateVideoRect.width ∧ FitsInt view.calculateVideoRect.height := by
  cases scale : view.originalSize with
  | true =>
    rw [calculateVideoRect_eq framed columns.1 rows.1 width.1 height.1, scale, if_pos rfl,
      CRect.width_centered, CRect.height_centered]
    exact ⟨fitsInt_int32 _, fitsInt_int32 _⟩
  | false =>
    have fitted : IsFitted view.clientRect frame.width.toInt frame.height.toInt _ _ :=
      isFitted_fitSize (by rwa [width_clientRect]) (by rwa [height_clientRect]) width height
    have columnsFit := fitsInt_int32 view.clientWidth
    have rowsFit := fitsInt_int32 view.clientHeight
    obtain ⟨positive, narrower, lower, -, -⟩ := fitted
    rw [width_clientRect] at narrower
    rw [height_clientRect] at lower
    rw [calculateVideoRect_eq framed columns.1 rows.1 width.1 height.1, scale, if_neg (by decide),
      CRect.width_centered, CRect.height_centered]
    simp only [FitsInt] at columnsFit rowsFit ⊢
    omega

/-- When points in the bars of a window count as points of the picture, there are no bars. -/
theorem eq_of_bars {drawn : CRect} (inside : drawn.Inside view.normalizationBounds)
    (nonempty : ¬ drawn.IsRectEmpty) (columns : view.normalizationBounds.width ≤ 65535)
    (rows : view.normalizationBounds.height ≤ 65535)
    (bars : ∀ point, view.normalizeVideoPoint mulDiv point =
      view.normalizeVideoPoint mulDiv (drawn.clamp point)) : drawn = view.normalizationBounds := by
  have room : ¬ view.normalizationBounds.IsRectEmpty := by
    rw [CRect.IsRectEmpty] at nonempty ⊢
    obtain ⟨left, top, right, bottom⟩ := inside
    omega
  have corner (point : CPoint) := clamp_eq_of_normalizeVideoPoint_eq room columns rows (bars point)
  have low := corner ⟨view.normalizationBounds.left, view.normalizationBounds.top⟩
  have high := corner
    ⟨view.normalizationBounds.right - 1, view.normalizationBounds.bottom - 1⟩
  obtain ⟨left, top, right, bottom⟩ := inside
  rw [CRect.IsRectEmpty] at nonempty
  simp only [CRect.clamp, CPoint.mk.injEq] at low high
  rw [CRect.ext_iff]
  omega

end VideoRenderWnd

/-- Whenever the video is drawn, in either window and either scale mode: points are taken relative
to the rectangle it is drawn in exactly when the window is not a fullscreen view that shows bars. -/
theorem pointer_agrees_with_picture (mulDiv : MulDiv) {view : VideoRenderWnd} {answers : D3dAnswers}
    {frame : VideoFrameData} {drawn : CRect} (framed : view.frame = some frame)
    (width : 0 < frame.width.toInt) (height : 0 < frame.height.toInt)
    (rendered : (view.renderD3d answers).viewport = some drawn) :
    PointsInto mulDiv view drawn ↔ view.Aligned frame := by
  obtain ⟨rfl, columns, rows, widthFits, heightFits⟩ :=
    VideoRenderWnd.renderD3d_viewport framed width height rendered
  have nonempty := VideoRenderWnd.calculateVideoRect_nonempty framed columns.1 rows.1 width height
  constructor
  · intro pointsInto
    by_contra misaligned
    rw [VideoRenderWnd.Aligned, not_or, not_or, Bool.not_eq_false, Bool.not_eq_true] at misaligned
    obtain ⟨fullscreen, fit, bars⟩ := misaligned
    have whole : view.normalizationBounds = view.clientRect := if_pos ⟨fullscreen, fit⟩
    have best := fitsBest_calculateVideoRect framed fit columns rows widthFits heightFits
    have filled := VideoRenderWnd.fillsClient_iff framed fit columns rows widthFits heightFits
    refine bars (filled.mpr ?_)
    rw [← whole]
    refine VideoRenderWnd.eq_of_bars ?_ nonempty ?_ ?_ pointsInto.bars
    · rw [whole]
      exact best.inside
    · rw [whole, VideoRenderWnd.width_clientRect]
      exact columns.2.trans (by decide)
    · rw [whole, VideoRenderWnd.height_clientRect]
      exact rows.2.trans (by decide)
  · intro aligned
    have same := VideoRenderWnd.normalizationBounds_eq_of_aligned framed columns rows widthFits
      heightFits aligned
    rw [← same] at nonempty ⊢
    have fits := VideoRenderWnd.fitsInt_calculateVideoRect framed columns rows widthFits heightFits
    rw [← same] at fits
    exact VideoRenderWnd.pointsInto_normalizationBounds nonempty fits.1 fits.2

/-! ### `MulDiv` as it is documented -/

/-- The quotient of magnitudes, rounded to the nearest integer, a half away from zero. -/
def roundedMagnitude (product denominator : Int) : Int :=
  (2 * |product| + |denominator|) / (2 * |denominator|)

theorem nearest_roundedMagnitude {product denominator : Int} (positive : 0 < denominator) :
    Nearest |product| denominator (roundedMagnitude product denominator) := by
  rw [roundedMagnitude, abs_of_pos positive]
  have upper := Int.lt_ediv_add_one_mul_self (2 * |product| + denominator)
    (mul_pos two_pos positive)
  have lower := Int.ediv_mul_le (2 * |product| + denominator) (mul_pos two_pos positive).ne'
  constructor <;> linarith

/-- `MulDiv`: -1 for a zero denominator and for a result that is no `int`. -/
def MulDiv.documented : MulDiv where
  scale number numerator denominator :=
    let magnitude := roundedMagnitude (number * numerator) denominator
    let quotient :=
      if number * numerator < 0 ∧ 0 < denominator ∨ 0 < number * numerator ∧ denominator < 0 then
        -magnitude
      else magnitude
    if denominator = 0 ∨ quotient < -2 ^ 31 ∨ 2 ^ 31 ≤ quotient then -1 else quotient
  nearest {number numerator denominator} _ _ _ positive small := by
    have nearest : Nearest |number * numerator| denominator
        (roundedMagnitude (number * numerator) denominator) := nearest_roundedMagnitude positive
    have bounds : 0 ≤ roundedMagnitude (number * numerator) denominator ∧
        roundedMagnitude (number * numerator) denominator ≤ 2 ^ 31 - 1 :=
      nearest.mem_Icc positive (by rw [zero_mul]; exact abs_nonneg _) small.le
    have sign : (number * numerator < 0 ∧ 0 < denominator ∨
        0 < number * numerator ∧ denominator < 0) ↔ number * numerator < 0 := by omega
    simp only [sign]
    by_cases negative : number * numerator < 0
    · rw [abs_of_neg negative] at nearest
      simp only [if_pos negative]
      rw [if_neg (by omega)]
      constructor <;> linarith [nearest.1, nearest.2]
    · rw [abs_of_nonneg (not_lt.mp negative)] at nearest
      simp only [if_neg negative]
      rwa [if_neg (by omega)]

/-- Direct3D grants everything. -/
def granted : D3dAnswers where
  device := true
  resize := true
  texture := true
  map := true
  present := .other true

/-- A small picture in a wide fullscreen view, in original size. -/
def originalFullscreen : VideoRenderWnd where
  clientWidth := 8
  clientHeight := 4
  frame := some { width := 2, height := 2, pixels := Array.replicate 16 0 }
  frameDirty := true
  originalSize := true
  fullscreenOwner := true

theorem pointer_agrees_with_picture_originalFullscreen :
    PointsInto .documented originalFullscreen ⟨3, 1, 5, 3⟩ := by
  have rendered : (originalFullscreen.renderD3d granted).viewport = some ⟨3, 1, 5, 3⟩ := by decide
  exact (pointer_agrees_with_picture .documented rfl (by decide) (by decide) rendered).mpr
    (Or.inr (Or.inl rfl))

/-- The same picture fitted to the view. -/
def fittedFullscreen : VideoRenderWnd := { originalFullscreen with originalSize := false }

/-- The first column of the fitted picture is not at the end of the scale. -/
theorem fullscreen_pointer_misses :
    (fittedFullscreen.renderD3d granted).viewport = some ⟨2, 0, 6, 4⟩ ∧
      fittedFullscreen.normalizeVideoPoint .documented ⟨2, 0⟩ = some (18724, 0) ∧
      ¬ PointsInto .documented fittedFullscreen ⟨2, 0, 6, 4⟩ := by
  have first : fittedFullscreen.normalizeVideoPoint .documented ⟨2, 0⟩ = some (18724, 0) := by
    decide
  refine ⟨by decide, first, fun pointsInto => ?_⟩
  obtain ⟨row, leftmost⟩ := pointsInto.leftmost 0
  rw [first] at leftmost
  cases leftmost

end RemoteControl.Video

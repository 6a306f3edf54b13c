/-
This file models the video window: where `VideoRenderWnd` draws the picture and
how it turns a point of the window into a coordinate of the remote screen. Sizes
and points have the types of the source; what is computed from them is computed
in the integers, with the narrowing casts of the source written out.

The answers of Direct3D are arguments. It makes no surface with a side beyond its
limit, so a surface carries the bound on its sides. What is copied into the
texture, and the shaders, are left out.
-/

import RemoteControl.Library.Rounding
import RemoteControl.Signaling.Json

namespace RemoteControl.Video

open Rounding

/-! ### Integers of the source -/

/-- A value of type `int`. -/
def FitsInt (value : Int) : Prop := -2 ^ 31 ≤ value ∧ value < 2 ^ 31

/-- A value of type `long long`. -/
def FitsLongLong (value : Int) : Prop := -2 ^ 63 ≤ value ∧ value < 2 ^ 63

/-- `static_cast<int>` of a wider integer. -/
def toInt (value : Int) : Int := value.bmod (2 ^ 32)

theorem toInt_of_fits {value : Int} (fits : FitsInt value) : toInt value = value :=
  Int.bmod_eq_of_le fits.1 fits.2

theorem fitsInt_int32 (value : Int32) : FitsInt value.toInt := ⟨value.le_toInt, value.toInt_lt⟩

/-- `MulDiv` of Windows: the product of two integers divided by a third, rounded to a nearest
integer, when the arguments and the result are `int`s. -/
structure MulDiv where
  scale : Int → Int → Int → Int
  nearest : ∀ {number numerator denominator : Int}, FitsInt number → FitsInt numerator →
    FitsInt denominator → 0 < denominator → |number * numerator| < (2 ^ 31 - 1) * denominator →
      Nearest (number * numerator) denominator (scale number numerator denominator)

/-! ### Rectangles and frames -/

/-- `CPoint`. -/
@[ext]
structure CPoint where
  x : Int
  y : Int
  deriving DecidableEq

/-- `CRect`. -/
@[ext]
structure CRect where
  left : Int
  top : Int
  right : Int
  bottom : Int
  deriving DecidableEq

namespace CRect

def width (rect : CRect) : Int := rect.right - rect.left

def height (rect : CRect) : Int := rect.bottom - rect.top

/-- `IsRectEmpty`. -/
def IsRectEmpty (rect : CRect) : Prop := rect.right ≤ rect.left ∨ rect.bottom ≤ rect.top

instance (rect : CRect) : Decidable rect.IsRectEmpty :=
  inferInstanceAs (Decidable (rect.right ≤ rect.left ∨ rect.bottom ≤ rect.top))

/-- The rectangle of a size in the middle of another; half a pixel is rounded to zero. -/
def centered (client : CRect) (width height : Int) : CRect :=
  let left := client.left + (client.width - width).tdiv 2
  let top := client.top + (client.height - height).tdiv 2
  ⟨left, top, left + width, top + height⟩

/-- The pixel of the rectangle next to a point. -/
def clamp (rect : CRect) (point : CPoint) : CPoint :=
  ⟨max rect.left (min point.x (rect.right - 1)), max rect.top (min point.y (rect.bottom - 1))⟩

end CRect

/-- `VideoFrameData`. -/
structure VideoFrameData where
  width : Int32 := 0
  height : Int32 := 0
  pixels : Array Byte := #[]

/-! ### Direct3D -/

/-- The longest side of a texture and of a swap chain. -/
def maxSide : Int := 16384

/-- A side Direct3D accepts. -/
def IsSide (side : Int) : Prop := 1 ≤ side ∧ side ≤ maxSide

instance (side : Int) : Decidable (IsSide side) :=
  inferInstanceAs (Decidable (1 ≤ side ∧ side ≤ maxSide))

/-- A texture or a swap chain. -/
structure Surface where
  width : Int32
  height : Int32
  widthFits : IsSide width.toInt
  heightFits : IsSide height.toInt

/-- The surface Direct3D makes, given whether it can make one of an acceptable size. -/
def makeSurface (granted : Bool) (width height : Int32) : Option Surface :=
  if fits : granted = true ∧ IsSide width.toInt ∧ IsSide height.toInt then
    some ⟨width, height, fits.2.1, fits.2.2⟩
  else none

theorem makeSurface_size {granted : Bool} {width height : Int32} {surface : Surface}
    (made : makeSurface granted width height = some surface) :
    surface.width = width ∧ surface.height = height := by
  rw [makeSurface] at made
  split at made
  · rw [← Option.some_inj.mp made]
    exact ⟨rfl, rfl⟩
  · cases made

/-- `D3dState`: the swap chain, whose size is the client size, and the texture of the video with
the size it was made for. -/
structure D3dState where
  swapChain : Surface
  textureWidth : Int32 := 0
  textureHeight : Int32 := 0
  videoView : Option Surface := none
  viewSize : ∀ view ∈ videoView, view.width = textureWidth ∧ view.height = textureHeight

/-- Without a texture there is no size to note. -/
theorem viewSize_none {width height : Int32} :
    ∀ view ∈ (none : Option Surface), view.width = width ∧ view.height = height :=
  fun _ absent => absurd absent (Option.not_mem_none _)

/-- What `Present` answers. -/
inductive PresentResult where
  | stillDrawing
  | deviceLost
  | other (succeeded : Bool)
  deriving DecidableEq

/-- What Direct3D answers during one `RenderD3d`. -/
structure D3dAnswers where
  device : Bool
  resize : Bool
  texture : Bool
  map : Bool
  present : PresentResult

/-! ### VideoRenderWnd -/

/-- The state of `VideoRenderWnd` the picture depends on. The client size is what `GetClientRect`
reports; a window has a `fullscreenOwner` when it is the fullscreen view of another. -/
structure VideoRenderWnd where
  clientWidth : Int32
  clientHeight : Int32
  frame : Option VideoFrameData := none
  frameDirty : Bool := false
  originalSize : Bool := false
  fullscreenOwner : Bool := false
  d3d : Option D3dState := none

namespace VideoRenderWnd

variable (view : VideoRenderWnd)

/-- `GetClientRect`. -/
def clientRect : CRect := ⟨0, 0, view.clientWidth.toInt, view.clientHeight.toInt⟩

/-- The size the video has in fit mode, before the minimum of one pixel. -/
def fitSize (client : CRect) (frame : VideoFrameData) : Int × Int :=
  let height := toInt (client.width * frame.height.toInt / frame.width.toInt)
  if client.height < height then
    (toInt (client.height * frame.width.toInt / frame.height.toInt), client.height)
  else (client.width, height)

/-- `CalculateVideoRect`. -/
def calculateVideoRect : CRect :=
  match view.frame with
  | none => ⟨0, 0, 0, 0⟩
  | some frame =>
    if view.clientRect.IsRectEmpty ∨ frame.width.toInt ≤ 0 ∨ frame.height.toInt ≤ 0 then
      ⟨0, 0, 0, 0⟩
    else
      let (width, height) :=
        if view.originalSize then (frame.width.toInt, frame.height.toInt)
        else fitSize view.clientRect frame
      view.clientRect.centered (max 1 width) (max 1 height)

/-! ### Drawing -/

/-- `ReleaseD3d`. -/
def releaseD3d : VideoRenderWnd := { view with d3d := none }

/-- `ResizeD3d`, when the size has changed. -/
def resizeD3d (answers : D3dAnswers) (state : D3dState) : VideoRenderWnd × Bool :=
  match makeSurface answers.resize view.clientWidth view.clientHeight with
  | none => (view.releaseD3d, false)
  | some swapChain => ({ view with d3d := some { state with swapChain } }, true)

/-- `EnsureD3d` for the client size. -/
def ensureD3d (answers : D3dAnswers) : VideoRenderWnd × Bool :=
  if view.clientWidth.toInt ≤ 0 ∨ view.clientHeight.toInt ≤ 0 then (view, false)
  else
    match view.d3d with
    | some state =>
      if state.swapChain.width ≠ view.clientWidth ∨ state.swapChain.height ≠ view.clientHeight then
        view.resizeD3d answers state
      else (view, true)
    | none =>
      match makeSurface answers.device view.clientWidth view.clientHeight with
      | none => (view, false)
      | some swapChain =>
        ({ view with
            d3d := some { swapChain, viewSize := viewSize_none }
            frameDirty := true }, true)

/-- The texture for a frame: the one there is, or a new one when the size differs. A size is
noted only once there is a texture of it. -/
def D3dState.prepareTexture (state : D3dState) (answers : D3dAnswers) (frame : VideoFrameData) :
    D3dState × Bool :=
  if state.textureWidth ≠ frame.width ∨ state.textureHeight ≠ frame.height then
    match made : makeSurface answers.texture frame.width frame.height with
    | none => ({ state with videoView := none, viewSize := viewSize_none }, false)
    | some texture =>
      ({ state with
          textureWidth := frame.width
          textureHeight := frame.height
          videoView := some texture
          viewSize := fun _ present => makeSurface_size (made.trans present) }, true)
  else (state, true)

/-- The first half of `RenderD3d` after `EnsureD3d`: bring a new frame into the texture. -/
def uploadFrame (answers : D3dAnswers) (state : D3dState) (frame : VideoFrameData) :
    VideoRenderWnd × Bool :=
  if frame.pixels.size ≠ 0 ∧ 0 < frame.width.toInt ∧ 0 < frame.height.toInt ∧
      (view.frameDirty ∨ state.textureWidth ≠ frame.width ∨ state.textureHeight ≠ frame.height) then
    let (state, ready) := D3dState.prepareTexture state answers frame
    let view := { view with d3d := some state }
    if ready = false then (view, false)
    else if frame.pixels.size < frame.width.toInt * frame.height.toInt * 4 then (view, false)
    else if answers.map = false then (view, false)
    else ({ view with frameDirty := false }, true)
  else (view, true)

/-- What one `RenderD3d` leaves: the window, the viewport of the video, if it was drawn, and the
result. -/
structure Rendering where
  view : VideoRenderWnd
  viewport : Option CRect
  succeeded : Bool

/-- The second half of `RenderD3d`: draw the texture into the video rectangle, and present. -/
def drawVideo (answers : D3dAnswers) : Rendering :=
  let textured := (view.d3d.bind (·.videoView)).isSome
  let viewport :=
    match view.frame with
    | none => none
    | some frame =>
      if textured ∧ frame.pixels.size ≠ 0 then some view.calculateVideoRect else none
  match answers.present with
  | .stillDrawing => ⟨view, viewport, true⟩
  | .deviceLost => ⟨view.releaseD3d, viewport, false⟩
  | .other succeeded => ⟨view, viewport, succeeded⟩

/-- `RenderD3d`. -/
def renderD3d (answers : D3dAnswers) : Rendering :=
  if view.clientRect.IsRectEmpty then ⟨view, none, false⟩
  else
    let (view, ready) := view.ensureD3d answers
    match ready, view.d3d with
    | true, some state =>
      let (view, uploaded) :=
        match view.frame with
        | none => (view, true)
        | some frame => view.uploadFrame answers state frame
      if uploaded then view.drawVideo answers else ⟨view, none, false⟩
    | _, _ => ⟨view, none, false⟩

/-! ### Pointing -/

/-- One coordinate of `NormalizeVideoPoint`: how far a pixel lies along an edge. -/
def normalizeAxis (mulDiv : MulDiv) (offset size : Int) : UInt16 :=
  .ofInt (mulDiv.scale offset 65535 (max 1 (size - 1)))

/-- The rectangle `NormalizeVideoPoint` takes a point relative to. -/
def normalizationBounds : CRect :=
  if view.fullscreenOwner ∧ view.originalSize = false then view.clientRect
  else view.calculateVideoRect

/-- `NormalizeVideoPoint`. -/
def normalizeVideoPoint (mulDiv : MulDiv) (point : CPoint) : Option (UInt16 × UInt16) :=
  let bounds := view.normalizationBounds
  if bounds.IsRectEmpty then none
  else
    let pixel := bounds.clamp point
    some (normalizeAxis mulDiv (pixel.x - bounds.left) bounds.width,
      normalizeAxis mulDiv (pixel.y - bounds.top) bounds.height)

end VideoRenderWnd

end RemoteControl.Video

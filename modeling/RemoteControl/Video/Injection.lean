/-
This file follows a pixel of the picture to the screen it shows. `SendRemoteInput`
puts a point as two 16-bit values on the wire, and `FillAbsoluteMouseMove` scales
them to a pixel of the primary screen and from there to the virtual desktop. The
three roundings together move a pixel by at most one half and its share of the
first, both corners stay corners, and with equal resolutions nothing moves.
-/

import RemoteControl.Peer.ControlChannel
import RemoteControl.Video.Pointer

namespace RemoteControl.Video

open Rounding

/-! ### InputInjectorWin -/

/-- What `GetSystemMetrics` reports about the screens. -/
structure SystemMetrics where
  xVirtualScreen : Int32
  yVirtualScreen : Int32
  cxVirtualScreen : Int32
  cyVirtualScreen : Int32
  cxScreen : Int32
  cyScreen : Int32

/-- The mouse part of `INPUT`. -/
structure MouseInput where
  dx : Int
  dy : Int
  dwExtraInfo : UInt64
  dwFlags : UInt32
  deriving DecidableEq

/-- `kRemoteInputMarker`. -/
def remoteInputMarker : UInt64 := 0x52435431

/-- `MOUSEEVENTF_MOVE | MOUSEEVENTF_ABSOLUTE | MOUSEEVENTF_VIRTUALDESK`. -/
def absoluteMoveFlags : UInt32 := 0x0001 ||| 0x8000 ||| 0x4000

/-- The size of a screen, but at least two pixels. -/
def screenSize (metric : Int32) : Int := if 1 < metric.toInt then metric.toInt else 2

/-- A 16-bit coordinate as a pixel of the primary screen. -/
def primaryPixel (mulDiv : MulDiv) (normalized : UInt16) (screen : Int32) : Int :=
  mulDiv.scale normalized.toNat (screenSize screen - 1) 65535

/-- A pixel of the primary screen as a coordinate of the virtual desktop, before the clamp. -/
def virtualCoordinate (mulDiv : MulDiv) (pixel : Int) (origin size : Int32) : Int :=
  mulDiv.scale (pixel - origin.toInt) 65535 (screenSize size - 1)

/-- The clamp of a virtual coordinate. -/
def absoluteCoordinate (mulDiv : MulDiv) (pixel : Int) (origin size : Int32) : Int :=
  max 0 (min 65535 (virtualCoordinate mulDiv pixel origin size))

/-- `FillAbsoluteMouseMove`. -/
def fillAbsoluteMouseMove (mulDiv : MulDiv) (metrics : SystemMetrics) (x y : UInt16) : MouseInput :=
  let primaryX := primaryPixel mulDiv x metrics.cxScreen
  let primaryY := primaryPixel mulDiv y metrics.cyScreen
  { dx := absoluteCoordinate mulDiv primaryX metrics.xVirtualScreen metrics.cxVirtualScreen
    dy := absoluteCoordinate mulDiv primaryY metrics.yVirtualScreen metrics.cyVirtualScreen
    dwExtraInfo := remoteInputMarker
    dwFlags := absoluteMoveFlags }

/-- A normalized point as `SendMouseMove` packs it and `OnMessage` reads it. -/
def overWire (normalized : UInt16 × UInt16) : UInt16 × UInt16 :=
  let packet := Peer.ControlPacket.ofBytes (Peer.ControlPacket.toBytes
    { type := 1, arg1 := normalized.1, arg2 := normalized.2.toUInt32.toInt32 })
  (packet.arg1, packet.arg2.toUInt32.toUInt16)

theorem overWire_eq (normalized : UInt16 × UInt16) : overWire normalized = normalized := by
  rw [overWire, Peer.ControlPacket.ofBytes_toBytes]
  simp only [UInt32.toUInt32_toInt32, UInt16.toUInt16_toUInt32]

/-- The input that is injected on the other side for a point of the window. -/
def VideoRenderWnd.remoteMove (view : VideoRenderWnd) (mulDiv : MulDiv) (metrics : SystemMetrics)
    (point : CPoint) : Option MouseInput :=
  ((view.normalizeVideoPoint mulDiv point).map overWire).map fun normalized =>
    fillAbsoluteMouseMove mulDiv metrics normalized.1 normalized.2

/-- The pixel of the primary screen a point of the window ends up at. -/
def VideoRenderWnd.remotePixel (view : VideoRenderWnd) (mulDiv : MulDiv) (metrics : SystemMetrics)
    (point : CPoint) : Option CPoint :=
  ((view.normalizeVideoPoint mulDiv point).map overWire).map fun normalized =>
    ⟨primaryPixel mulDiv normalized.1 metrics.cxScreen,
      primaryPixel mulDiv normalized.2 metrics.cyScreen⟩

/-! ### One axis -/

/-- Sizes along one axis: of the drawn video, of the primary screen, which starts at zero, and of
the virtual desktop around it. -/
structure AxisSizes (drawn : Int) (primary virtualOrigin virtualSize : Int32) : Prop where
  drawnRange : 2 ≤ drawn ∧ drawn ≤ 65536
  primaryRange : 2 ≤ primary.toInt ∧ primary.toInt ≤ 65536
  virtualRange : primary.toInt ≤ virtualSize.toInt ∧ virtualSize.toInt ≤ 65536
  origin : virtualOrigin.toInt ≤ 0
  contains : primary.toInt ≤ virtualOrigin.toInt + virtualSize.toInt

/-- What the pipeline does to the drawn pixels of one axis, and to the pixels of the screen. -/
structure Accurate (drawn primary : Int) (position : Int → Int) (unclamped absolute : Int → Int) :
    Prop where
  monotone : ∀ pixel later, 0 ≤ pixel → pixel ≤ later → later < drawn →
    position pixel ≤ position later
  first : position 0 = 0
  last : position (drawn - 1) = primary - 1
  close : ∀ pixel, 0 ≤ pixel → pixel < drawn →
    |(position pixel : ℚ) - pixel * (primary - 1) / (drawn - 1)| ≤ 1 / 2 + (primary - 1) / 131070
  identity : primary = drawn → ∀ pixel, 0 ≤ pixel → pixel < drawn → position pixel = pixel
  /-- The clamp has nothing to do. -/
  unclamped : ∀ pixel, 0 ≤ pixel → pixel < primary →
    (0 ≤ unclamped pixel ∧ unclamped pixel ≤ 65535) ∧ absolute pixel = unclamped pixel
  injective : ∀ pixel other, 0 ≤ pixel → pixel < primary → 0 ≤ other → other < primary →
    absolute pixel = absolute other → pixel = other

section

variable {drawn : Int} {primary virtualOrigin virtualSize : Int32}

theorem AxisSizes.screenSizes (sizes : AxisSizes drawn primary virtualOrigin virtualSize) :
    screenSize primary = primary.toInt ∧ screenSize virtualSize = virtualSize.toInt := by
  have several := sizes.primaryRange.1
  have larger := sizes.virtualRange.1
  exact ⟨if_pos (by omega), if_pos (by omega)⟩

theorem AxisSizes.nearest_primaryPixel (sizes : AxisSizes drawn primary virtualOrigin virtualSize)
    (mulDiv : MulDiv) (normalized : UInt16) :
    Nearest (normalized.toNat * (primary.toInt - 1)) 65535
      (primaryPixel mulDiv normalized primary) := by
  obtain ⟨several, limit⟩ := sizes.primaryRange
  have small := normalized.toNat_lt
  have product : (normalized.toNat : Int) * (primary.toInt - 1) ≤ 65535 * 65535 :=
    mul_le_mul (by omega) (by omega) (by omega) (by omega)
  have nonneg : 0 ≤ (normalized.toNat : Int) * (primary.toInt - 1) :=
    mul_nonneg (by omega) (by omega)
  rw [primaryPixel, sizes.screenSizes.1]
  refine mulDiv.nearest ⟨by omega, by omega⟩ ⟨by omega, by omega⟩ ⟨by omega, by omega⟩
    (by omega) ?_
  rw [abs_of_nonneg nonneg]
  omega

theorem AxisSizes.nearest_virtualCoordinate
    (sizes : AxisSizes drawn primary virtualOrigin virtualSize) (mulDiv : MulDiv) {pixel : Int}
    (nonneg : 0 ≤ pixel) (inside : pixel < primary.toInt) :
    Nearest ((pixel - virtualOrigin.toInt) * 65535) (virtualSize.toInt - 1)
      (virtualCoordinate mulDiv pixel virtualOrigin virtualSize) := by
  rw [virtualCoordinate, sizes.screenSizes.2]
  obtain ⟨-, ⟨several, -⟩, ⟨larger, limit⟩, origin, contains⟩ := sizes
  refine mulDiv.nearest ⟨by omega, by omega⟩ ⟨by omega, by omega⟩ ⟨by omega, by omega⟩
    (by omega) ?_
  rw [abs_of_nonneg (by omega)]
  omega

/-- One axis of the pipeline: the position of a drawn pixel on the primary screen. -/
def axisPosition (mulDiv : MulDiv) (drawn : Int) (primary : Int32) (pixel : Int) : Int :=
  primaryPixel mulDiv (VideoRenderWnd.normalizeAxis mulDiv pixel drawn) primary

namespace AxisSizes

variable (sizes : AxisSizes drawn primary virtualOrigin virtualSize) (mulDiv : MulDiv)
  {pixel other : Int}

include sizes

theorem fitsInt_drawn : FitsInt drawn := by
  obtain ⟨several, limit⟩ := sizes.drawnRange
  exact ⟨by omega, by omega⟩

/-- The first of the two scalings. -/
theorem nearest_normalized (nonneg : 0 ≤ pixel) (inside : pixel < drawn) :
    Nearest (pixel * 65535) (drawn - 1)
      (VideoRenderWnd.normalizeAxis mulDiv pixel drawn).toNat := by
  have nearest := VideoRenderWnd.nearest_normalizeAxis mulDiv nonneg inside sizes.fitsInt_drawn
  have several := sizes.drawnRange.1
  rwa [max_eq_right (by omega)] at nearest

theorem axisPosition_mono (nonneg : 0 ≤ pixel) (ordered : pixel ≤ other) (inside : other < drawn) :
    axisPosition mulDiv drawn primary pixel ≤ axisPosition mulDiv drawn primary other := by
  have several := sizes.drawnRange.1
  have positive := sizes.primaryRange.1
  rcases eq_or_lt_of_le ordered with rfl | less
  · exact le_refl _
  have scaled : (VideoRenderWnd.normalizeAxis mulDiv pixel drawn).toNat ≤
      ((VideoRenderWnd.normalizeAxis mulDiv other drawn).toNat : Int) :=
    (sizes.nearest_normalized mulDiv nonneg (by omega)).le_of_lt (by omega)
      (sizes.nearest_normalized mulDiv (by omega) inside) (by omega)
  rcases eq_or_lt_of_le scaled with same | less
  · have equal : VideoRenderWnd.normalizeAxis mulDiv pixel drawn =
        VideoRenderWnd.normalizeAxis mulDiv other drawn :=
      UInt16.toNat_inj.mp (by exact_mod_cast same)
    rw [axisPosition, axisPosition, equal]
  · exact (sizes.nearest_primaryPixel mulDiv _).le_of_lt (by decide)
      (sizes.nearest_primaryPixel mulDiv _) (mul_lt_mul_of_pos_right less (by omega))

theorem axisPosition_zero : axisPosition mulDiv drawn primary 0 = 0 := by
  have several := sizes.drawnRange.1
  have nearest := sizes.nearest_primaryPixel mulDiv 0
  rw [axisPosition, VideoRenderWnd.normalizeAxis_zero mulDiv (by omega) sizes.fitsInt_drawn]
  refine nearest.eq_of_close (by decide) ?_ ?_ <;> simp

theorem axisPosition_last :
    axisPosition mulDiv drawn primary (drawn - 1) = primary.toInt - 1 := by
  have several := sizes.drawnRange.1
  have nearest := sizes.nearest_primaryPixel mulDiv 65535
  rw [axisPosition, VideoRenderWnd.normalizeAxis_last mulDiv (by omega) sizes.fitsInt_drawn]
  rw [mul_comm] at nearest
  exact nearest.eq_of_exact (by decide)

theorem axisPosition_close (nonneg : 0 ≤ pixel) (inside : pixel < drawn) :
    |(axisPosition mulDiv drawn primary pixel : ℚ) -
        pixel * (primary.toInt - 1) / (drawn - 1)| ≤ 1 / 2 + (primary.toInt - 1) / 131070 := by
  have several := sizes.drawnRange.1
  have positive := sizes.primaryRange.1
  have close := abs_rescale_sub_le (by omega) (by decide) (by omega)
    (sizes.nearest_normalized mulDiv nonneg inside) (sizes.nearest_primaryPixel mulDiv _)
  push_cast at close
  norm_num at close ⊢
  exact close

theorem axisPosition_identity (same : primary.toInt = drawn) (nonneg : 0 ≤ pixel)
    (inside : pixel < drawn) : axisPosition mulDiv drawn primary pixel = pixel := by
  obtain ⟨several, limit⟩ := sizes.drawnRange
  have placed := sizes.nearest_primaryPixel mulDiv (VideoRenderWnd.normalizeAxis mulDiv pixel drawn)
  rw [same] at placed
  exact rescale_back (by omega) (by omega) (sizes.nearest_normalized mulDiv nonneg inside) placed

/-- Pixels of the primary screen lie on the virtual desktop. -/
theorem virtualCoordinate_mem (nonneg : 0 ≤ pixel) (inside : pixel < primary.toInt) :
    0 ≤ virtualCoordinate mulDiv pixel virtualOrigin virtualSize ∧
      virtualCoordinate mulDiv pixel virtualOrigin virtualSize ≤ 65535 := by
  have nearest := sizes.nearest_virtualCoordinate mulDiv nonneg inside
  obtain ⟨-, ⟨several, -⟩, ⟨larger, -⟩, origin, contains⟩ := sizes
  exact nearest.mem_Icc (by omega) (by omega) (by omega)

theorem absoluteCoordinate_eq (nonneg : 0 ≤ pixel) (inside : pixel < primary.toInt) :
    absoluteCoordinate mulDiv pixel virtualOrigin virtualSize =
      virtualCoordinate mulDiv pixel virtualOrigin virtualSize := by
  obtain ⟨low, high⟩ := sizes.virtualCoordinate_mem mulDiv nonneg inside
  rw [absoluteCoordinate, min_eq_right high, max_eq_right low]

/-- Of two pixels the right one lies further right on the virtual desktop. -/
theorem virtualCoordinate_lt (nonneg : 0 ≤ pixel) (less : pixel < other)
    (inside : other < primary.toInt) :
    virtualCoordinate mulDiv pixel virtualOrigin virtualSize <
      virtualCoordinate mulDiv other virtualOrigin virtualSize := by
  have first := sizes.nearest_virtualCoordinate mulDiv nonneg (by omega)
  have second := sizes.nearest_virtualCoordinate mulDiv (by omega) inside
  obtain ⟨-, ⟨several, -⟩, ⟨larger, limit⟩, -, -⟩ := sizes
  rcases eq_or_lt_of_le limit with whole | narrower
  · -- The scale has one step for each pixel, and nothing is rounded.
    rw [whole] at first second
    rw [first.eq_of_exact (by decide), second.eq_of_exact (by decide)]
    omega
  · exact first.lt_of_apart (by omega) second (by omega)

theorem accurate : Accurate drawn primary.toInt (axisPosition mulDiv drawn primary)
    (fun pixel => virtualCoordinate mulDiv pixel virtualOrigin virtualSize)
    (fun pixel => absoluteCoordinate mulDiv pixel virtualOrigin virtualSize) where
  monotone _ _ nonneg ordered inside := sizes.axisPosition_mono mulDiv nonneg ordered inside
  first := sizes.axisPosition_zero mulDiv
  last := sizes.axisPosition_last mulDiv
  close _ nonneg inside := sizes.axisPosition_close mulDiv nonneg inside
  identity same _ nonneg inside := sizes.axisPosition_identity mulDiv same nonneg inside
  unclamped _ nonneg inside :=
    ⟨sizes.virtualCoordinate_mem mulDiv nonneg inside,
      sizes.absoluteCoordinate_eq mulDiv nonneg inside⟩
  injective pixel other nonneg inside nonneg' inside' same := by
    simp only [sizes.absoluteCoordinate_eq mulDiv nonneg inside,
      sizes.absoluteCoordinate_eq mulDiv nonneg' inside'] at same
    rcases lt_trichotomy pixel other with less | equal | greater
    · exact absurd same (sizes.virtualCoordinate_lt mulDiv nonneg less inside').ne
    · exact equal
    · exact absurd same (sizes.virtualCoordinate_lt mulDiv nonneg' greater inside).ne'

end AxisSizes

end

/-! ### Both axes -/

/-- A drawn pixel ends up at the pixel of the primary screen that its column and its row are
mapped to, and the input injected for it is the absolute position of that pixel; each axis of the
mapping is accurate, for all sizes along it. -/
theorem remote_pixel_accurate (mulDiv : MulDiv) (view : VideoRenderWnd)
    (metrics : SystemMetrics) (nonempty : ¬ view.normalizationBounds.IsRectEmpty) :
    let bounds := view.normalizationBounds
    ∃ column row : Int → Int,
      (∀ x y, 0 ≤ x → x < bounds.width → 0 ≤ y → y < bounds.height →
        view.remotePixel mulDiv metrics ⟨bounds.left + x, bounds.top + y⟩ =
            some ⟨column x, row y⟩ ∧
          view.remoteMove mulDiv metrics ⟨bounds.left + x, bounds.top + y⟩ =
            some {
              dx := absoluteCoordinate mulDiv (column x) metrics.xVirtualScreen
                metrics.cxVirtualScreen
              dy := absoluteCoordinate mulDiv (row y) metrics.yVirtualScreen
                metrics.cyVirtualScreen
              dwExtraInfo := remoteInputMarker
              dwFlags := absoluteMoveFlags }) ∧
      (AxisSizes bounds.width metrics.cxScreen metrics.xVirtualScreen metrics.cxVirtualScreen →
        Accurate bounds.width metrics.cxScreen.toInt column
          (fun pixel => virtualCoordinate mulDiv pixel metrics.xVirtualScreen
            metrics.cxVirtualScreen)
          (fun pixel => absoluteCoordinate mulDiv pixel metrics.xVirtualScreen
            metrics.cxVirtualScreen)) ∧
      (AxisSizes bounds.height metrics.cyScreen metrics.yVirtualScreen metrics.cyVirtualScreen →
        Accurate bounds.height metrics.cyScreen.toInt row
          (fun pixel => virtualCoordinate mulDiv pixel metrics.yVirtualScreen
            metrics.cyVirtualScreen)
          (fun pixel => absoluteCoordinate mulDiv pixel metrics.yVirtualScreen
            metrics.cyVirtualScreen)) := by
  intro bounds
  refine ⟨axisPosition mulDiv bounds.width metrics.cxScreen,
    axisPosition mulDiv bounds.height metrics.cyScreen, fun x y left right top bottom => ?_,
    fun sizes => sizes.accurate mulDiv, fun sizes => sizes.accurate mulDiv⟩
  have inside : bounds.clamp ⟨bounds.left + x, bounds.top + y⟩ =
      ⟨bounds.left + x, bounds.top + y⟩ := by
    rw [CRect.width] at right
    rw [CRect.height] at bottom
    simp only [CRect.clamp, CPoint.mk.injEq]
    omega
  rw [VideoRenderWnd.remotePixel, VideoRenderWnd.remoteMove,
    VideoRenderWnd.normalizeVideoPoint_eq nonempty, inside, add_sub_cancel_left,
    add_sub_cancel_left, Option.map_some, overWire_eq]
  exact ⟨rfl, rfl⟩

/-- Two screens of 1920 and 1280 columns side by side, and a second one above. -/
def twoScreens : SystemMetrics where
  xVirtualScreen := -1280
  yVirtualScreen := -1024
  cxVirtualScreen := 3200
  cyVirtualScreen := 2104
  cxScreen := 1920
  cyScreen := 1080

theorem remote_pixel_accurate_twoScreens :
    ∃ column row : Int → Int,
      wideView.remotePixel .documented twoScreens ⟨639, 419⟩ = some ⟨column 639, row 359⟩ ∧
        Accurate 640 1920 column
          (fun pixel => virtualCoordinate .documented pixel (-1280) 3200)
          (fun pixel => absoluteCoordinate .documented pixel (-1280) 3200) ∧
        row 359 = 1079 := by
  have bounds : wideView.normalizationBounds = ⟨0, 60, 640, 420⟩ := by decide
  have witness := remote_pixel_accurate .documented wideView twoScreens (by decide)
  simp only [bounds] at witness
  obtain ⟨column, row, mapped, columns, rows⟩ := witness
  have accurate := rows ⟨by decide, by decide, by decide, by decide, by decide⟩
  have corner := (mapped 639 359 (by decide) (by decide) (by decide) (by decide)).1
  norm_num at corner
  exact ⟨column, row, corner,
    columns ⟨by decide, by decide, by decide, by decide, by decide⟩, accurate.last⟩

end RemoteControl.Video

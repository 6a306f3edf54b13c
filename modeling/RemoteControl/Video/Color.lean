/-
This file models the color conversions at both ends of a call: `ConvertBgraToI420`
of the desktop capturer and `ConvertI420ToBgra` of the renderer. The picture in
memory is the byte at each distance from its first pixel. Sums of `int`s are
computed in the integers; on the sizes of a texture none of them wraps.
-/

import RemoteControl.Library.Raster
import RemoteControl.Video.View

namespace RemoteControl.Video

open Raster

/-! ### The sender -/

/-- `ClampByte`. -/
def clampByte (value : Int) : Byte := UInt8.ofNat (max 0 (min 255 value)).toNat

/-- The colors of a pixel, or their sums over several pixels. -/
@[ext]
structure Bgr where
  blue : Int := 0
  green : Int := 0
  red : Int := 0
  deriving DecidableEq

/-- The pixel in a row and column of a BGRA picture. -/
def bgraPixel (bgra : Int → Byte) (bgraStride : Int32) (row column : Nat) : Bgr where
  blue := (bgra (row * bgraStride.toInt + column * 4)).toNat
  green := (bgra (row * bgraStride.toInt + column * 4 + 1)).toNat
  red := (bgra (row * bgraStride.toInt + column * 4 + 2)).toNat

def luma (pixel : Bgr) : Byte :=
  clampByte (((66 * pixel.red + 129 * pixel.green + 25 * pixel.blue + 128) >>> (8 : Nat)) + 16)

def chromaU (pixel : Bgr) : Byte :=
  clampByte (((-38 * pixel.red - 74 * pixel.green + 112 * pixel.blue + 128) >>> (8 : Nat)) + 128)

def chromaV (pixel : Bgr) : Byte :=
  clampByte (((112 * pixel.red - 94 * pixel.green - 18 * pixel.blue + 128) >>> (8 : Nat)) + 128)

/-- `resize` of a vector of bytes. -/
def resize (plane : Array Byte) (size : Nat) : Array Byte :=
  Array.ofFn fun index : Fin size => plane.getD index 0

@[simp] theorem size_resize (plane : Array Byte) (size : Nat) : (resize plane size).size = size :=
  Array.size_ofFn

/-- The three planes of a picture. -/
structure I420Planes where
  yPlane : Array Byte := #[]
  uPlane : Array Byte := #[]
  vPlane : Array Byte := #[]

/-- The sums over the pixels of a block, with their number. -/
structure Samples where
  sum : Bgr := {}
  sampleCount : Int := 0

def Samples.add (samples : Samples) (pixel : Bgr) : Samples where
  sum := ⟨samples.sum.blue + pixel.blue, samples.sum.green + pixel.green,
    samples.sum.red + pixel.red⟩
  sampleCount := samples.sampleCount + 1

def Samples.mean (samples : Samples) : Bgr :=
  ⟨samples.sum.blue.tdiv samples.sampleCount, samples.sum.green.tdiv samples.sampleCount,
    samples.sum.red.tdiv samples.sampleCount⟩

/-- The sums over the block at a row and column, cut off at the edges of the picture. -/
def blockSamples (bgra : Int → Byte) (bgraStride width height : Int32) (y x : Nat) : Samples :=
  (counters (min 2 (height.toInt - y)) 1).foldl (fun samples offsetY =>
    (counters (min 2 (width.toInt - x)) 1).foldl (fun samples offsetX =>
      samples.add (bgraPixel bgra bgraStride (y + offsetY) (x + offsetX))) samples) {}

/-- A side of the chroma planes. -/
def chromaSide (side : Int32) : Int := (side.toInt + 1).tdiv 2

/-- `ConvertBgraToI420`. -/
def convertBgraToI420 (bgra : Int → Byte) (bgraStride width height : Int32)
    (planes : I420Planes) : I420Planes :=
  let chromaWidth := (chromaSide width).toNat
  let chromaHeight := (chromaSide height).toNat
  let yPlane := resize planes.yPlane (width.toInt.toNat * height.toInt.toNat)
  let uPlane := resize planes.uPlane (chromaWidth * chromaHeight)
  let vPlane := resize planes.vPlane (chromaWidth * chromaHeight)
  let lumas := (counters height.toInt 1).foldl (fun plane y =>
    (counters width.toInt 1).foldl (fun plane x =>
      plane.setIfInBounds (y * width.toInt.toNat + x) (luma (bgraPixel bgra bgraStride y x)))
      plane) yPlane
  let chromas := (counters height.toInt 2).foldl (fun chromas y =>
    (counters width.toInt 2).foldl (fun chromas x =>
      let mean := (blockSamples bgra bgraStride width height y x).mean
      let chromaIndex := y / 2 * chromaWidth + x / 2
      (chromas.1.setIfInBounds chromaIndex (chromaU mean),
        chromas.2.setIfInBounds chromaIndex (chromaV mean)))
      chromas) (uPlane, vPlane)
  ⟨lumas, chromas.1, chromas.2⟩

/-! ### The receiver -/

/-- `RTCVideoFrame`: its planes, each of which may be missing, and their strides. -/
structure RTCVideoFrame where
  dataY : Option (Array Byte)
  dataU : Option (Array Byte)
  dataV : Option (Array Byte)
  strideY : Int32
  strideU : Int32
  strideV : Int32

/-- The frame the capturer makes of its planes. -/
def capturedFrame (width : Int32) (planes : I420Planes) : RTCVideoFrame where
  dataY := some planes.yPlane
  dataU := some planes.uPlane
  dataV := some planes.vPlane
  strideY := width
  strideU := Int32.ofInt (chromaSide width)
  strideV := Int32.ofInt (chromaSide width)

theorem toNat_clampByte (value : Int) :
    ((clampByte value).toNat : Int) = max 0 (min 255 value) := by
  rw [clampByte, UInt8.toNat_ofNat']
  omega

/-- The colors of a pixel are bytes. -/
structure Bgr.InRange (pixel : Bgr) : Prop where
  blue : 0 ≤ pixel.blue ∧ pixel.blue ≤ 255
  green : 0 ≤ pixel.green ∧ pixel.green ≤ 255
  red : 0 ≤ pixel.red ∧ pixel.red ≤ 255

theorem inRange_bgraPixel (bgra : Int → Byte) (bgraStride : Int32) (row column : Nat) :
    (bgraPixel bgra bgraStride row column).InRange := by
  have range : ∀ byte : Byte, 0 ≤ (byte.toNat : Int) ∧ (byte.toNat : Int) ≤ 255 := fun byte => by
    have := byte.toNat_lt
    omega
  exact ⟨range _, range _, range _⟩

section

variable {pixel : Bgr}

/-- No color is so bright or dark that its luma is cut off. -/
theorem toNat_luma (inRange : pixel.InRange) :
    ((luma pixel).toNat : Int) =
      (66 * pixel.red + 129 * pixel.green + 25 * pixel.blue + 128) / 256 + 16 := by
  obtain ⟨blue, green, red⟩ := inRange
  rw [luma, toNat_clampByte, Int.shiftRight_eq_div_pow]
  omega

theorem toNat_chromaU (inRange : pixel.InRange) :
    ((chromaU pixel).toNat : Int) =
      (-38 * pixel.red - 74 * pixel.green + 112 * pixel.blue + 128) / 256 + 128 := by
  obtain ⟨blue, green, red⟩ := inRange
  rw [chromaU, toNat_clampByte, Int.shiftRight_eq_div_pow]
  omega

theorem toNat_chromaV (inRange : pixel.InRange) :
    ((chromaV pixel).toNat : Int) =
      (112 * pixel.red - 94 * pixel.green - 18 * pixel.blue + 128) / 256 + 128 := by
  obtain ⟨blue, green, red⟩ := inRange
  rw [chromaV, toNat_clampByte, Int.shiftRight_eq_div_pow]
  omega

end

/-! ### One block -/

/-- The samples are all of one color. -/
def Samples.Of (samples : Samples) (pixel : Bgr) : Prop :=
  0 ≤ samples.sampleCount ∧
    samples.sum = ⟨samples.sampleCount * pixel.blue, samples.sampleCount * pixel.green,
      samples.sampleCount * pixel.red⟩

theorem Samples.Of.add {samples : Samples} {pixel : Bgr} (all : samples.Of pixel) :
    (samples.add pixel).Of pixel ∧ 0 < (samples.add pixel).sampleCount := by
  obtain ⟨count, sum⟩ := all
  refine ⟨⟨Int.le_add_one count, ?_⟩, Int.lt_add_one_of_le count⟩
  rw [Samples.add, sum]
  simp only [Int.add_mul, Int.one_mul]

theorem Samples.Of.mean {samples : Samples} {pixel : Bgr} (all : samples.Of pixel)
    (some : 0 < samples.sampleCount) : samples.mean = pixel := by
  rw [Samples.mean, all.2]
  simp only [Int.mul_tdiv_cancel_left _ some.ne']

section

variable {bgra : Int → Byte} {bgraStride width height : Int32} {planes : I420Planes}
  {row column : Nat}

/-- The place of a pixel's luma. -/
def lumaIndex (width : Int32) (cell : Nat × Nat) : Nat := cell.1 * width.toInt.toNat + cell.2

/-- The place of the chroma of a pixel's block. -/
def chromaIndex (width : Int32) (cell : Nat × Nat) : Nat :=
  cell.1 / 2 * (chromaSide width).toNat + cell.2 / 2

def blockMean (bgra : Int → Byte) (bgraStride width height : Int32) (cell : Nat × Nat) : Bgr :=
  (blockSamples bgra bgraStride width height cell.1 cell.2).mean

/-- Each plane is filled by one loop over pixels or blocks. -/
theorem convertBgraToI420_eq :
    convertBgraToI420 bgra bgraStride width height planes =
      ⟨writes (lumaIndex width) (fun cell => luma (bgraPixel bgra bgraStride cell.1 cell.2))
          (counters height.toInt 1 ×ˢ counters width.toInt 1)
          (resize planes.yPlane (width.toInt.toNat * height.toInt.toNat)),
        writes (chromaIndex width)
          (fun cell => chromaU (blockMean bgra bgraStride width height cell))
          (counters height.toInt 2 ×ˢ counters width.toInt 2)
          (resize planes.uPlane ((chromaSide width).toNat * (chromaSide height).toNat)),
        writes (chromaIndex width)
          (fun cell => chromaV (blockMean bgra bgraStride width height cell))
          (counters height.toInt 2 ×ˢ counters width.toInt 2)
          (resize planes.vPlane ((chromaSide width).toNat * (chromaSide height).toNat))⟩ := by
  rw [convertBgraToI420]
  dsimp only
  rw [foldl_foldl, foldl_foldl, foldl_writes]
  rfl

/-- The luma plane holds the luma of every pixel. -/
theorem convertBgraToI420_yPlane (below : (row : Int) < height.toInt)
    (within : (column : Int) < width.toInt) :
    (convertBgraToI420 bgra bgraStride width height planes).yPlane[
        lumaIndex width (row, column)]? =
      some (luma (bgraPixel bgra bgraStride row column)) := by
  rw [convertBgraToI420_eq]
  have among : (row, column) ∈ counters height.toInt 1 ×ˢ counters width.toInt 1 := by
    rw [List.mem_product, mem_counters_one, mem_counters_one]
    exact ⟨below, within⟩
  refine writes_of_agree among ?_ ?_
  · rw [size_resize]
    exact row_column_lt (by omega) (by omega)
  · rintro ⟨row', column'⟩ among' same
    rw [List.mem_product, mem_counters_one, mem_counters_one] at among'
    obtain ⟨rfl, rfl⟩ := row_column_eq (by omega) (by omega) same
    rfl

/-- The pixels of a side have their blocks on the side of the chroma planes. -/
theorem half_lt_chromaSide {place : Nat} {side : Int32} (inside : (place : Int) < side.toInt) :
    place / 2 < (chromaSide side).toNat := by
  rw [chromaSide, Int.tdiv_eq_ediv_of_nonneg (by omega)]
  omega

theorem double_lt_of_lt_chromaSide {place : Nat} {side : Int32}
    (inside : place < (chromaSide side).toNat) : ((place * 2 : Nat) : Int) < side.toInt := by
  rw [chromaSide] at inside
  have nonneg : 0 ≤ side.toInt + 1 := by
    by_contra negative
    have opposite := Int.tdiv_nonneg (show 0 ≤ -(side.toInt + 1) by omega) zero_le_two
    rw [Int.neg_tdiv] at opposite
    omega
  rw [Int.tdiv_eq_ediv_of_nonneg nonneg] at inside
  omega

/-- The pixels of a block share the place of its first pixel. -/
theorem chromaIndex_corner :
    chromaIndex width (row / 2 * 2, column / 2 * 2) = chromaIndex width (row, column) := by
  rw [chromaIndex, chromaIndex]
  dsimp only
  rw [Nat.mul_div_cancel _ two_pos, Nat.mul_div_cancel _ two_pos]

/-- A loop over the blocks that writes a chroma plane writes the place of every pixel's block. -/
theorem chroma_writes (value : Nat × Nat → Byte) {plane : Array Byte}
    (size : plane.size = (chromaSide width).toNat * (chromaSide height).toNat)
    (below : (row : Int) < height.toInt) (within : (column : Int) < width.toInt) :
    (writes (chromaIndex width) value (counters height.toInt 2 ×ˢ counters width.toInt 2) plane)[
        chromaIndex width (row, column)]? =
      some (value (row / 2 * 2, column / 2 * 2)) := by
  have among : (row / 2 * 2, column / 2 * 2) ∈
      counters height.toInt 2 ×ˢ counters width.toInt 2 := by
    rw [List.mem_product, mem_counters two_pos, mem_counters two_pos]
    omega
  rw [← chromaIndex_corner]
  refine writes_of_agree among ?_ ?_
  · rw [chromaIndex_corner, size]
    exact row_column_lt (half_lt_chromaSide below) (half_lt_chromaSide within)
  · rintro ⟨row', column'⟩ among' same
    rw [List.mem_product, mem_counters two_pos, mem_counters two_pos] at among'
    rw [chromaIndex_corner] at same
    obtain ⟨sameRow, sameColumn⟩ :=
      row_column_eq (half_lt_chromaSide among'.2.2) (half_lt_chromaSide within) same
    congr 2 <;> omega

/-- The chroma planes hold the chroma of every block's mean. -/
theorem convertBgraToI420_chroma (bgra : Int → Byte) (bgraStride : Int32) (planes : I420Planes)
    (below : (row : Int) < height.toInt)
    (within : (column : Int) < width.toInt) :
    (convertBgraToI420 bgra bgraStride width height planes).uPlane[
        chromaIndex width (row, column)]? =
      some (chromaU (blockMean bgra bgraStride width height (row / 2 * 2, column / 2 * 2))) ∧
    (convertBgraToI420 bgra bgraStride width height planes).vPlane[
        chromaIndex width (row, column)]? =
      some (chromaV (blockMean bgra bgraStride width height (row / 2 * 2, column / 2 * 2))) := by
  rw [convertBgraToI420_eq]
  exact ⟨chroma_writes _ (size_resize _ _) below within,
    chroma_writes _ (size_resize _ _) below within⟩

/-- Every place of the luma plane is the place of a pixel. -/
theorem exists_lumaIndex {position : Nat}
    (inside : position < width.toInt.toNat * height.toInt.toNat) :
    ∃ cell ∈ counters height.toInt 1 ×ˢ counters width.toInt 1,
      lumaIndex width cell = position := by
  obtain ⟨below, within, place⟩ := exists_row_column inside
  refine ⟨(position / width.toInt.toNat, position % width.toInt.toNat), ?_, place⟩
  rw [List.mem_product, mem_counters_one, mem_counters_one]
  exact ⟨Int.lt_toNat.mp below, Int.lt_toNat.mp within⟩

/-- Every place of the chroma planes is the place of a block. -/
theorem exists_chromaIndex {position : Nat}
    (inside : position < (chromaSide width).toNat * (chromaSide height).toNat) :
    ∃ cell ∈ counters height.toInt 2 ×ˢ counters width.toInt 2,
      chromaIndex width cell = position := by
  obtain ⟨below, within, place⟩ := exists_row_column inside
  refine ⟨(position / (chromaSide width).toNat * 2, position % (chromaSide width).toNat * 2),
    ?_, ?_⟩
  · rw [List.mem_product, mem_counters two_pos, mem_counters two_pos]
    exact ⟨⟨Nat.dvd_mul_left 2 _, double_lt_of_lt_chromaSide below⟩, Nat.dvd_mul_left 2 _,
      double_lt_of_lt_chromaSide within⟩
  · rw [chromaIndex]
    dsimp only
    rw [Nat.mul_div_cancel _ two_pos, Nat.mul_div_cancel _ two_pos, place]

/-- The planes of an earlier picture leave no trace. -/
theorem convertBgraToI420_planes :
    convertBgraToI420 bgra bgraStride width height planes =
      convertBgraToI420 bgra bgraStride width height {} := by
  have sameSize : ∀ {plane plane' : Array Byte} {size : Nat},
      (resize plane size).size = (resize plane' size).size := by
    intro plane plane' size
    rw [size_resize, size_resize]
  rw [convertBgraToI420_eq, convertBgraToI420_eq, I420Planes.mk.injEq]
  refine ⟨writes_congr sameSize fun position inside => exists_lumaIndex ?_,
    writes_congr sameSize fun position inside => exists_chromaIndex ?_,
    writes_congr sameSize fun position inside => exists_chromaIndex ?_⟩
  all_goals rwa [size_resize] at inside

/-! ### The picture -/

variable {output : VideoFrameData} {frame : RTCVideoFrame}

section

variable {dataY dataU dataV : Array Byte}

end

end

end RemoteControl.Video

/-
This file asks whether `ConvertBgraToI420` stays within its buffers. A second
version of it reads a buffer of a size, counts in `int`s, divides and writes in
ways that can fail: outside the buffer or the plane, beyond the range of an `int`,
by zero, or at a place that was written before. Where it does not fail it has
filled the planes of the first version. Only the tallest picture of all makes it
fail: one more than its height is no `int`.
-/

import Mathlib.Algebra.Order.BigOperators.Group.Finset
import RemoteControl.Video.Color

namespace RemoteControl.Video

open Raster

/-! ### What can fail -/

instance (value : Int) : Decidable (FitsInt value) := inferInstanceAs (Decidable (_ ∧ _))

/-- A sum of two `int`s, which overflows beyond their range. -/
def checkedInt (value : Int) : Option Int := if FitsInt value then some value else none

/-- `for (int counter = 0; counter < bound; counter += step)`. -/
def forInt {State : Type} (bound : Int) (step : Nat) (round : State → Nat → Option State)
    (start : State) : Option State :=
  (counters bound step).foldlM (fun state counter =>
    (round state counter).bind fun state => (checkedInt (counter + step)).map fun _ => state) start

/-- The byte at a distance from the start of a buffer. -/
def readByte (buffer : Array Byte) (distance : Int) : Option Byte :=
  if 0 ≤ distance then buffer[distance.toNat]? else none

/-- The pixel in a row and column of a BGRA picture. -/
def readPixel (buffer : Array Byte) (bgraStride : Int32) (row column : Nat) : Option Bgr :=
  (readByte buffer (row * bgraStride.toInt + column * 4)).bind fun blue =>
    (readByte buffer (row * bgraStride.toInt + column * 4 + 1)).bind fun green =>
      (readByte buffer (row * bgraStride.toInt + column * 4 + 2)).map fun red =>
        ⟨blue.toNat, green.toNat, red.toNat⟩

/-- The division by the number of samples. -/
def Samples.checkedMean (samples : Samples) : Option Bgr :=
  if samples.sampleCount = 0 then none else some samples.mean

/-- The sums over a block. -/
def readBlockSamples (buffer : Array Byte) (bgraStride width height : Int32) (y x : Nat) :
    Option Samples :=
  forInt (min 2 (height.toInt - y)) 1 (fun samples offsetY =>
    forInt (min 2 (width.toInt - x)) 1 (fun samples offsetX =>
      (readPixel buffer bgraStride (y + offsetY) (x + offsetX)).map samples.add) samples) {}

/-- The planes, with the places that were written. -/
structure WrittenPlanes where
  yPlane : Array (Option Byte)
  uPlane : Array (Option Byte)
  vPlane : Array (Option Byte)

/-- Every place was written. -/
def I420Planes.written (planes : I420Planes) : WrittenPlanes :=
  ⟨planes.yPlane.map some, planes.uPlane.map some, planes.vPlane.map some⟩

/-- `ConvertBgraToI420`, which fails where the behavior of the source is undefined, and at a second
write of one place. -/
def checkedConvertBgraToI420 (buffer : Array Byte) (bgraStride width height : Int32) :
    Option WrittenPlanes := do
  let chromaWidth := ((← checkedInt (width.toInt + 1)).tdiv 2).toNat
  let chromaHeight := ((← checkedInt (height.toInt + 1)).tdiv 2).toNat
  let yPlane := Array.replicate (width.toInt.toNat * height.toInt.toNat) none
  let chromaPlane := Array.replicate (chromaWidth * chromaHeight) none
  let lumas ← forInt height.toInt 1 (fun plane y =>
    forInt width.toInt 1 (fun plane x =>
      (readPixel buffer bgraStride y x).bind fun pixel =>
        writeOnce plane (y * width.toInt.toNat + x) (luma pixel)) plane) yPlane
  let chromas ← forInt height.toInt 2 (fun chromas y =>
    forInt width.toInt 2 (fun chromas x =>
      ((readBlockSamples buffer bgraStride width height y x).bind Samples.checkedMean).bind
        fun mean =>
          let chromaIndex := y / 2 * chromaWidth + x / 2
          (writeOnce chromas.1 chromaIndex (chromaU mean)).bind fun uPlane =>
            (writeOnce chromas.2 chromaIndex (chromaV mean)).map fun vPlane => (uPlane, vPlane))
      chromas) (chromaPlane, chromaPlane)
  return ⟨lumas, chromas.1, chromas.2⟩

/-! ### Reading -/

/-- The bytes of a buffer at each distance from its start. -/
def memory (buffer : Array Byte) (distance : Int) : Byte := buffer.getD distance.toNat 0

/-- The sizes that a picture in a buffer has. -/
structure Holds (buffer : Array Byte) (bgraStride width height : Int32) : Prop where
  wide : 1 ≤ width.toInt
  high : 1 ≤ height.toInt
  stride : 4 * width.toInt ≤ bgraStride.toInt
  size : bgraStride.toInt * (height.toInt - 1) + 4 * width.toInt ≤ buffer.size

section

variable {buffer : Array Byte} {bgraStride width height : Int32} {row column y x : Nat}

theorem readByte_eq {distance : Int} (nonneg : 0 ≤ distance) (inside : distance < buffer.size) :
    readByte buffer distance = some (memory buffer distance) := by
  have below : distance.toNat < buffer.size := by omega
  rw [readByte, if_pos nonneg, memory, Array.getElem?_eq_getElem below, Array.getD,
    dif_pos below]
  rfl

/-- The pixels of the picture are in the buffer. -/
theorem Holds.pixel_inside (holds : Holds buffer bgraStride width height)
    (below : (row : Int) < height.toInt) (within : (column : Int) < width.toInt) :
    0 ≤ (row : Int) * bgraStride.toInt + column * 4 ∧
      (row : Int) * bgraStride.toInt + column * 4 + 4 ≤ buffer.size := by
  obtain ⟨-, -, stride, size⟩ := holds
  have nonneg : 0 ≤ bgraStride.toInt := by omega
  have rows : (row : Int) * bgraStride.toInt ≤ (height.toInt - 1) * bgraStride.toInt :=
    Int.mul_le_mul_of_nonneg_right (by omega) nonneg
  have start : 0 ≤ (row : Int) * bgraStride.toInt := Int.mul_nonneg (Int.natCast_nonneg row) nonneg
  rw [Int.mul_comm (height.toInt - 1)] at rows
  omega

theorem readPixel_eq (holds : Holds buffer bgraStride width height)
    (below : (row : Int) < height.toInt) (within : (column : Int) < width.toInt) :
    readPixel buffer bgraStride row column =
      some (bgraPixel (memory buffer) bgraStride row column) := by
  obtain ⟨nonneg, inside⟩ := holds.pixel_inside below within
  rw [readPixel, readByte_eq nonneg (by omega), Option.bind_some,
    readByte_eq (by omega) (by omega), Option.bind_some, readByte_eq (by omega) (by omega)]
  rfl

/-! ### Counting -/

/-- A loop whose counter stays an `int`. -/
theorem forInt_eq {State : Type} {bound : Int} {step : Nat}
    {round : State → Nat → Option State} {start : State} (positive : 0 < step)
    (fits : bound + step ≤ 2 ^ 31) :
    forInt bound step round start = (counters bound step).foldlM round start := by
  refine foldlM_congr (fun state counter among => ?_) start
  have below := ((mem_counters positive).mp among).2
  have isInt : FitsInt (counter + step) := ⟨by omega, by omega⟩
  rw [checkedInt, if_pos isInt]
  exact Option.bind_fun_some (round state counter)

/-- Two nested loops whose counters stay `int`s. -/
theorem forInt_forInt {State : Type} {outer inner : Int} {step : Nat}
    {round : State → Nat → Nat → Option State} {start : State} (positive : 0 < step)
    (fitsOuter : outer + step ≤ 2 ^ 31) (fitsInner : inner + step ≤ 2 ^ 31) :
    forInt outer step (fun state y => forInt inner step (fun state x => round state y x) state)
        start =
      (counters outer step ×ˢ counters inner step).foldlM
        (fun state cell => round state cell.1 cell.2) start := by
  rw [forInt_eq positive fitsOuter, ← foldlM_foldlM]
  exact foldlM_congr (fun state y _ => forInt_eq positive fitsInner) start

/-! ### One block -/

/-- The pixels there are in a block of two by two. -/
def blockPixels (width height : Int32) (block : Nat × Nat) : Finset (Nat × Nat) :=
  (Finset.range height.toInt.toNat ×ˢ Finset.range width.toInt.toNat).filter fun pixel =>
    pixel.1 / 2 = block.1 ∧ pixel.2 / 2 = block.2

/-- The truncated mean of the colors of some pixels. -/
def meanColor (pixels : Finset (Nat × Nat)) (color : Nat × Nat → Bgr) : Bgr where
  blue := (∑ pixel ∈ pixels, (color pixel).blue).tdiv pixels.card
  green := (∑ pixel ∈ pixels, (color pixel).green).tdiv pixels.card
  red := (∑ pixel ∈ pixels, (color pixel).red).tdiv pixels.card

/-- The pixels of the two loops over a block, in their order. -/
def blockRounds (width height : Int32) (y x : Nat) : List (Nat × Nat) :=
  (counters (min 2 (height.toInt - y)) 1 ×ˢ counters (min 2 (width.toInt - x)) 1).map fun offset =>
    (y + offset.1, x + offset.2)

theorem nodup_blockRounds (width height : Int32) (y x : Nat) :
    (blockRounds width height y x).Nodup := by
  refine List.Nodup.map ?_ ((nodup_counters _ Nat.one_pos).product (nodup_counters _ Nat.one_pos))
  rintro ⟨offsetY, offsetX⟩ ⟨offsetY', offsetX'⟩ same
  simp only [Prod.mk.injEq, Nat.add_left_cancel_iff] at same ⊢
  exact same

theorem mem_blockRounds {width height : Int32} {y x : Nat} {pixel : Nat × Nat} :
    pixel ∈ blockRounds width height y x ↔
      (pixel.1 : Int) < height.toInt ∧ (pixel.2 : Int) < width.toInt ∧
        (y ≤ pixel.1 ∧ pixel.1 < y + 2) ∧ x ≤ pixel.2 ∧ pixel.2 < x + 2 := by
  obtain ⟨row, column⟩ := pixel
  simp only [blockRounds, List.mem_map, List.mem_product, mem_counters_one, Prod.exists,
    Prod.mk.injEq]
  constructor
  · rintro ⟨offsetY, offsetX, ⟨below, within⟩, rfl, rfl⟩
    omega
  · rintro ⟨below, within, rows, columns⟩
    exact ⟨row - y, column - x, by omega, by omega, by omega⟩

/-- The loops over a block visit the pixels there are in it. -/
theorem toFinset_blockRounds (width height : Int32) (block : Nat × Nat) :
    (blockRounds width height (2 * block.1) (2 * block.2)).toFinset =
      blockPixels width height block := by
  ext pixel
  simp only [List.mem_toFinset, mem_blockRounds, blockPixels, Finset.mem_filter,
    Finset.mem_product, Finset.mem_range]
  omega

/-- A loop over samples adds them up. -/
theorem samples_foldl_eq {Round : Type*} (sample : Round → Bgr) (rounds : List Round) :
    rounds.foldl (fun (samples : Samples) round => samples.add (sample round)) {} =
      ⟨⟨(rounds.map fun round => (sample round).blue).sum,
        (rounds.map fun round => (sample round).green).sum,
        (rounds.map fun round => (sample round).red).sum⟩, rounds.length⟩ := by
  induction rounds using List.reverseRecOn with
  | nil => rfl
  | append_singleton rest round ih =>
    rw [List.foldl_append, ih]
    simp [Samples.add]

/-- What the loops over a block leave: the sums over its pixels and their number. -/
theorem blockSamples_eq (bgra : Int → Byte) (bgraStride width height : Int32)
    (block : Nat × Nat) :
    (blockSamples bgra bgraStride width height (2 * block.1) (2 * block.2)).mean =
        meanColor (blockPixels width height block)
          (fun pixel => bgraPixel bgra bgraStride pixel.1 pixel.2) ∧
      (blockSamples bgra bgraStride width height (2 * block.1) (2 * block.2)).sampleCount =
        (blockPixels width height block).card := by
  have nodup := nodup_blockRounds width height (2 * block.1) (2 * block.2)
  have samples : blockSamples bgra bgraStride width height (2 * block.1) (2 * block.2) =
      (blockRounds width height (2 * block.1) (2 * block.2)).foldl
        (fun samples pixel => samples.add (bgraPixel bgra bgraStride pixel.1 pixel.2)) {} := by
    rw [blockSamples, foldl_foldl, blockRounds, List.foldl_map]
  rw [samples, samples_foldl_eq, meanColor, ← toFinset_blockRounds,
    List.toFinset_card_of_nodup nodup, List.sum_toFinset _ nodup, List.sum_toFinset _ nodup,
    List.sum_toFinset _ nodup]
  exact ⟨rfl, rfl⟩

/-- Every block on the chroma planes has a pixel. -/
theorem card_blockPixels {width height : Int32} {block : Nat × Nat}
    (below : block.1 < (chromaSide height).toNat) (within : block.2 < (chromaSide width).toNat) :
    0 < (blockPixels width height block).card := by
  refine Finset.card_pos.mpr ⟨(block.1 * 2, block.2 * 2), ?_⟩
  have rows := double_lt_of_lt_chromaSide below
  have columns := double_lt_of_lt_chromaSide within
  simp only [blockPixels, Finset.mem_filter, Finset.mem_product, Finset.mem_range]
  omega

/-- A mean of colors is a color. -/
theorem inRange_meanColor {pixels : Finset (Nat × Nat)} {color : Nat × Nat → Bgr}
    (some : 0 < pixels.card) (inRange : ∀ pixel ∈ pixels, (color pixel).InRange) :
    (meanColor pixels color).InRange := by
  have mean {channel : Nat × Nat → Int}
      (range : ∀ pixel ∈ pixels, 0 ≤ channel pixel ∧ channel pixel ≤ 255) :
      0 ≤ (∑ pixel ∈ pixels, channel pixel).tdiv pixels.card ∧
        (∑ pixel ∈ pixels, channel pixel).tdiv pixels.card ≤ 255 := by
    have positive : (0 : Int) < pixels.card := Int.natCast_pos.mpr some
    have nonneg : 0 ≤ ∑ pixel ∈ pixels, channel pixel :=
      Finset.sum_nonneg fun pixel among => (range pixel among).1
    have bounded := Finset.sum_le_card_nsmul pixels channel 255 fun pixel among =>
      (range pixel among).2
    rw [nsmul_eq_mul, mul_comm] at bounded
    rw [Int.tdiv_eq_ediv_of_nonneg nonneg]
    exact ⟨Int.ediv_nonneg nonneg positive.le, Int.ediv_le_of_le_mul positive bounded⟩
  exact ⟨mean fun pixel among => (inRange pixel among).blue,
    mean fun pixel among => (inRange pixel among).green,
    mean fun pixel among => (inRange pixel among).red⟩

/-! ### Values before they are clamped -/

/-- What `ClampByte` is given for the luma of a pixel. -/
def lumaValue (pixel : Bgr) : Int :=
  ((66 * pixel.red + 129 * pixel.green + 25 * pixel.blue + 128) >>> (8 : Nat)) + 16

def chromaUValue (pixel : Bgr) : Int :=
  ((-38 * pixel.red - 74 * pixel.green + 112 * pixel.blue + 128) >>> (8 : Nat)) + 128

def chromaVValue (pixel : Bgr) : Int :=
  ((112 * pixel.red - 94 * pixel.green - 18 * pixel.blue + 128) >>> (8 : Nat)) + 128

/-- A byte holds the value it was clamped from, which lies in a range. -/
def Unclamped (byte : Byte) (value low high : Int) : Prop :=
  byte = clampByte value ∧ (byte.toNat : Int) = value ∧ low ≤ value ∧ value ≤ high

section

variable {pixel : Bgr}

theorem unclamped_luma (inRange : pixel.InRange) :
    Unclamped (luma pixel) (lumaValue pixel) 16 235 := by
  refine ⟨rfl, ?_⟩
  rw [toNat_luma inRange, lumaValue, Int.shiftRight_eq_div_pow]
  obtain ⟨blue, green, red⟩ := inRange
  omega

theorem unclamped_chromaU (inRange : pixel.InRange) :
    Unclamped (chromaU pixel) (chromaUValue pixel) 16 240 := by
  refine ⟨rfl, ?_⟩
  rw [toNat_chromaU inRange, chromaUValue, Int.shiftRight_eq_div_pow]
  obtain ⟨blue, green, red⟩ := inRange
  omega

theorem unclamped_chromaV (inRange : pixel.InRange) :
    Unclamped (chromaV pixel) (chromaVValue pixel) 16 240 := by
  refine ⟨rfl, ?_⟩
  rw [toNat_chromaV inRange, chromaVValue, Int.shiftRight_eq_div_pow]
  obtain ⟨blue, green, red⟩ := inRange
  omega

end

/-! ### The loops of the conversion -/

/-- The corners of the blocks. -/
theorem exists_block {cell : Nat × Nat}
    (among : cell ∈ counters height.toInt 2 ×ˢ counters width.toInt 2) :
    ∃ block : Nat × Nat, cell = (2 * block.1, 2 * block.2) ∧
      block.1 < (chromaSide height).toNat ∧ block.2 < (chromaSide width).toNat := by
  obtain ⟨row, column⟩ := cell
  rw [List.mem_product, mem_counters two_pos, mem_counters two_pos] at among
  obtain ⟨⟨⟨blockRow, rfl⟩, below⟩, ⟨blockColumn, rfl⟩, within⟩ := among
  have rows := half_lt_chromaSide below
  have columns := half_lt_chromaSide within
  rw [Nat.mul_div_cancel_left _ two_pos] at rows columns
  exact ⟨(blockRow, blockColumn), rfl, rows, columns⟩

section

variable (holds : Holds buffer bgraStride width height)
include holds

/-- A picture in a buffer is narrow: its stride is an `int`. -/
theorem Holds.narrow : width.toInt + 2 ≤ 2 ^ 31 := by
  have limit := bgraStride.toInt_lt
  have stride := holds.stride
  have wide := holds.wide
  omega

theorem readBlockSamples_eq (y x : Nat) :
    readBlockSamples buffer bgraStride width height y x =
      some (blockSamples (memory buffer) bgraStride width height y x) := by
  have read : ∀ samples : Samples,
      ∀ offset ∈ counters (min 2 (height.toInt - y)) 1 ×ˢ counters (min 2 (width.toInt - x)) 1,
        (readPixel buffer bgraStride (y + offset.1) (x + offset.2)).map samples.add =
          some (samples.add
            (bgraPixel (memory buffer) bgraStride (y + offset.1) (x + offset.2))) := by
    rintro samples ⟨offsetY, offsetX⟩ among
    rw [List.mem_product, mem_counters_one, mem_counters_one] at among
    rw [readPixel_eq holds (by omega) (by omega)]
    rfl
  rw [readBlockSamples, forInt_forInt Nat.one_pos (by omega) (by omega), foldlM_congr read,
    foldlM_some, blockSamples, foldl_foldl]

/-- No block is empty, so that the mean can be taken. -/
theorem readBlockSamples_mean {cell : Nat × Nat}
    (among : cell ∈ counters height.toInt 2 ×ˢ counters width.toInt 2) :
    (readBlockSamples buffer bgraStride width height cell.1 cell.2).bind Samples.checkedMean =
      some (blockMean (memory buffer) bgraStride width height cell) := by
  obtain ⟨block, rfl, below, within⟩ := exists_block among
  obtain ⟨-, count⟩ := blockSamples_eq (memory buffer) bgraStride width height block
  have positive := card_blockPixels below within
  rw [readBlockSamples_eq holds, Option.bind_some, Samples.checkedMean,
    if_neg (count.trans_ne (by omega))]
  rfl

end

/-- The place of a block on the chroma planes. -/
theorem chromaIndex_block (width : Int32) (block : Nat × Nat) :
    chromaIndex width (2 * block.1, 2 * block.2) =
      block.1 * (chromaSide width).toNat + block.2 := by
  rw [chromaIndex, Nat.mul_div_cancel_left _ two_pos, Nat.mul_div_cancel_left _ two_pos]

/-- Different pixels have different places on the luma plane. -/
theorem pairwise_lumaIndex (width height : Int32) :
    (counters height.toInt 1 ×ˢ counters width.toInt 1).Pairwise fun first second =>
      lumaIndex width first ≠ lumaIndex width second := by
  have nodup := (nodup_counters height.toInt Nat.one_pos).product
    (nodup_counters width.toInt Nat.one_pos)
  refine nodup.pairwise_of_forall_ne ?_
  rintro ⟨row, column⟩ among ⟨row', column'⟩ among' different same
  rw [List.mem_product, mem_counters_one, mem_counters_one] at among among'
  obtain ⟨rfl, rfl⟩ := row_column_eq (by omega) (by omega) same
  exact different rfl

/-- Different blocks have different places on the chroma planes. -/
theorem pairwise_chromaIndex (width height : Int32) :
    (counters height.toInt 2 ×ˢ counters width.toInt 2).Pairwise fun first second =>
      chromaIndex width first ≠ chromaIndex width second := by
  have nodup := (nodup_counters height.toInt two_pos).product
    (nodup_counters width.toInt two_pos)
  refine nodup.pairwise_of_forall_ne fun cell among cell' among' different same => ?_
  obtain ⟨block, rfl, -, within⟩ := exists_block among
  obtain ⟨block', rfl, -, within'⟩ := exists_block among'
  rw [chromaIndex_block, chromaIndex_block] at same
  obtain ⟨rows, columns⟩ := row_column_eq within within' same
  exact different (by rw [rows, columns])

/-- The loop over the pixels fills the luma plane. -/
theorem lumas_eq (holds : Holds buffer bgraStride width height) (planes : I420Planes) :
    forInt height.toInt 1 (fun plane y =>
        forInt width.toInt 1 (fun plane x =>
          (readPixel buffer bgraStride y x).bind fun pixel =>
            writeOnce plane (y * width.toInt.toNat + x) (luma pixel)) plane)
        (Array.replicate (width.toInt.toNat * height.toInt.toNat) none) =
      some ((convertBgraToI420 (memory buffer) bgraStride width height planes).yPlane.map
        some) := by
  have write : ∀ plane : Array (Option Byte),
      ∀ cell ∈ counters height.toInt 1 ×ˢ counters width.toInt 1,
        ((readPixel buffer bgraStride cell.1 cell.2).bind fun pixel =>
          writeOnce plane (cell.1 * width.toInt.toNat + cell.2) (luma pixel)) =
            writeOnce plane (lumaIndex width cell)
              (luma (bgraPixel (memory buffer) bgraStride cell.1 cell.2)) := by
    rintro plane ⟨row, column⟩ among
    rw [List.mem_product, mem_counters_one, mem_counters_one] at among
    rw [readPixel_eq holds among.1 among.2]
    rfl
  have limit := height.toInt_lt
  have narrow := holds.narrow
  rw [forInt_forInt Nat.one_pos (by omega) (by omega), foldlM_congr write,
    foldlM_writeOnce ?_ (pairwise_lumaIndex width height), convertBgraToI420_eq,
    writes_replicate_none (size_resize _ _) fun _ inside => exists_lumaIndex inside]
  rintro ⟨row, column⟩ among
  rw [List.mem_product, mem_counters_one, mem_counters_one] at among
  exact Array.getElem?_replicate.trans (if_pos (row_column_lt (by omega) (by omega)))

/-- The loop over the blocks fills the chroma planes. -/
theorem chromas_eq (holds : Holds buffer bgraStride width height)
    (short : height.toInt < 2 ^ 31 - 1) (planes : I420Planes) :
    forInt height.toInt 2 (fun chromas y =>
        forInt width.toInt 2 (fun chromas x =>
          ((readBlockSamples buffer bgraStride width height y x).bind Samples.checkedMean).bind
            fun mean =>
              (writeOnce chromas.1 (y / 2 * (chromaSide width).toNat + x / 2)
                (chromaU mean)).bind fun uPlane =>
                  (writeOnce chromas.2 (y / 2 * (chromaSide width).toNat + x / 2)
                    (chromaV mean)).map fun vPlane => (uPlane, vPlane)) chromas)
        (Array.replicate ((chromaSide width).toNat * (chromaSide height).toNat) none,
          Array.replicate ((chromaSide width).toNat * (chromaSide height).toNat) none) =
      some ((convertBgraToI420 (memory buffer) bgraStride width height planes).uPlane.map some,
        (convertBgraToI420 (memory buffer) bgraStride width height planes).vPlane.map some) := by
  have write : ∀ chromas : Array (Option Byte) × Array (Option Byte),
      ∀ cell ∈ counters height.toInt 2 ×ˢ counters width.toInt 2,
        (((readBlockSamples buffer bgraStride width height cell.1 cell.2).bind
          Samples.checkedMean).bind fun mean =>
            (writeOnce chromas.1 (cell.1 / 2 * (chromaSide width).toNat + cell.2 / 2)
              (chromaU mean)).bind fun uPlane =>
                (writeOnce chromas.2 (cell.1 / 2 * (chromaSide width).toNat + cell.2 / 2)
                  (chromaV mean)).map fun vPlane => (uPlane, vPlane)) =
          (writeOnce chromas.1 (chromaIndex width cell)
            (chromaU (blockMean (memory buffer) bgraStride width height cell))).bind
              fun first => (writeOnce chromas.2 (chromaIndex width cell)
                (chromaV (blockMean (memory buffer) bgraStride width height cell))).map
                  fun second => (first, second) := by
    intro chromas cell among
    rw [readBlockSamples_mean holds among]
    rfl
  have narrow := holds.narrow
  rw [forInt_forInt two_pos (by omega) narrow, foldlM_congr write,
    foldlM_writeOnce_pair ?_ (pairwise_chromaIndex width height), convertBgraToI420_eq,
    writes_replicate_none (size_resize _ _) fun _ inside => exists_chromaIndex inside,
    writes_replicate_none (size_resize _ _) fun _ inside => exists_chromaIndex inside]
  intro cell among
  obtain ⟨block, rfl, below, within⟩ := exists_block among
  have inside := row_column_lt below within
  rw [← chromaIndex_block] at inside
  exact ⟨Array.getElem?_replicate.trans (if_pos inside),
    Array.getElem?_replicate.trans (if_pos inside)⟩

/-- Within the limits nothing fails, and every place was written. -/
theorem checkedConvertBgraToI420_eq (holds : Holds buffer bgraStride width height)
    (short : height.toInt < 2 ^ 31 - 1) (planes : I420Planes) :
    checkedConvertBgraToI420 buffer bgraStride width height =
      some (convertBgraToI420 (memory buffer) bgraStride width height planes).written := by
  have narrow := holds.narrow
  have wide := holds.wide
  have high := holds.high
  have columns : checkedInt (width.toInt + 1) = some (width.toInt + 1) :=
    if_pos ⟨by omega, by omega⟩
  have rows : checkedInt (height.toInt + 1) = some (height.toInt + 1) :=
    if_pos ⟨by omega, by omega⟩
  have lumas := lumas_eq holds planes
  have chromas := chromas_eq holds short planes
  rw [chromaSide, chromaSide] at chromas
  rw [checkedConvertBgraToI420, columns, rows]
  simp only [Option.bind_eq_bind, Option.bind_some, lumas, chromas]
  rfl

/-! ### The planes -/

/-- The conversion stays within the buffer and the planes, never divides by zero and writes every
place once; a luma is that of its pixel and a chroma that of the mean of the pixels there are in its
block, and no value is clamped. -/
structure ConvertsWithin (buffer : Array Byte) (bgraStride width height : Int32)
    (planes : I420Planes) : Prop where
  succeeds : checkedConvertBgraToI420 buffer bgraStride width height = some planes.written
  luma : planes.yPlane.size = width.toInt.toNat * height.toInt.toNat ∧
    ∀ row column : Nat, (row : Int) < height.toInt → (column : Int) < width.toInt →
      ∃ byte, planes.yPlane[row * width.toInt.toNat + column]? = some byte ∧
        Unclamped byte (lumaValue (bgraPixel (memory buffer) bgraStride row column)) 16 235
  chromaSize : planes.uPlane.size = (chromaSide width).toNat * (chromaSide height).toNat ∧
    planes.vPlane.size = (chromaSide width).toNat * (chromaSide height).toNat
  chroma : ∀ block : Nat × Nat, block.1 < (chromaSide height).toNat →
    block.2 < (chromaSide width).toNat →
      block.1 * (chromaSide width).toNat + block.2 <
          (chromaSide width).toNat * (chromaSide height).toNat ∧
        0 < (blockPixels width height block).card ∧
        ∃ u v, planes.uPlane[block.1 * (chromaSide width).toNat + block.2]? = some u ∧
          planes.vPlane[block.1 * (chromaSide width).toNat + block.2]? = some v ∧
          Unclamped u (chromaUValue (meanColor (blockPixels width height block)
            fun pixel => bgraPixel (memory buffer) bgraStride pixel.1 pixel.2)) 16 240 ∧
          Unclamped v (chromaVValue (meanColor (blockPixels width height block)
            fun pixel => bgraPixel (memory buffer) bgraStride pixel.1 pixel.2)) 16 240

/-- A picture that is in its buffer is converted within the buffers, unless one more than its height
is no `int`. -/
theorem conversion_within (buffer : Array Byte) (bgraStride width height : Int32)
    (planes : I420Planes) (holds : Holds buffer bgraStride width height)
    (short : height.toInt < 2 ^ 31 - 1) :
    ConvertsWithin buffer bgraStride width height
      (convertBgraToI420 (memory buffer) bgraStride width height planes) := by
  refine ⟨checkedConvertBgraToI420_eq holds short planes, ⟨?_, fun row column below within => ?_⟩,
    ⟨?_, ?_⟩, fun block below within => ?_⟩
  · rw [convertBgraToI420_eq, size_writes, size_resize]
  · exact ⟨_, convertBgraToI420_yPlane below within,
      unclamped_luma (inRange_bgraPixel (memory buffer) bgraStride row column)⟩
  · rw [convertBgraToI420_eq, size_writes, size_resize]
  · rw [convertBgraToI420_eq, size_writes, size_resize]
  · have some := card_blockPixels below within
    have inRange := inRange_meanColor some fun pixel _ =>
      inRange_bgraPixel (memory buffer) bgraStride pixel.1 pixel.2
    have rows := double_lt_of_lt_chromaSide below
    have columns := double_lt_of_lt_chromaSide within
    rw [Nat.mul_comm] at rows columns
    obtain ⟨u, v⟩ := convertBgraToI420_chroma (memory buffer) bgraStride planes rows columns
    have mean := (blockSamples_eq (memory buffer) bgraStride width height block).1
    rw [chromaIndex_block, Nat.mul_div_cancel_left _ two_pos, Nat.mul_div_cancel_left _ two_pos,
      Nat.mul_comm block.1 2, Nat.mul_comm block.2 2] at u v
    refine ⟨row_column_lt below within, some, _, _, u, v, ?_, ?_⟩
    · rw [blockMean, mean]
      exact unclamped_chromaU inRange
    · rw [blockMean, mean]
      exact unclamped_chromaV inRange

/-- A picture of three by three pixels, with blocks that are cut off. -/
theorem conversion_within_small :
    ConvertsWithin (Array.replicate 40 7) 14 3 3
      (convertBgraToI420 (memory (Array.replicate 40 7)) 14 3 3 {}) :=
  conversion_within (Array.replicate 40 7) 14 3 3 {}
    ⟨by decide, by decide, by decide, by rw [Array.size_replicate]; decide⟩ (by decide)

/-- One more than the greatest height is no `int`, so the number of chroma rows cannot be told. -/
theorem checkedConvertBgraToI420_tallest (buffer : Array Byte) (bgraStride width : Int32)
    (tallest : height.toInt = 2 ^ 31 - 1) :
    checkedConvertBgraToI420 buffer bgraStride width height = none := by
  have rows : checkedInt (height.toInt + 1) = none :=
    if_neg fun fits => absurd fits.2 (by omega)
  rw [checkedConvertBgraToI420, rows]
  exact Option.bind_fun_none _

/-- A picture one pixel wide, of the greatest height, is in its buffer and is not converted. -/
theorem tallest_picture_overflows :
    Holds (Array.replicate 8589934588 0) 4 1 2147483647 ∧
      ∀ planes, ¬ ConvertsWithin (Array.replicate 8589934588 0) 4 1 2147483647 planes := by
  refine ⟨⟨by decide, by decide, by decide, by rw [Array.size_replicate]; decide⟩, ?_⟩
  intro planes within
  have fails : checkedConvertBgraToI420 (Array.replicate 8589934588 0) 4 1 2147483647 = none :=
    checkedConvertBgraToI420_tallest _ _ _ (by decide)
  exact Option.some_ne_none _ (within.succeeds.symm.trans fails)

end

end RemoteControl.Video

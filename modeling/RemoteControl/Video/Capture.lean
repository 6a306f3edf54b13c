/-
This file models the loop of the desktop capturer and asks whether its pacing can
lose the image the desktop stays at. An update that comes too early is released
and never captured again, so the viewer is left with an older image exactly when
the last update comes too early. Frames are dated by the clock the loop reads
when their update is acquired.
-/

import Mathlib.Data.List.ReduceOption
import RemoteControl.Library.Pacing
import RemoteControl.Video.Color

namespace RemoteControl.Video

open Pacing

/-! ### The loop -/

/-- The mapped copy of a desktop image. -/
structure Mapped where
  pData : Int → Byte
  rowPitch : Int32
  width : Int32
  height : Int32

/-- An acquired update: when, and what the calls made for it answer. -/
structure Acquired where
  now : Nat
  isTexture : Bool
  isBgra : Bool
  staging : Bool
  mapped : Option Mapped
  /-- `RTCVideoFrame::Create` makes a frame. -/
  createsFrame : Bool

/-- What the loop meets in one turn. -/
inductive Turn where
  | stopRequested
  | waitTimeout
  | accessLost (recovered : Bool)
  | failed
  | acquired (update : Acquired)

/-- `DxgiDesktopCapturer::Impl` while its loop runs. `Start` has set the source, and `Stop` takes it
back behind the loop. -/
structure Capturer where
  frameInterval : Nat
  running : Bool := true
  source : Bool := true
  nextFrameTime : Nat
  planes : I420Planes := {}
  delivered : List (Nat × RTCVideoFrame) := []

namespace Capturer

/-- A millisecond of the clock. -/
def millisecond : Nat := 1000000

/-- `frame_interval` of a rate; a rate of zero is refused before the loop starts. -/
def intervalOf (fps : UInt32) : Nat := max 1 (1000 / fps.toNat) * millisecond

/-- The image is converted and handed to the video source, if there is a frame and a source. -/
def deliver (capturer : Capturer) (now : Nat) (mapped : Mapped) (createsFrame : Bool) : Capturer :=
  let planes := convertBgraToI420 mapped.pData mapped.rowPitch mapped.width mapped.height
    capturer.planes
  { capturer with
    planes := planes
    delivered :=
      if createsFrame && capturer.source then
        capturer.delivered ++ [(now, capturedFrame mapped.width planes)]
      else capturer.delivered
    nextFrameTime := now + capturer.frameInterval }

/-- One turn of the loop of `Run`. -/
def turn (capturer : Capturer) (turn : Turn) : Capturer :=
  if !capturer.running then capturer
  else match turn with
    | .stopRequested => { capturer with running := false }
    | .waitTimeout => capturer
    | .accessLost recovered => if !recovered then { capturer with running := false } else capturer
    | .failed => { capturer with running := false }
    | .acquired update =>
      if update.now < capturer.nextFrameTime then capturer
      else if !update.isTexture then capturer
      else if !update.isBgra || !update.staging then capturer
      else match update.mapped with
        | some mapped => capturer.deliver update.now mapped update.createsFrame
        | none => capturer

/-- `Run`, entered at a time, after its first turns. -/
def run (fps : UInt32) (entered : Nat) (turns : List Turn) : Capturer :=
  turns.foldl turn { frameInterval := intervalOf fps, nextFrameTime := entered }

end Capturer

/-! ### Quiet runs -/

/-- A turn in which every call succeeds: a wait that times out, or an update and its image. -/
def quietTurn : Option (Nat × Mapped) → Turn
  | none => .waitTimeout
  | some (now, mapped) => .acquired ⟨now, true, true, true, some mapped, true⟩

/-- The frame of an image. -/
def Mapped.frame (mapped : Mapped) : RTCVideoFrame :=
  capturedFrame mapped.width
    (convertBgraToI420 mapped.pData mapped.rowPitch mapped.width mapped.height {})

/-- The frames of all acquired images, with the times of their updates. -/
def acquiredFrames (answers : List (Option (Nat × Mapped))) : List (Nat × RTCVideoFrame) :=
  answers.reduceOption.map (Prod.map id Mapped.frame)

/-- How long `AcquireNextFrame` waits. -/
def acquireTimeout : Nat := 100 * Capturer.millisecond

/-- What the pacing owes: delivered frames are an interval apart and come from acquired images in
order, and after waits of an interval the last one is of the last image. -/
structure FinalImageKept (fps : UInt32) (entered : Nat) (answers : List (Option (Nat × Mapped))) :
    Prop where
  apart : (Capturer.run fps entered (answers.map quietTurn)).delivered.IsChain
    (Apart (Capturer.intervalOf fps))
  inOrder : (Capturer.run fps entered (answers.map quietTurn)).delivered.Sublist
    (acquiredFrames answers)
  final : ∀ waits : Nat, Capturer.intervalOf fps ≤ waits * acquireTimeout →
    (Capturer.run fps entered
        ((answers ++ List.replicate waits none).map quietTurn)).delivered.getLast? =
      (acquiredFrames answers).getLast?

namespace Capturer

variable {capturer : Capturer} {fps : UInt32} {entered : Nat}
  {answers : List (Option (Nat × Mapped))}

/-- An update that is due is delivered. -/
theorem turn_update (running : capturer.running = true) {now : Nat} {mapped : Mapped} :
    capturer.turn (quietTurn (some (now, mapped))) =
      if now < capturer.nextFrameTime then capturer else capturer.deliver now mapped true := by
  unfold turn
  rw [running]
  rfl

theorem deliver_delivered (source : capturer.source = true) {now : Nat} {mapped : Mapped} :
    (capturer.deliver now mapped true).delivered = capturer.delivered ++ [(now, mapped.frame)] := by
  rw [deliver, convertBgraToI420_planes, source]
  rfl

/-- A quiet loop thins the acquired frames. -/
theorem foldl_turn_delivered (running : capturer.running = true)
    (source : capturer.source = true) :
    ((answers.map quietTurn).foldl turn capturer).delivered =
      capturer.delivered ++
        thin capturer.frameInterval capturer.nextFrameTime (acquiredFrames answers) := by
  induction answers generalizing capturer with
  | nil => exact (List.append_nil _).symm
  | cons answer rest ih =>
    rw [List.map_cons, List.foldl_cons]
    cases answer with
    | none =>
      have waited : capturer.turn (quietTurn none) = capturer := by
        unfold turn
        rw [running]
        rfl
      rw [waited, ih running source]
      rfl
    | some update =>
      obtain ⟨now, mapped⟩ := update
      have frames : acquiredFrames (some (now, mapped) :: rest) =
          (now, mapped.frame) :: acquiredFrames rest := rfl
      rw [turn_update running, frames, thin]
      by_cases early : now < capturer.nextFrameTime
      · rw [if_pos early, if_pos early, ih running source]
      · have still : (capturer.deliver now mapped true).running = true := running
        have kept : (capturer.deliver now mapped true).source = true := source
        rw [if_neg early, if_neg early, ih still kept, deliver_delivered source, List.append_assoc]
        rfl

theorem run_delivered :
    (run fps entered (answers.map quietTurn)).delivered =
      thin (intervalOf fps) entered (acquiredFrames answers) :=
  foldl_turn_delivered rfl rfl

end Capturer

section

variable {fps : UInt32} {entered : Nat} {answers : List (Option (Nat × Mapped))}

theorem acquiredFrames_append_replicate (waits : Nat) :
    acquiredFrames (answers ++ List.replicate waits none) = acquiredFrames answers := by
  rw [acquiredFrames, List.reduceOption_append, List.reduceOption_replicate_none, List.append_nil]
  rfl

end

/-- A desktop of one pixel. -/
def onePixel (shade : Byte) : Mapped := ⟨fun _ => shade, 4, 1, 1⟩

/-- Two updates a millisecond apart: the viewer stays at the first. -/
theorem final_image_lost :
    ((acquiredFrames [some (1000000, onePixel 0), some (2000000, onePixel 255)]).map
        Prod.fst).Pairwise (· < ·) ∧
      ¬ FinalImageKept 30 0 [some (1000000, onePixel 0), some (2000000, onePixel 255)] := by
  have increasing : ((acquiredFrames [some (1000000, onePixel 0),
      some (2000000, onePixel 255)]).map Prod.fst).Pairwise (· < ·) := by
    decide
  refine ⟨increasing, fun kept => ?_⟩
  have last := kept.final 10 (by decide)
  rw [Capturer.run_delivered, acquiredFrames_append_replicate, getLast?_thin_iff increasing] at last
  revert last
  decide

/-- In every quiet run the delivered frames are an interval apart and come from acquired images in
order; the last image of the run is delivered exactly when its update does not come within an
interval of the update last kept, where the first one is kept and then each that comes at least an
interval after the one kept before it. -/
theorem final_image_kept_iff {fps : UInt32} {entered : Nat}
    {answers : List (Option (Nat × Mapped))}
    (increasing : ((acquiredFrames answers).map Prod.fst).Pairwise (· < ·)) :
    FinalImageKept fps entered answers ↔
      LastKept (Capturer.intervalOf fps) entered ((acquiredFrames answers).map Prod.fst) := by
  have after : ∀ waits, (Capturer.run fps entered
      ((answers ++ List.replicate waits none).map quietTurn)).delivered =
        thin (Capturer.intervalOf fps) entered (acquiredFrames answers) := by
    intro waits
    rw [Capturer.run_delivered, acquiredFrames_append_replicate]
  rw [← getLast?_thin_iff increasing]
  constructor
  · intro kept
    have long : Capturer.intervalOf fps ≤ Capturer.intervalOf fps * acquireTimeout :=
      Nat.le_mul_of_pos_right _ (by decide)
    rw [← after, kept.final _ long]
  · intro last
    refine ⟨?_, ?_, fun waits _ => ?_⟩
    · rw [Capturer.run_delivered]
      exact thin_apart
    · rw [Capturer.run_delivered]
      exact thin_sublist
    · rw [after, last]

/-- Two updates 40 milliseconds apart, with time-outs between and behind them. -/
theorem final_image_kept_iff_slow :
    FinalImageKept 30 0
      [some (1000000, onePixel 0), none, some (41000000, onePixel 255), none] :=
  (final_image_kept_iff (by decide)).mpr (by decide)

end RemoteControl.Video

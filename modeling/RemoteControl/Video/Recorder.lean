/-
This file models `RemoteVideoRecorder` under its three threads: the renderer that
pushes frames, the worker that writes them, and the user interface that starts
and stops the recording. A step is one access to what the threads share. Frames
are numbered as they are queued, so that equal pictures stay apart, and the
recorder carries a record of what was queued and written.

The answers of Media Foundation are part of a step. The program is built for x64,
where the size of a frame in bytes fits into `size_t`. Indices of samples are
unbounded: their times fit into a `LONGLONG` for nine hundred years.
-/

import Mathlib.Data.List.Chain
import Mathlib.Data.List.Nodup
import Mathlib.Data.Rat.Lemmas
import RemoteControl.Library.Conveyor
import RemoteControl.Library.Transition
import RemoteControl.Video.View

namespace RemoteControl.Video

open Transition Conveying

/-! ### Samples -/

def kRecordingFramesPerSecond : Nat := 30

def kHundredNanosecondsPerSecond : Nat := 10000000

/-- The time of the sample with an index, in units of 100 ns. -/
def sampleTime (index : Nat) : Nat :=
  index * kHundredNanosecondsPerSecond / kRecordingFramesPerSecond

/-- The first nine hundred billion samples do not overflow. -/
theorem fitsLongLong_sampleTime {index : Nat} (short : index < 922337203685) :
    FitsLongLong ((index + 1 : Nat) * kHundredNanosecondsPerSecond : Nat) := by
  rw [FitsLongLong, kHundredNanosecondsPerSecond]
  omega

/-- The bytes of a top-down frame of four bytes a pixel. -/
def frameBytes (width height : Int32) : Nat := width.toInt.toNat * 4 * height.toInt.toNat

theorem frameBytes_lt (width height : Int32) : frameBytes width height < 2 ^ 64 := by
  have widthLt : width.toInt.toNat ≤ 2 ^ 31 - 1 := by
    have := width.toInt_lt
    omega
  have heightLt : height.toInt.toNat ≤ 2 ^ 31 - 1 := by
    have := height.toInt_lt
    omega
  exact (Nat.mul_le_mul (Nat.mul_le_mul_right 4 widthLt) heightLt).trans_lt (by decide)

/-- A frame of the queue. -/
structure QueuedFrame where
  number : Nat
  frame : VideoFrameData

/-- A sample the sink writer has taken, with the frame it was made of. -/
structure Sample where
  source : QueuedFrame
  buffer : Array Byte
  currentLength : UInt32
  sampleTime : Nat
  sampleDuration : Nat

/-- The sample made of a frame. -/
def makeSample (queued : QueuedFrame) (width height : Int32) (frameIndex : Nat) : Sample where
  source := queued
  buffer := queued.frame.pixels.extract 0 (frameBytes width height)
  currentLength := .ofNat (frameBytes width height)
  sampleTime := sampleTime frameIndex
  sampleDuration := sampleTime (frameIndex + 1) - sampleTime frameIndex

/-! ### The worker -/

/-- The variables of `Run` that outlive an iteration; the writer is known by its path. -/
structure RunLocals where
  writer : Option String := none
  frameIndex : Nat := 0
  width : Int32 := 0
  height : Int32 := 0

/-- What Media Foundation answers in one iteration. -/
structure MediaAnswers where
  writer : Bool := true
  memoryBuffer : Bool := true
  lock : Bool := true
  length : Bool := true
  sample : Bool := true
  written : Bool := true

/-- How an iteration of `Run` ends. -/
inductive Iteration where
  | breaks
  | continues (locals : RunLocals)
  | writes (locals : RunLocals) (sample : Sample)

/-- A writer is made for the first frame, when its sides are positive and even. -/
def openWriter (path : String) (locals : RunLocals) (frame : VideoFrameData) (created : Bool) :
    Option RunLocals :=
  if locals.writer.isSome then some locals
  else if frame.width ≤ 0 ∨ frame.height ≤ 0 ∨ frame.width &&& 1 ≠ 0 ∨ frame.height &&& 1 ≠ 0 ∨
      created = false then none
  else some { locals with writer := some path, width := frame.width, height := frame.height }

/-- What `Run` does with a frame it has taken from the queue. -/
def iterate (path : String) (locals : RunLocals) (queued : QueuedFrame) (answers : MediaAnswers) :
    Iteration :=
  match openWriter path locals queued.frame answers.writer with
  | none => .breaks
  | some locals =>
    if queued.frame.width ≠ locals.width ∨ queued.frame.height ≠ locals.height then
      .continues locals
    else if queued.frame.pixels.size < frameBytes locals.width locals.height then
      .continues locals
    else if !answers.memoryBuffer || !answers.lock || !answers.length || !answers.sample then
      .breaks
    else if !answers.written then .breaks
    else .writes { locals with frameIndex := locals.frameIndex + 1 }
      (makeSample queued locals.width locals.height locals.frameIndex)

/-- Where the worker is: not there, before `MFStartup`, before the lock of an iteration, behind it
with a frame, behind the loop, or returned and not yet joined. -/
inductive Worker where
  | absent
  | starting
  | waiting (locals : RunLocals)
  | holding (locals : RunLocals) (queued : QueuedFrame)
  | leaving
  | returned

namespace Worker

/-- `join` returns. -/
def joins : Worker → Bool
  | absent | returned => true
  | _ => false

/-- The frame the worker has taken and not yet dealt with. -/
def taken : Worker → List QueuedFrame
  | holding _ queued => [queued]
  | _ => []

end Worker

/-! ### The recorder -/

/-- Where the thread of the user interface is. A `Stop` is part of a `Start` when it knows a
path. -/
inductive UiThread where
  | outside
  | stopping (path : Option String)
  | clearing (path : Option String)
  | joining (path : Option String)
  | opening (path : String)
  | spawning

/-- `RemoteVideoRecorder` and its threads. -/
structure RemoteVideoRecorder where
  path : String := ""
  recording : Bool := false
  stopRequested : Bool := false
  frames : List QueuedFrame := []
  worker : Worker := .absent
  ui : UiThread := .outside
  -- the copy `PushFrame` has made and not yet queued
  copy : Option VideoFrameData := none
  -- what was queued and written so far, and how much of it before the last `Start`
  enqueued : List QueuedFrame := []
  samples : List Sample := []
  enqueuedBefore : Nat := 0
  samplesBefore : Nat := 0
  -- the first frame dequeued since the last `Start`
  first : Option QueuedFrame := none

inductive RecorderAction where
  | pushFrame (frame : VideoFrameData)
  | enqueue
  | start (path : String)
  | stop
  | ui
  | startup (succeeded : Bool)
  | dequeue
  | process (answers : MediaAnswers)
  | finish

namespace RemoteVideoRecorder

variable (recorder : RemoteVideoRecorder)

/-- The frames queued since the last `Start`. -/
def enqueuedSince : List QueuedFrame := recorder.enqueued.drop recorder.enqueuedBefore

/-- The samples of the recording begun by the last `Start`. -/
def written : List Sample := recorder.samples.drop recorder.samplesBefore

/-- `PushFrame` up to its lock. -/
def pushFrame (frame : VideoFrameData) : RemoteVideoRecorder :=
  if !recorder.recording || frame.width ≤ 0 || frame.height ≤ 0 || frame.pixels.isEmpty then
    recorder
  else { recorder with copy := some frame }

/-- The most frames the queue holds. -/
def maxFrames : Nat := 6

/-- The critical section of `PushFrame`. -/
def enqueue (frame : VideoFrameData) : RemoteVideoRecorder :=
  if !recorder.recording || recorder.stopRequested then { recorder with copy := none }
  else
    let frames := if recorder.frames.length ≥ maxFrames then recorder.frames.tail
      else recorder.frames
    let queued : QueuedFrame := ⟨recorder.enqueued.length, frame⟩
    { recorder with
      frames := frames ++ [queued], copy := none, enqueued := recorder.enqueued ++ [queued] }

/-- The first line of `Start`. -/
def start (path : String) : RemoteVideoRecorder :=
  if path.isEmpty || recorder.recording then recorder
  else { recorder with ui := .stopping (some path) }

/-- The next access of `Stop` or `Start` to what the threads share. -/
def stepUi : RemoteVideoRecorder :=
  match recorder.ui with
  | .outside => recorder
  | .stopping path => { recorder with recording := false, ui := .clearing path }
  | .clearing path =>
    { recorder with stopRequested := true, frames := [], ui := .joining path }
  | .joining none => { recorder with worker := .absent, ui := .outside }
  | .joining (some path) => { recorder with worker := .absent, ui := .opening path }
  | .opening path =>
    { recorder with
      path := path, stopRequested := false, frames := [], recording := true, ui := .spawning
      enqueuedBefore := recorder.enqueued.length, samplesBefore := recorder.samples.length
      first := none }
  | .spawning => { recorder with worker := .starting, ui := .outside }

/-- The critical section of an iteration of `Run`. -/
def dequeue (locals : RunLocals) : RemoteVideoRecorder :=
  if recorder.stopRequested then { recorder with worker := .leaving }
  else match recorder.frames with
    | [] => recorder
    | queued :: rest =>
      { recorder with
        frames := rest, worker := .holding locals queued, first := recorder.first.or (some queued) }

/-- The rest of an iteration of `Run`. -/
def process (locals : RunLocals) (queued : QueuedFrame) (answers : MediaAnswers) :
    RemoteVideoRecorder :=
  match iterate recorder.path locals queued answers with
  | .breaks => { recorder with worker := .leaving }
  | .continues locals => { recorder with worker := .waiting locals }
  | .writes locals sample =>
    { recorder with worker := .waiting locals, samples := recorder.samples ++ [sample] }

/-- What an action does. -/
def next : RecorderAction → RemoteVideoRecorder
  | .pushFrame frame => recorder.pushFrame frame
  | .enqueue =>
    match recorder.copy with
    | some frame => recorder.enqueue frame
    | none => recorder
  | .start path => recorder.start path
  | .stop => { recorder with ui := .stopping none }
  | .ui => recorder.stepUi
  | .startup true => { recorder with worker := .waiting {} }
  | .startup false => { recorder with recording := false, worker := .returned }
  | .dequeue =>
    match recorder.worker with
    | .waiting locals => recorder.dequeue locals
    | _ => recorder
  | .process answers =>
    match recorder.worker with
    | .holding locals queued => recorder.process locals queued answers
    | _ => recorder
  | .finish => { recorder with recording := false, worker := .returned }

/-- Which thread can go on. -/
def allows : RecorderAction → Bool
  | .pushFrame _ => recorder.copy.isNone
  | .enqueue => recorder.copy.isSome
  | .start _ | .stop => (recorder.ui matches .outside)
  | .ui =>
    match recorder.ui with
    | .outside => false
    | .joining _ => recorder.worker.joins
    | _ => true
  | .startup _ => (recorder.worker matches .starting)
  | .dequeue =>
    (recorder.worker matches .waiting _) && (recorder.stopRequested || !recorder.frames.isEmpty)
  | .process _ => (recorder.worker matches .holding _ _)
  | .finish => (recorder.worker matches .leaving)

/-- The recorder of a dialog, from its construction on. -/
def system : System RemoteVideoRecorder RecorderAction where
  initial recorder := recorder = {}
  allowed recorder action := recorder.allows action = true
  next := next

instance (recorder : RemoteVideoRecorder) (action : RecorderAction) :
    Decidable (system.allowed recorder action) :=
  inferInstanceAs (Decidable (recorder.allows action = true))

/-! ### What a step can do -/

/-- Every outcome of a step, with what held before it. -/
inductive Effect : RemoteVideoRecorder → Prop where
  | copies (copy : Option VideoFrameData) : Effect { recorder with copy }
  | queues (frame : VideoFrameData) (frames : List QueuedFrame)
      (running : recorder.stopRequested = false)
      (dropped : frames.Sublist recorder.frames)
      (room : recorder.frames.length ≤ maxFrames → frames.length < maxFrames) :
      Effect { recorder with
        frames := frames ++ [⟨recorder.enqueued.length, frame⟩], copy := none
        enqueued := recorder.enqueued ++ [⟨recorder.enqueued.length, frame⟩] }
  | stops (path : Option String) : Effect { recorder with ui := .stopping path }
  | quits (path : Option String) : Effect { recorder with recording := false, ui := .clearing path }
  | clears (path : Option String) :
      Effect { recorder with stopRequested := true, frames := [], ui := .joining path }
  | joins (path : Option String) (ui : UiThread) (joining : recorder.ui = .joining path)
      (finished : recorder.worker.joins = true)
      (goes : ui = .outside ∨ ∃ path, ui = .opening path) :
      Effect { recorder with worker := .absent, ui }
  | opens (path : String) (opening : recorder.ui = .opening path) :
      Effect { recorder with
        path := path, stopRequested := false, frames := [], recording := true, ui := .spawning
        enqueuedBefore := recorder.enqueued.length, samplesBefore := recorder.samples.length
        first := none }
  | spawns (spawning : recorder.ui = .spawning) :
      Effect { recorder with worker := .starting, ui := .outside }
  | begins (starting : recorder.worker = .starting) :
      Effect { recorder with worker := .waiting {} }
  | ends (recording : Bool) (worker : Worker) (present : recorder.worker ≠ .absent)
      (ending : worker = .leaving ∨ worker = .returned) :
      Effect { recorder with recording, worker }
  | takes (locals : RunLocals) (queued : QueuedFrame) (rest : List QueuedFrame)
      (waiting : recorder.worker = .waiting locals) (frames : recorder.frames = queued :: rest) :
      Effect { recorder with
        frames := rest, worker := .holding locals queued, first := recorder.first.or (some queued) }
  | skips (locals opened : RunLocals) (queued : QueuedFrame) (created : Bool)
      (holding : recorder.worker = .holding locals queued)
      (opens : openWriter recorder.path locals queued.frame created = some opened) :
      Effect { recorder with worker := .waiting opened }
  | writes (locals opened : RunLocals) (queued : QueuedFrame) (created : Bool)
      (holding : recorder.worker = .holding locals queued)
      (opens : openWriter recorder.path locals queued.frame created = some opened)
      (width : queued.frame.width = opened.width) (height : queued.frame.height = opened.height)
      (enough : frameBytes opened.width opened.height ≤ queued.frame.pixels.size) :
      Effect { recorder with
        worker := .waiting { opened with frameIndex := opened.frameIndex + 1 }
        samples := recorder.samples ++
          [makeSample queued opened.width opened.height opened.frameIndex] }

theorem effect_refl : Effect recorder recorder := .copies recorder.copy

theorem effect_pushFrame (frame : VideoFrameData) : Effect recorder (recorder.pushFrame frame) := by
  rw [pushFrame]
  split
  · exact recorder.effect_refl
  · exact .copies _

theorem effect_enqueue (frame : VideoFrameData) : Effect recorder (recorder.enqueue frame) := by
  rw [enqueue]
  split
  · exact .copies _
  · rename_i running
    rw [Bool.or_eq_true, not_or, Bool.not_eq_true, Bool.not_eq_true] at running
    refine .queues frame _ running.2 ?_ ?_
    · split
      · exact List.tail_sublist _
      · exact List.Sublist.refl _
    · intro bounded
      split
      · rename_i full
        rw [List.length_tail, Nat.le_antisymm bounded full]
        decide
      · rename_i fits
        exact Nat.lt_of_not_ge fits

theorem effect_start (path : String) : Effect recorder (recorder.start path) := by
  rw [start]
  split
  · exact recorder.effect_refl
  · exact .stops _

theorem effect_stepUi (allowed : system.allowed recorder .ui) :
    Effect recorder recorder.stepUi := by
  rw [stepUi]
  split
  · exact recorder.effect_refl
  · exact .quits _
  · exact .clears _
  · rename_i joining
    exact .joins none _ joining (by simpa [system, allows, joining] using allowed) (Or.inl rfl)
  · rename_i path joining
    exact .joins (some path) _ joining (by simpa [system, allows, joining] using allowed)
      (Or.inr ⟨path, rfl⟩)
  · rename_i path opening
    exact .opens path opening
  · rename_i spawning
    exact .spawns spawning

theorem effect_dequeue {locals : RunLocals} (waiting : recorder.worker = .waiting locals) :
    Effect recorder (recorder.dequeue locals) := by
  rw [dequeue]
  split
  · refine .ends recorder.recording _ ?_ (Or.inl rfl)
    rw [waiting]
    exact Worker.noConfusion
  · split
    · exact recorder.effect_refl
    · rename_i queued rest frames
      exact .takes locals queued rest waiting frames

theorem effect_process {locals : RunLocals} {queued : QueuedFrame} (answers : MediaAnswers)
    (holding : recorder.worker = .holding locals queued) :
    Effect recorder (recorder.process locals queued answers) := by
  have present : recorder.worker ≠ .absent := by
    rw [holding]
    exact Worker.noConfusion
  rw [process, iterate]
  cases opens : openWriter recorder.path locals queued.frame answers.writer with
  | none => exact .ends recorder.recording _ present (Or.inl rfl)
  | some opened =>
    dsimp only
    split_ifs with otherSize short unprepared unwritten
    · exact .skips locals opened queued answers.writer holding opens
    · exact .skips locals opened queued answers.writer holding opens
    · exact .ends recorder.recording _ present (Or.inl rfl)
    · exact .ends recorder.recording _ present (Or.inl rfl)
    · rw [not_or, not_not, not_not] at otherSize
      exact .writes locals opened queued answers.writer holding opens otherSize.1 otherSize.2
        (Nat.le_of_not_lt short)

theorem effect_next {action : RecorderAction} (allowed : system.allowed recorder action) :
    Effect recorder (recorder.next action) := by
  cases action with
  | pushFrame frame => exact recorder.effect_pushFrame frame
  | enqueue =>
    rw [next]
    split
    · exact recorder.effect_enqueue _
    · exact recorder.effect_refl
  | start path => exact recorder.effect_start path
  | stop => exact .stops none
  | ui => exact recorder.effect_stepUi allowed
  | startup succeeded =>
    have starting : recorder.worker = .starting := by
      cases worker : recorder.worker <;> simp [system, allows, worker] at allowed ⊢
    cases succeeded with
    | true => exact .begins starting
    | false =>
      refine .ends false _ ?_ (Or.inr rfl)
      rw [starting]
      exact Worker.noConfusion
  | dequeue =>
    rw [next]
    split
    · rename_i waiting
      exact recorder.effect_dequeue waiting
    · exact recorder.effect_refl
  | process answers =>
    rw [next]
    split
    · rename_i holding
      exact recorder.effect_process answers holding
    · exact recorder.effect_refl
  | finish =>
    refine .ends false _ ?_ (Or.inr rfl)
    intro absent
    simp [system, allows, absent] at allowed

/-- What every effect preserves holds of every reachable recorder. -/
theorem holds_of_effects (holds : RemoteVideoRecorder → Prop) (initially : holds {})
    (preserved : ∀ before after, system.Reachable before → Effect before after → holds before →
      holds after) {recorder : RemoteVideoRecorder} (reachable : system.Reachable recorder) :
    holds recorder := by
  refine System.Reachable.invariant ?_ ?_ reachable
  · rintro _ rfl
    exact initially
  · intro before action reachable held allowed
    exact preserved before _ reachable (before.effect_next allowed) held

/-! ### The queue -/

/-- The queue is bounded. -/
theorem length_frames_le {recorder : RemoteVideoRecorder} (reachable : system.Reachable recorder) :
    recorder.frames.length ≤ maxFrames := by
  refine holds_of_effects (fun recorder => recorder.frames.length ≤ maxFrames) (Nat.zero_le _) ?_
    reachable
  intro before after _ effect bounded
  cases effect with
  | queues frame frames running dropped room =>
    rw [List.length_append]
    exact room bounded
  | takes locals queued rest waiting frames =>
    rw [frames, List.length_cons] at bounded
    exact Nat.le_of_succ_le bounded
  | clears => exact Nat.zero_le _
  | opens => exact Nat.zero_le _
  | _ => exact bounded

/-- Frames are numbered in the order in which they are queued. -/
theorem map_number_enqueued {recorder : RemoteVideoRecorder}
    (reachable : system.Reachable recorder) :
    recorder.enqueued.map QueuedFrame.number = List.range recorder.enqueued.length := by
  refine holds_of_effects (fun recorder => recorder.enqueued.map QueuedFrame.number =
    List.range recorder.enqueued.length) rfl ?_ reachable
  intro before after _ effect numbered
  cases effect with
  | queues =>
    rw [List.map_append, numbered, List.length_append, List.length_singleton, List.range_succ]
    rfl
  | _ => exact numbered

theorem nodup_enqueued {recorder : RemoteVideoRecorder} (reachable : system.Reachable recorder) :
    recorder.enqueued.Nodup := by
  refine List.Nodup.of_map QueuedFrame.number ?_
  rw [map_number_enqueued reachable]
  exact List.nodup_range

/-- The frames between the queue and the file, and the records of both ends. -/
def conveyor : Conveyor QueuedFrame where
  content := recorder.worker.taken ++ recorder.frames
  received := recorder.enqueued
  delivered := recorder.samples.map Sample.source

/-- No step lets a frame overtake another. -/
theorem Effect.passes {before after : RemoteVideoRecorder} (effect : Effect before after) :
    Passes before.conveyor after.conveyor := by
  cases effect with
  | copies => exact .refl _
  | queues frame frames running dropped room =>
    refine (Passes.lose (dropped.append_left before.worker.taken) _ _).trans ?_
    rw [conveyor, ← List.append_assoc]
    exact .receive _ _ _ _
  | stops => exact .refl _
  | quits => exact .refl _
  | clears => exact .lose ((List.nil_sublist _).append_left _) _ _
  | joins => exact .lose (List.sublist_append_right _ _) _ _
  | opens => exact .lose ((List.nil_sublist _).append_left _) _ _
  | spawns => exact .lose (List.sublist_append_right _ _) _ _
  | begins => exact .lose (List.sublist_append_right _ _) _ _
  | ends recording worker present ending =>
    have taken : worker.taken = [] := by
      rcases ending with rfl | rfl <;> rfl
    refine .lose ?_ _ _
    rw [taken]
    exact List.sublist_append_right _ _
  | takes locals queued rest waiting frames =>
    rw [conveyor, conveyor, waiting, frames]
    exact .refl _
  | skips => exact .lose (List.sublist_append_right _ _) _ _
  | writes locals opened queued created holding =>
    rw [conveyor, conveyor, holding, List.map_append]
    exact .deliver _ _ _ _

theorem passes_run {recorder : RemoteVideoRecorder} {actions : List RecorderAction}
    (allows : system.Allows recorder actions) :
    Passes recorder.conveyor (system.run recorder actions).conveyor := by
  induction actions generalizing recorder with
  | nil => exact .refl _
  | cons action rest inductionHypothesis =>
    exact (recorder.effect_next allows.1).passes.trans (inductionHypothesis allows.2)

/-! ### Stopping -/

/-- What holds between the statements of `Stop` and `Start`: the queue is empty and stays so while
`Stop` waits for the worker, and `Start` has no worker until it makes one. -/
structure UiHolds : Prop where
  stopped : ∀ path, recorder.ui = .joining path →
    recorder.stopRequested = true ∧ recorder.frames = []
  joined : (∃ path, recorder.ui = .opening path) ∨ recorder.ui = .spawning →
    recorder.worker = .absent

theorem UiHolds.effect {before after : RemoteVideoRecorder} (held : before.UiHolds)
    (effect : Effect before after) : after.UiHolds := by
  cases effect with
  | copies => exact ⟨held.stopped, held.joined⟩
  | queues frame frames running =>
    refine ⟨fun path joining => ?_, held.joined⟩
    rw [(held.stopped path joining).1] at running
    cases running
  | stops => exact ⟨nofun, nofun⟩
  | quits => exact ⟨nofun, nofun⟩
  | clears => exact ⟨fun _ _ => ⟨rfl, rfl⟩, nofun⟩
  | joins path ui joining finished goes =>
    refine ⟨fun other joining => ?_, fun _ => rfl⟩
    rcases goes with rfl | ⟨path, rfl⟩ <;> cases joining
  | opens path opening => exact ⟨nofun, fun _ => held.joined (Or.inl ⟨path, opening⟩)⟩
  | spawns => exact ⟨nofun, nofun⟩
  | ends recording worker present =>
    exact ⟨held.stopped, fun between => absurd (held.joined between) present⟩
  | takes locals queued rest waiting frames =>
    refine ⟨fun path joining => ?_, fun between => ?_⟩
    · rw [(held.stopped path joining).2] at frames
      cases frames
    · cases waiting.symm.trans (held.joined between)
  | begins worker | skips _ _ _ _ worker | writes _ _ _ _ worker =>
    exact ⟨held.stopped, fun between => by cases worker.symm.trans (held.joined between)⟩

theorem uiHolds {recorder : RemoteVideoRecorder} (reachable : system.Reachable recorder) :
    recorder.UiHolds :=
  holds_of_effects UiHolds ⟨nofun, nofun⟩ (fun _ _ _ effect held => held.effect effect) reachable

/-- `Stop` is about to return. -/
def StopReturns : Prop := (∃ path, recorder.ui = .joining path) ∧ recorder.worker.joins = true

/-- When `Stop` returns, nothing is left between the queue and the file. -/
theorem conveyor_stepUi_of_stopReturns {recorder : RemoteVideoRecorder}
    (reachable : system.Reachable recorder) (returns : recorder.StopReturns) :
    recorder.stepUi.conveyor = ⟨[], recorder.conveyor.received, recorder.conveyor.delivered⟩ := by
  obtain ⟨⟨path, joining⟩, _⟩ := returns
  have empty := ((uiHolds reachable).stopped path joining).2
  cases path <;> simp [stepUi, joining, conveyor, empty, Worker.taken]

/-- What was queued before `Stop` returned is not written afterwards. -/
theorem not_mem_enqueued_of_stopReturns {recorder : RemoteVideoRecorder}
    (reachable : system.Reachable recorder) (returns : recorder.StopReturns)
    {actions : List RecorderAction} (allows : system.Allows recorder.stepUi actions) :
    ∀ sample ∈ (system.run recorder.stepUi actions).samples.drop recorder.samples.length,
      sample.source ∉ recorder.enqueued := by
  intro sample later old
  have allowed : system.allowed recorder .ui := by
    obtain ⟨⟨path, joining⟩, joins⟩ := returns
    simpa [system, RemoteVideoRecorder.allows, joining] using joins
  have reachableAfter := (reachable.take .ui allowed).run allows
  have left := conveyor_stepUi_of_stopReturns reachable returns
  have received : sample.source ∈ recorder.stepUi.conveyor.received := by
    rw [left]
    exact old
  have notLater := (passes_run allows).not_mem_delivered (by rw [left])
    (nodup_enqueued reachableAfter) received
  rw [left] at notLater
  refine notLater ?_
  rw [conveyor, conveyor, List.length_map, ← List.map_drop]
  exact List.mem_map_of_mem later

/-! ### One recording -/

/-- Since `Start`, the frames keep their order. -/
theorem keepsOrderSince_start {recorder : RemoteVideoRecorder}
    (reachable : system.Reachable recorder) :
    KeepsOrderSince recorder.enqueuedBefore recorder.samplesBefore recorder.conveyor := by
  have initially : KeepsOrderSince 0 0 (conveyor {}) := keepsOrderSince_now (conveyor {}) rfl
  refine holds_of_effects (fun recorder => KeepsOrderSince recorder.enqueuedBefore
    recorder.samplesBefore recorder.conveyor) initially ?_ reachable
  intro before after reachable effect keeps
  have passes := effect.passes
  cases effect with
  | opens path opening =>
    have absent := (uiHolds reachable).joined (Or.inl ⟨path, opening⟩)
    have now := keepsOrderSince_now ⟨[], before.enqueued, before.samples.map Sample.source⟩ rfl
    rw [List.length_map] at now
    rw [conveyor, absent]
    exact now
  | _ => exact keeps.passes passes

/-- Sides a recording can have. -/
def HasEvenSides (frame : VideoFrameData) : Prop :=
  (0 < frame.width.toInt ∧ 2 ∣ frame.width.toInt) ∧ 0 < frame.height.toInt ∧ 2 ∣ frame.height.toInt

/-- A sample of a recording is made of a frame of the even size of the first one, and its buffer
is the picture of that frame: the bytes of all its pixels, and nothing behind them. -/
structure SizedAs (first : QueuedFrame) (sample : Sample) : Prop where
  even : HasEvenSides first.frame
  width : sample.source.frame.width = first.frame.width
  height : sample.source.frame.height = first.frame.height
  enough : frameBytes first.frame.width first.frame.height ≤ sample.source.frame.pixels.size
  copied : sample.buffer =
    sample.source.frame.pixels.extract 0 (frameBytes first.frame.width first.frame.height)
  filled : sample.buffer.size = frameBytes first.frame.width first.frame.height
  length : sample.currentLength = .ofNat sample.buffer.size

/-- A frame that has all its pixels is copied whole. -/
theorem sizedAs_makeSample {first queued : QueuedFrame} (even : HasEvenSides first.frame)
    (width : queued.frame.width = first.frame.width)
    (height : queued.frame.height = first.frame.height)
    (enough : frameBytes first.frame.width first.frame.height ≤ queued.frame.pixels.size)
    (index : Nat) :
    SizedAs first (makeSample queued first.frame.width first.frame.height index) := by
  have filled : (queued.frame.pixels.extract 0
      (frameBytes first.frame.width first.frame.height)).size =
        frameBytes first.frame.width first.frame.height := by
    rw [Array.size_extract, Nat.min_eq_left enough, Nat.sub_zero]
  exact ⟨even, width, height, enough, rfl, filled, congrArg UInt32.ofNat filled.symm⟩

/-- The variables of `Run` hold the size of the first frame. -/
def NotesSize (locals : RunLocals) : Prop :=
  ∃ first, recorder.first = some first ∧ HasEvenSides first.frame ∧
    first.frame.width = locals.width ∧ first.frame.height = locals.height

/-- The variables of `Run` agree with what it has seen and written; the first frame it has seen is
given while there is no writer. -/
def Fits (locals : RunLocals) (seen : Option QueuedFrame) : Prop :=
  locals.frameIndex = recorder.written.length ∧
    match locals.writer with
    | none => recorder.first = seen ∧ recorder.written = []
    | some _ => recorder.NotesSize locals

theorem even_of_and_one {side : Int32} (even : side &&& 1 = 0) : 2 ∣ side.toInt := by
  have bits : side.toBitVec &&& 1#32 = 0#32 := congrArg Int32.toBitVec even
  have parity : side.toBitVec.toNat % 2 = 0 := by
    rw [← Nat.and_one_is_mod]
    exact congrArg BitVec.toNat bits
  rw [← Int32.toInt_toBitVec, BitVec.toInt_eq_toNat_cond]
  split <;> omega

theorem toInt_pos {side : Int32} (positive : ¬side ≤ 0) : 0 < side.toInt := by
  rw [Int32.le_iff_toInt_le] at positive
  exact Int.not_le.mp positive

theorem openWriter_eq_some {path : String} {locals opened : RunLocals} {frame : VideoFrameData}
    {created : Bool} (opens : openWriter path locals frame created = some opened) :
    (locals.writer.isSome ∧ opened = locals) ∨
      locals.writer = none ∧ HasEvenSides frame ∧
        opened =
          { locals with writer := some path, width := frame.width, height := frame.height } := by
  rw [openWriter] at opens
  split_ifs at opens with open' odd
  · exact Or.inl ⟨open', (Option.some_inj.mp opens).symm⟩
  · simp only [not_or, not_not] at odd
    obtain ⟨widthPos, heightPos, widthEven, heightEven, _⟩ := odd
    refine Or.inr ⟨Option.not_isSome_iff_eq_none.mp open', ?_, (Option.some_inj.mp opens).symm⟩
    exact ⟨⟨toInt_pos widthPos, even_of_and_one widthEven⟩, toInt_pos heightPos,
      even_of_and_one heightEven⟩

/-- With a writer open, the first frame has the size of the recording. -/
theorem Fits.open {recorder : RemoteVideoRecorder} {locals opened : RunLocals}
    {queued : QueuedFrame} {created : Bool} (fits : recorder.Fits locals (some queued))
    (opens : openWriter recorder.path locals queued.frame created = some opened) :
    opened.writer.isSome ∧ opened.frameIndex = recorder.written.length ∧
      recorder.NotesSize opened := by
  obtain ⟨index, agree⟩ := fits
  obtain ⟨openBefore, rfl⟩ | ⟨noWriter, evenSides, rfl⟩ := openWriter_eq_some opens
  · obtain ⟨writer, known⟩ := Option.isSome_iff_exists.mp openBefore
    rw [known] at agree
    exact ⟨openBefore, index, agree⟩
  · rw [noWriter] at agree
    exact ⟨rfl, index, queued, agree.1, evenSides, rfl, rfl⟩

theorem Fits.of_open {recorder : RemoteVideoRecorder} {locals : RunLocals}
    {seen : Option QueuedFrame} (isOpen : locals.writer.isSome)
    (index : locals.frameIndex = recorder.written.length) (size : recorder.NotesSize locals) :
    recorder.Fits locals seen := by
  obtain ⟨writer, known⟩ := Option.isSome_iff_exists.mp isOpen
  refine ⟨index, ?_⟩
  rw [known]
  exact size

/-- What holds of the recording begun by the last `Start`. -/
structure RecordingHolds : Prop where
  fresh : recorder.ui = .spawning ∨ recorder.worker = .starting →
    recorder.first = none ∧ recorder.written = []
  waiting : ∀ locals, recorder.worker = .waiting locals → recorder.Fits locals none
  holding : ∀ locals queued, recorder.worker = .holding locals queued →
    recorder.Fits locals (some queued)
  sized : ∀ sample ∈ recorder.written, ∃ first, recorder.first = some first ∧ SizedAs first sample
  timed : recorder.written.map (fun sample => (sample.sampleTime, sample.sampleDuration)) =
    (List.range recorder.written.length).map
      fun index => (sampleTime index, sampleTime (index + 1) - sampleTime index)

/-- The records of the last recording after one more sample. -/
theorem written_append {recorder : RemoteVideoRecorder} (reachable : system.Reachable recorder)
    (sample : Sample) :
    (recorder.samples ++ [sample]).drop recorder.samplesBefore = recorder.written ++ [sample] := by
  have marked := (keepsOrderSince_start reachable).delivered_le
  rw [conveyor, List.length_map] at marked
  exact List.drop_append_of_le_length marked

section

variable {recorder : RemoteVideoRecorder}

/-- `Start` begins an empty recording. -/
theorem recordingHolds_opened {path : String} (absent : recorder.worker = .absent) :
    RecordingHolds { recorder with
      path := path, stopRequested := false, frames := [], recording := true, ui := .spawning
      enqueuedBefore := recorder.enqueued.length, samplesBefore := recorder.samples.length
      first := none } := by
  have empty : recorder.samples.drop recorder.samples.length = [] := List.drop_length
  refine ⟨fun _ => ⟨rfl, empty⟩, ?_, ?_, ?_, ?_⟩
  · intro locals waiting
    cases absent.symm.trans waiting
  · intro locals queued holding
    cases absent.symm.trans holding
  · intro sample mem
    rw [written, empty] at mem
    cases mem
  · rw [written, empty]
    rfl

/-- The worker enters its loop with nothing seen or written. -/
theorem RecordingHolds.begun (held : recorder.RecordingHolds)
    (starting : recorder.worker = .starting) :
    RecordingHolds { recorder with worker := .waiting {} } := by
  obtain ⟨first, written⟩ := held.fresh (Or.inr starting)
  refine ⟨fun _ => ⟨first, written⟩, ?_, nofun, held.sized, held.timed⟩
  rintro _ ⟨⟩
  exact ⟨(congrArg List.length written).symm, first, written⟩

/-- The worker leaves its loop. -/
theorem RecordingHolds.ended (held : recorder.RecordingHolds) (recording : Bool) {worker : Worker}
    (ending : worker = .leaving ∨ worker = .returned) :
    RecordingHolds { recorder with recording, worker } := by
  refine ⟨fun fresh => ?_, ?_, ?_, held.sized, held.timed⟩
  · rcases fresh with spawning | starting
    · exact held.fresh (Or.inl spawning)
    · rcases ending with rfl | rfl <;> cases starting
  · rintro locals rfl
    rcases ending with ending | ending <;> cases ending
  · rintro locals queued rfl
    rcases ending with ending | ending <;> cases ending

/-- The frame taken is the first one unless there is one already. -/
theorem Fits.taken {locals : RunLocals} (fits : recorder.Fits locals none) (queued : QueuedFrame)
    (rest : List QueuedFrame) :
    Fits { recorder with
      frames := rest, worker := .holding locals queued
      first := recorder.first.or (some queued) } locals (some queued) := by
  obtain ⟨index, agree⟩ := fits
  refine ⟨index, ?_⟩
  cases writer : locals.writer with
  | none =>
    rw [writer] at agree
    exact ⟨by rw [agree.1]; rfl, agree.2⟩
  | some path =>
    rw [writer] at agree
    obtain ⟨first, known, sides⟩ := agree
    exact ⟨first, by rw [known]; rfl, sides⟩

/-- The worker takes a frame. -/
theorem RecordingHolds.taken (held : recorder.RecordingHolds) (uiHeld : recorder.UiHolds)
    {locals : RunLocals} (waiting : recorder.worker = .waiting locals) (queued : QueuedFrame)
    (rest : List QueuedFrame) :
    RecordingHolds { recorder with
      frames := rest, worker := .holding locals queued
      first := recorder.first.or (some queued) } := by
  refine ⟨fun fresh => ?_, nofun, ?_, ?_, held.timed⟩
  · rcases fresh with spawning | starting
    · cases waiting.symm.trans (uiHeld.joined (Or.inr spawning))
    · cases starting
  · rintro _ _ ⟨⟩
    exact (held.waiting locals waiting).taken queued rest
  · intro sample mem
    obtain ⟨first, known, sized⟩ := held.sized sample mem
    exact ⟨first, by rw [known]; rfl, sized⟩

/-- The worker writes the sample of the frame it holds. -/
theorem RecordingHolds.wrote (held : recorder.RecordingHolds)
    (reachable : system.Reachable recorder) {locals opened : RunLocals} {queued : QueuedFrame}
    {created : Bool} (holding : recorder.worker = .holding locals queued)
    (opens : openWriter recorder.path locals queued.frame created = some opened)
    (width : queued.frame.width = opened.width) (height : queued.frame.height = opened.height)
    (enough : frameBytes opened.width opened.height ≤ queued.frame.pixels.size) :
    RecordingHolds { recorder with
      worker := .waiting { opened with frameIndex := opened.frameIndex + 1 }
      samples := recorder.samples ++
        [makeSample queued opened.width opened.height opened.frameIndex] } := by
  obtain ⟨isOpen, index, first, known, evenSides, firstWidth, firstHeight⟩ :=
    (held.holding locals queued holding).open opens
  have entries := written_append reachable
    (makeSample queued opened.width opened.height opened.frameIndex)
  refine ⟨fun fresh => ?_, ?_, nofun, ?_, ?_⟩
  · have spawning := fresh.resolve_right nofun
    cases holding.symm.trans ((uiHolds reachable).joined (Or.inr spawning))
  · rintro _ ⟨⟩
    refine .of_open isOpen ?_ ⟨first, known, evenSides, firstWidth, firstHeight⟩
    rw [written, entries, List.length_append, ← index]
    rfl
  · intro sample mem
    rw [written, entries, List.mem_append, List.mem_singleton] at mem
    obtain mem | rfl := mem
    · exact held.sized sample mem
    · refine ⟨first, known, ?_⟩
      rw [← firstWidth] at width
      rw [← firstHeight] at height
      rw [← firstWidth, ← firstHeight] at enough ⊢
      exact sizedAs_makeSample evenSides width height enough opened.frameIndex
  · rw [written, entries, List.map_append, held.timed, List.length_append,
      List.length_singleton, List.range_succ, List.map_append, ← index]
    rfl

end

theorem RecordingHolds.effect {before after : RemoteVideoRecorder} (held : before.RecordingHolds)
    (reachable : system.Reachable before) (effect : Effect before after) :
    after.RecordingHolds := by
  have uiHeld := uiHolds reachable
  cases effect with
  | copies | queues => exact ⟨held.fresh, held.waiting, held.holding, held.sized, held.timed⟩
  | stops | quits | clears =>
    exact ⟨fun fresh => held.fresh (Or.inr (fresh.resolve_left nofun)), held.waiting, held.holding,
      held.sized, held.timed⟩
  | joins path ui joining finished goes =>
    refine ⟨fun fresh => ?_, nofun, nofun, held.sized, held.timed⟩
    rcases goes with rfl | ⟨path, rfl⟩ <;> rcases fresh with fresh | fresh <;> cases fresh
  | opens path opening => exact recordingHolds_opened (uiHeld.joined (Or.inl ⟨path, opening⟩))
  | spawns spawning =>
    exact ⟨fun _ => held.fresh (Or.inl spawning), nofun, nofun, held.sized, held.timed⟩
  | begins starting => exact held.begun starting
  | ends recording worker present ending => exact held.ended recording ending
  | takes locals queued rest waiting => exact held.taken uiHeld waiting queued rest
  | skips locals opened queued created holding opens =>
    obtain ⟨isOpen, index, sides⟩ := (held.holding locals queued holding).open opens
    refine ⟨fun fresh => held.fresh (Or.inl (fresh.resolve_right nofun)), ?_, nofun, held.sized,
      held.timed⟩
    rintro _ ⟨⟩
    exact .of_open isOpen index sides
  | writes locals opened queued created holding opens width height enough =>
    exact held.wrote reachable holding opens width height enough

theorem recordingHolds {recorder : RemoteVideoRecorder} (reachable : system.Reachable recorder) :
    recorder.RecordingHolds :=
  holds_of_effects RecordingHolds
    ⟨fun _ => ⟨rfl, rfl⟩, nofun, nofun, fun _ mem => absurd mem List.not_mem_nil, rfl⟩
    (fun _ _ reachable effect held => held.effect reachable effect) reachable

/-! ### The times of a recording -/

theorem sampleTime_le_succ (index : Nat) : sampleTime index ≤ sampleTime (index + 1) :=
  Nat.div_le_div_right (Nat.mul_le_mul_right _ (Nat.le_succ index))

/-- A time is at most one unit before the exact one. -/
theorem abs_sampleTime_sub_lt (index : Nat) :
    |(sampleTime index : ℚ) / 10000000 - index / 30| < 1 / 10000000 := by
  have below : sampleTime index * 30 ≤ index * 10000000 := Nat.div_mul_le_self _ _
  have above : index * 10000000 < 30 * (sampleTime index + 1) :=
    Nat.lt_mul_div_succ _ (by decide)
  have belowRat : (sampleTime index : ℚ) * 30 ≤ index * 10000000 := by exact_mod_cast below
  have aboveRat : (index : ℚ) * 10000000 < 30 * (sampleTime index + 1) := by exact_mod_cast above
  rw [abs_lt]
  constructor <;> linarith

/-- The samples of a recording follow one another without a gap, from time zero on and at thirty
samples a second; times are in units of 100 ns. -/
structure Timeline (samples : List Sample) : Prop where
  starts : ∀ sample, samples.head? = some sample → sample.sampleTime = 0
  continues : samples.IsChain
    fun earlier later => earlier.sampleTime + earlier.sampleDuration = later.sampleTime
  accurate : ∀ (index : Nat) (sample : Sample), samples[index]? = some sample →
    |(sample.sampleTime : ℚ) / 10000000 - index / 30| < 1 / 10000000

theorem RecordingHolds.getElem? {recorder : RemoteVideoRecorder} (held : recorder.RecordingHolds)
    {index : Nat} {sample : Sample} (at' : recorder.written[index]? = some sample) :
    sample.sampleTime = sampleTime index ∧
      sample.sampleDuration = sampleTime (index + 1) - sampleTime index := by
  have within := (List.getElem?_eq_some_iff.mp at').1
  have entry := congrArg (fun times => times[index]?) held.timed
  simpa [at', List.getElem?_range within] using entry

theorem RecordingHolds.timeline {recorder : RemoteVideoRecorder}
    (held : recorder.RecordingHolds) : Timeline recorder.written where
  starts sample first := (held.getElem? (List.head?_eq_getElem? ▸ first)).1
  continues := by
    rw [List.isChain_iff_getElem]
    intro index within
    have earlier := held.getElem? (List.getElem?_eq_getElem (Nat.lt_of_succ_lt within))
    have later := held.getElem? (List.getElem?_eq_getElem within)
    rw [earlier.1, earlier.2, later.1, Nat.add_sub_cancel' (sampleTime_le_succ index)]
  accurate index sample at' := by
    rw [(held.getElem? at').1]
    exact abs_sampleTime_sub_lt index

/-- The queue is bounded; a recording consists, in order and without repetition, of frames queued
since its `Start`, all of the even size of the first frame dequeued and copied with all their
pixels, and its samples follow one another at thirty a second; and once `Stop` returns, no frame
queued before is ever written. -/
theorem recording_keeps_order {recorder : RemoteVideoRecorder}
    (reachable : system.Reachable recorder) :
    recorder.frames.length ≤ 6 ∧
      (recorder.written.map Sample.source).Sublist recorder.enqueuedSince ∧
      (recorder.written.map Sample.source).Nodup ∧
      (∀ sample ∈ recorder.written, ∃ first, recorder.first = some first ∧ SizedAs first sample) ∧
      Timeline recorder.written ∧
      (recorder.StopReturns → ∀ actions, system.Allows recorder.stepUi actions →
        ∀ sample ∈ (system.run recorder.stepUi actions).samples.drop recorder.samples.length,
          sample.source ∉ recorder.enqueued) := by
  have held := recordingHolds reachable
  have ordered : (recorder.written.map Sample.source).Sublist recorder.enqueuedSince := by
    rw [written, List.map_drop]
    exact (keepsOrderSince_start reachable).delivered_sublist
  have distinct : (recorder.written.map Sample.source).Nodup :=
    (ordered.trans (List.drop_sublist _ _)).nodup (nodup_enqueued reachable)
  exact ⟨length_frames_le reachable, ordered, distinct, held.sized, held.timeline,
    fun returns _ allows => not_mem_enqueued_of_stopReturns reachable returns allows⟩

/-- A frame of two by two pixels. -/
def twoByTwo : VideoFrameData := ⟨2, 2, Array.replicate 16 0⟩

/-- One frame is recorded; a second one waits when `Stop` is called. -/
def stoppedRun : List RecorderAction :=
  [.start "first.mp4", .ui, .ui, .ui, .ui, .ui, .startup true, .pushFrame twoByTwo, .enqueue,
    .dequeue, .process {}, .pushFrame twoByTwo, .enqueue, .stop, .ui, .ui, .dequeue, .finish]

/-- A further recording of one frame. -/
def restartedRun : List RecorderAction :=
  [.start "second.mp4", .ui, .ui, .ui, .ui, .ui, .startup true, .pushFrame twoByTwo, .enqueue,
    .dequeue, .process {}]

theorem recording_keeps_order_restarted :
    (system.run {} stoppedRun).written.map (fun sample => sample.source.number) = [0] ∧
      (system.run {} stoppedRun).enqueuedSince.length = 2 ∧
      (∀ sample ∈ (system.run {} stoppedRun).written, sample.buffer.size = 16) ∧
      Timeline (system.run {} stoppedRun).written ∧
      (system.run (system.run {} stoppedRun).stepUi restartedRun).samples.length = 2 ∧
      ∀ sample ∈ (system.run (system.run {} stoppedRun).stepUi restartedRun).samples.drop
        (system.run {} stoppedRun).samples.length,
        sample.source ∉ (system.run {} stoppedRun).enqueued := by
  have reachable : system.Reachable (system.run {} stoppedRun) :=
    (System.Reachable.start rfl).run (by decide)
  obtain ⟨_, _, _, sized, timeline, stopped⟩ := recording_keeps_order reachable
  refine ⟨by decide, by decide, fun sample member => ?_, timeline, by decide,
    stopped ⟨⟨none, rfl⟩, rfl⟩ restartedRun (by decide)⟩
  obtain ⟨first, known, sized⟩ := sized sample member
  have same : first = ⟨0, twoByTwo⟩ := Option.some_inj.mp (known.symm.trans rfl)
  rw [same] at sized
  exact sized.filled

end RemoteVideoRecorder

end RemoteControl.Video

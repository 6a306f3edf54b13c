/-
This file models the threads of `DxgiDesktopCapturer`: the owner that calls
`Start` and `Stop`, and the worker that executes `Run`. The objects of Direct3D
and DXGI are not guarded by a lock: `Start` hands them to the worker, `Stop` takes
them back at the join, and the desktop may be lost at any frame in between.

What the worker has in hand follows from how far it has come. Nobody calls into an
object that is not there, a frame is released before the next one is acquired, and
the texture an image is copied to is of the device that the image comes from.
-/

import RemoteControl.Library.Transition
import RemoteControl.Video.Capture

namespace RemoteControl.Video

/-! ### Which output is captured -/

/-- What is read of a `DXGI_OUTPUT_DESC`. -/
structure OutputDescription where
  monitor : Nat
  attachedToDesktop : Bool
  deriving DecidableEq

/-- The inner loop of `InitializeDxgi`, over the outputs of an adapter; `GetDesc` fails for some.
The state is the monitor of the selected output and `found_primary`. -/
def selectAmong (primary : Nat) : Option Nat × Bool → List (Option OutputDescription) →
    Option Nat × Bool
  | selection, [] => selection
  | selection, none :: rest => selectAmong primary selection rest
  | selection, some output :: rest =>
    if !output.attachedToDesktop then selectAmong primary selection rest
    else
      let selection :=
        if selection.1 = none ∨ output.monitor = primary then
          (some output.monitor, decide (output.monitor = primary))
        else selection
      if selection.2 then selection else selectAmong primary selection rest

/-- The outer loop, over the adapters. -/
def selectOutput (primary : Nat) : Option Nat × Bool → List (List (Option OutputDescription)) →
    Option Nat × Bool
  | selection, [] => selection
  | selection, outputs :: rest =>
    let selection := selectAmong primary selection outputs
    if selection.2 then selection else selectOutput primary selection rest

/-- The monitors among outputs that are attached to the desktop, in their order. -/
def attachedMonitors (outputs : List (Option OutputDescription)) : List Nat :=
  (outputs.reduceOption.filter OutputDescription.attachedToDesktop).map OutputDescription.monitor

/-- The primary monitor, or else what is selected already, or else the first one. -/
def preferred (primary : Nat) (selected : Option Nat) (monitors : List Nat) : Option Nat × Bool :=
  if primary ∈ monitors then (some primary, true) else (selected.or monitors.head?, false)

theorem selectAmong_eq (primary : Nat) (selected : Option Nat)
    (outputs : List (Option OutputDescription)) :
    selectAmong primary (selected, false) outputs =
      preferred primary selected (attachedMonitors outputs) := by
  induction outputs generalizing selected with
  | nil => simp [selectAmong, preferred, attachedMonitors]
  | cons output rest inductionHypothesis =>
    cases output with
    | none => exact inductionHypothesis selected
    | some output =>
      cases attached : output.attachedToDesktop with
      | false => simpa [selectAmong, attached, attachedMonitors] using inductionHypothesis selected
      | true =>
        have listed : attachedMonitors (some output :: rest) =
            output.monitor :: attachedMonitors rest := by simp [attachedMonitors, attached]
        by_cases same : output.monitor = primary
        · simp [selectAmong, attached, same, listed, preferred]
        · have other : primary ≠ output.monitor := Ne.symm same
          cases selected <;>
            simp [selectAmong, attached, same, other, listed, preferred, inductionHypothesis]

/-- The primary monitor is captured if it is attached to the desktop, else the first one that
is. -/
theorem selectOutput_eq (primary : Nat) (selected : Option Nat)
    (adapters : List (List (Option OutputDescription))) :
    selectOutput primary (selected, false) adapters =
      preferred primary selected (adapters.flatMap attachedMonitors) := by
  induction adapters generalizing selected with
  | nil => simp [selectOutput, preferred]
  | cons outputs rest inductionHypothesis =>
    rw [selectOutput, selectAmong_eq, List.flatMap_cons]
    by_cases here : primary ∈ attachedMonitors outputs
    · simp [preferred, here]
    · simp only [preferred, here, if_false, Bool.false_eq_true, inductionHypothesis,
        List.mem_append, false_or, List.head?_append, Option.or_assoc]

/-! ### The threads -/

/-- What is compared of a `D3D11_TEXTURE2D_DESC`. -/
structure TextureDescription where
  width : Nat := 0
  height : Nat := 0
  format : Nat := 0
  deriving DecidableEq

/-- `DXGI_FORMAT_B8G8R8A8_UNORM`. -/
def formatBgra : Nat := 87

/-- The output duplication, with the device it was made for and the monitor it shows. -/
structure Duplication where
  device : Nat
  monitor : Nat
  deriving DecidableEq

/-- The next step of `Run`. -/
inductive CapturePoint where
  | entered
  | reporting (initialized : Bool)
  | starting
  /-- The head of the loop. -/
  | looping
  | acquiring
  | acquired
  | staging (now : Nat) (description : TextureDescription)
  | copying (now : Nat) (description : TextureDescription)
  | delivering (now : Nat)
  | releasing
  /-- `RecoverDuplication` is called. -/
  | abandoning
  /-- The head of its loop. -/
  | recovering
  | reinitializing
  | leaving
  | discarding
  | returned
  deriving DecidableEq

/-- Why the owner stops: `Start` does so first, and again when the worker does not come up. -/
inductive StopReason where
  | start (source : Option Nat) (fps : Nat)
  | failure
  | stop
  deriving DecidableEq

/-- The next step of the owner, between two calls or inside one. -/
inductive CaptureOwner where
  | idle
  | requestingStop (reason : StopReason)
  | joining (reason : StopReason)
  | clearing (reason : StopReason)
  | preparing (source fps : Nat)
  /-- `Start` waits for the worker, five seconds at most. -/
  | waiting
  deriving DecidableEq

def CaptureOwner.joins : CaptureOwner → Bool
  | .joining _ => true
  | _ => false

/-- `DxgiDesktopCapturer::Impl`, with where its threads are. The device and its context are one,
and devices are numbered as they are made. The last fields are history: how often a frame was
acquired and released, to which sources frames went, and what the last call of `Start` returned, if
there was no `Stop` since. -/
structure DxgiDesktopCapturer where
  worker : Option CapturePoint := none
  owner : CaptureOwner := .idle
  stopRequested : Bool := false
  running : Bool := false
  startupComplete : Bool := false
  startupSuccess : Bool := false
  fps : Nat := 30
  source : Option Nat := none
  device : Option Nat := none
  duplication : Option Duplication := none
  /-- The device and the description of the staging texture. -/
  stagingTexture : Option (Nat × TextureDescription) := none
  /-- `staging_width`, `staging_height` and `staging_format`. -/
  stagingDescription : TextureDescription := {}
  nextFrameTime : Nat := 0
  devices : Nat := 0
  acquiredFrames : Nat := 0
  releasedFrames : Nat := 0
  delivered : List Nat := []
  started : Option Bool := none

/-- What `AcquireNextFrame` answers. -/
inductive AcquireAnswer where
  | waitTimeout
  | accessLost
  | failed
  | frame
  deriving DecidableEq

/-- What Windows answers the worker. -/
structure CaptureAnswers where
  /-- The outputs of the adapters the factory lists, if there is one. -/
  adapters : Option (List (List (Option OutputDescription))) := none
  primary : Nat := 0
  createsDevice : Bool := false
  duplicates : Bool := false
  /-- The duplication has a width and a height. -/
  sized : Bool := false
  acquires : AcquireAnswer := .failed
  now : Nat := 0
  /-- The description of the acquired image, if it is a texture. -/
  texture : Option TextureDescription := none
  createsStaging : Bool := false
  maps : Bool := false
  createsFrame : Bool := false

namespace DxgiDesktopCapturer

variable (capturer : DxgiDesktopCapturer)

/-! ### Run -/

/-- `ReleaseDxgi`. The format of the staging texture stays. -/
def releaseDxgi : DxgiDesktopCapturer :=
  { capturer with
    stagingTexture := none
    duplication := none
    device := none
    stagingDescription := { capturer.stagingDescription with width := 0, height := 0 } }

/-- `InitializeDxgi`. -/
def initializeDxgi (answers : CaptureAnswers) : DxgiDesktopCapturer × Bool :=
  let capturer := capturer.releaseDxgi
  match answers.adapters with
  | none => (capturer, false)
  | some adapters =>
    match (selectOutput answers.primary (none, false) adapters).1 with
    | none => (capturer, false)
    | some monitor =>
      if !answers.createsDevice then (capturer, false)
      else
        let device := capturer.devices
        let capturer := { capturer with device := some device, devices := device + 1 }
        if !answers.duplicates then (capturer, false)
        else ({ capturer with duplication := some { device, monitor } }, answers.sized)

/-- `EnsureStagingTexture`, which creates a texture on the device there is. -/
def ensureStagingTexture (answers : CaptureAnswers) (description : TextureDescription) :
    DxgiDesktopCapturer × Bool :=
  if capturer.stagingTexture.isSome ∧ capturer.stagingDescription = description then
    (capturer, true)
  else
    match capturer.device, answers.createsStaging with
    | some device, true =>
      ({ capturer with
          stagingTexture := some (device, description)
          stagingDescription := description }, true)
    | _, _ => ({ capturer with stagingTexture := none }, false)

/-- `frame_interval`. -/
def frameInterval : Nat := max 1 (1000 / capturer.fps) * Capturer.millisecond

/-- The worker goes on. -/
def goTo (point : CapturePoint) : DxgiDesktopCapturer := { capturer with worker := some point }

/-- One step of `Run`. -/
def run (answers : CaptureAnswers) : CapturePoint → DxgiDesktopCapturer
  | .entered =>
    let (capturer, initialized) := capturer.initializeDxgi answers
    capturer.goTo (.reporting initialized)
  | .reporting initialized =>
    { capturer with startupSuccess := initialized, startupComplete := true }.goTo
      (if initialized then .starting else .returned)
  | .starting => { capturer with running := true, nextFrameTime := answers.now }.goTo .looping
  | .looping => capturer.goTo (if capturer.stopRequested then .leaving else .acquiring)
  | .acquiring =>
    match answers.acquires with
    | .waitTimeout => capturer.goTo .looping
    | .accessLost => capturer.goTo .abandoning
    | .failed => capturer.goTo .leaving
    | .frame => { capturer with acquiredFrames := capturer.acquiredFrames + 1 }.goTo .acquired
  | .acquired =>
    if answers.now < capturer.nextFrameTime then capturer.goTo .releasing
    else
      match answers.texture with
      | none => capturer.goTo .releasing
      | some description =>
        if description.format ≠ formatBgra then capturer.goTo .releasing
        else capturer.goTo (.staging answers.now description)
  | .staging now description =>
    let (capturer, ensured) := capturer.ensureStagingTexture answers description
    capturer.goTo (if ensured then .copying now description else .releasing)
  | .copying now _ => capturer.goTo (if answers.maps then .delivering now else .releasing)
  | .delivering now =>
    { capturer with
      delivered :=
        if answers.createsFrame then capturer.delivered ++ capturer.source.toList
        else capturer.delivered
      nextFrameTime := now + capturer.frameInterval }.goTo .releasing
  | .releasing => { capturer with releasedFrames := capturer.releasedFrames + 1 }.goTo .looping
  | .abandoning => capturer.releaseDxgi.goTo .recovering
  | .recovering => capturer.goTo (if capturer.stopRequested then .leaving else .reinitializing)
  | .reinitializing =>
    let (capturer, initialized) := capturer.initializeDxgi answers
    capturer.goTo (if initialized then .looping else .recovering)
  | .leaving => { capturer with running := false }.goTo .discarding
  | .discarding => capturer.releaseDxgi.goTo .returned
  | .returned => capturer

/-! ### Start and Stop -/

/-- The end of `Stop`, and where its caller goes on. -/
def clear : StopReason → DxgiDesktopCapturer
  | .stop =>
    { capturer with running := false, source := none, owner := .idle, started := none }.releaseDxgi
  | .failure | .start none _ | .start _ 0 =>
    { capturer with
      running := false, source := none, owner := .idle, started := some false }.releaseDxgi
  | .start (some source) fps =>
    { capturer with running := false, source := none, owner := .preparing source fps }.releaseDxgi

/-- One step of the owner. -/
def proceed : CaptureOwner → DxgiDesktopCapturer
  | .idle => capturer
  | .requestingStop reason => { capturer with stopRequested := true, owner := .joining reason }
  | .joining reason => { capturer with worker := none, owner := .clearing reason }
  | .clearing reason => capturer.clear reason
  | .preparing source fps =>
    { capturer with
      source := some source
      fps
      stopRequested := false
      startupComplete := false
      startupSuccess := false
      worker := some .entered
      owner := .waiting }
  | .waiting =>
    if capturer.startupComplete && capturer.startupSuccess then
      { capturer with owner := .idle, started := some true }
    else { capturer with owner := .requestingStop .failure }

/-- One step of some thread. -/
inductive CaptureAction where
  | start (source : Option Nat) (fps : Nat)
  | stop
  | proceed
  | run (answers : CaptureAnswers)

def next : CaptureAction → DxgiDesktopCapturer
  | .start source fps => { capturer with owner := .requestingStop (.start source fps) }
  | .stop => { capturer with owner := .requestingStop .stop }
  | .proceed => capturer.proceed capturer.owner
  | .run answers =>
    match capturer.worker with
    | none => capturer
    | some point => capturer.run answers point

/-- The worker is over, or there is none; `join` waits for it. -/
def Finished : Prop := capturer.worker = none ∨ capturer.worker = some .returned

instance : Decidable capturer.Finished := inferInstanceAs (Decidable (_ ∨ _))

/-- The owner is at the join. -/
def Joining : Prop := ∃ reason, capturer.owner = .joining reason

instance : Decidable capturer.Joining :=
  decidable_of_iff (capturer.owner.joins = true) (by
    unfold Joining
    cases capturer.owner <;> simp [CaptureOwner.joins])

/-- The owner makes one call at a time, and a join waits for the worker. The wait of `Start` may
end at any time. -/
def Allowed : CaptureAction → Prop
  | .start _ _ | .stop => capturer.owner = .idle
  | .proceed => capturer.owner ≠ .idle ∧ (capturer.Joining → capturer.Finished)
  | .run _ => ¬ capturer.Finished

instance : ∀ action, Decidable (capturer.Allowed action)
  | .start _ _ | .stop => inferInstanceAs (Decidable (capturer.owner = .idle))
  | .proceed => inferInstanceAs (Decidable (_ ≠ _ ∧ (_ → _)))
  | .run _ => inferInstanceAs (Decidable (¬ _))

/-- The capturer in a program that runs. -/
def system : Transition.System DxgiDesktopCapturer CaptureAction where
  initial capturer := capturer = {}
  allowed := Allowed
  next := next

instance : ∀ state action, Decidable (system.allowed state action) :=
  fun state action => inferInstanceAs (Decidable (state.Allowed action))

/-! ### What the worker's point says -/

/-- The worker has a frame that it must release. -/
def holdsFrame : CapturePoint → Bool
  | .acquired | .staging _ _ | .copying _ _ | .delivering _ | .releasing => true
  | _ => false

/-- The worker has a duplication to acquire frames from. -/
def equipped : CapturePoint → Bool
  | .reporting initialized => initialized
  | .starting | .looping | .acquiring => true
  | point => holdsFrame point

/-- The worker is in its loop, or in that of `RecoverDuplication`. -/
def loops : CapturePoint → Bool
  | .looping | .acquiring | .abandoning | .recovering | .reinitializing | .leaving => true
  | point => holdsFrame point

/-- The device there is has made the duplication. -/
def Equipped : Prop :=
  ∃ device monitor, capturer.device = some device ∧ capturer.duplication = some ⟨device, monitor⟩

/-- The fields are those of the worker's point. The staging texture is of the device there is and
has the description that is kept, which is that of the image that is copied. -/
structure Agrees : Prop where
  frames : capturer.acquiredFrames =
    capturer.releasedFrames + (capturer.worker.any holdsFrame).toNat
  runs : capturer.running = capturer.worker.any loops
  equips : capturer.worker.any equipped = true → capturer.Equipped
  textures : ∀ device description, capturer.stagingTexture = some (device, description) →
    capturer.device = some device ∧ capturer.stagingDescription = description
  copies : ∀ now description, capturer.worker = some (.copying now description) →
    ∃ device, capturer.stagingTexture = some (device, description)

theorem initializeDxgi_spec (answers : CaptureAnswers) :
    ∃ device duplication devices stagingDescription,
      (capturer.initializeDxgi answers).1 =
        { capturer with
          device, duplication, devices, stagingTexture := none, stagingDescription } ∧
      ((capturer.initializeDxgi answers).2 = true →
        ∃ number monitor, device = some number ∧ duplication = some ⟨number, monitor⟩) := by
  unfold initializeDxgi releaseDxgi
  simp only
  split
  · exact ⟨_, _, _, _, rfl, nofun⟩
  split
  · exact ⟨_, _, _, _, rfl, nofun⟩
  split_ifs
  · exact ⟨_, _, _, _, rfl, nofun⟩
  · exact ⟨_, _, _, _, rfl, nofun⟩
  · exact ⟨_, _, _, _, rfl, fun _ => ⟨_, _, rfl, rfl⟩⟩

/-- What is captured is the preferred one of the monitors that were listed. -/
theorem initializeDxgi_monitor {answers : CaptureAnswers}
    {adapters : List (List (Option OutputDescription))} (listed : answers.adapters = some adapters)
    (success : (capturer.initializeDxgi answers).2 = true) :
    (capturer.initializeDxgi answers).1.duplication.map Duplication.monitor =
      (preferred answers.primary none (adapters.flatMap attachedMonitors)).1 := by
  revert success
  simp only [initializeDxgi, listed, selectOutput_eq]
  split
  · exact nofun
  rename_i monitor chosen
  rw [chosen]
  split_ifs
  · exact nofun
  · exact nofun
  · exact fun _ => rfl

variable {capturer}

/-- The staging texture is kept, made anew, or gone. -/
theorem ensureStagingTexture_spec (agrees : capturer.Agrees) (answers : CaptureAnswers)
    (description : TextureDescription) :
    ∃ stagingTexture stagingDescription,
      (capturer.ensureStagingTexture answers description).1 =
        { capturer with stagingTexture, stagingDescription } ∧
      (∀ device held, stagingTexture = some (device, held) →
        capturer.device = some device ∧ stagingDescription = held) ∧
      ((capturer.ensureStagingTexture answers description).2 = true →
        ∃ device, stagingTexture = some (device, description)) := by
  unfold ensureStagingTexture
  split_ifs with kept
  · obtain ⟨present, rfl⟩ := kept
    obtain ⟨⟨device, held⟩, texture⟩ := Option.isSome_iff_exists.mp present
    refine ⟨capturer.stagingTexture, _, rfl, agrees.textures, fun _ => ⟨device, ?_⟩⟩
    rw [texture, (agrees.textures device held texture).2]
  · split
    · rename_i device made _
      refine ⟨_, _, rfl, ?_, fun _ => ⟨device, rfl⟩⟩
      rintro _ _ ⟨⟩
      exact ⟨made, rfl⟩
    · exact ⟨none, _, rfl, nofun, nofun⟩

theorem Agrees.of_point {after : DxgiDesktopCapturer} {point : CapturePoint}
    (worker : after.worker = some point)
    (frames : after.acquiredFrames = after.releasedFrames + (holdsFrame point).toNat)
    (runs : after.running = loops point) (equips : equipped point = true → after.Equipped)
    (textures : ∀ device description, after.stagingTexture = some (device, description) →
      after.device = some device ∧ after.stagingDescription = description)
    (copies : ∀ now description, point = .copying now description →
      ∃ device, after.stagingTexture = some (device, description)) : after.Agrees := by
  refine ⟨?_, ?_, ?_, textures, fun now description copying => copies now description ?_⟩
  · rw [worker, Option.any_some, frames]
  · rw [worker, Option.any_some, runs]
  · rw [worker, Option.any_some]
    exact equips
  · rw [worker, Option.some_inj] at copying
    exact copying

/-- The worker goes on to a point that asks for no more than it has. -/
theorem Agrees.goTo (agrees : capturer.Agrees) {point next : CapturePoint}
    (here : capturer.worker = some point) (frames : holdsFrame next = holdsFrame point)
    (runs : loops next = loops point) (equips : equipped next = true → equipped point = true)
    (copies : ∀ now description, next ≠ .copying now description) :
    (capturer.goTo next).Agrees := by
  obtain ⟨counted, running, has, textures, -⟩ := agrees
  rw [here, Option.any_some] at counted running has
  refine .of_point rfl ?_ ?_ (fun needs => has (equips needs)) textures
    fun now description same => absurd same (copies now description)
  · rw [frames]
    exact counted
  · rw [runs]
    exact running

/-- Every step of the worker moves its point and the fields together. -/
theorem Agrees.run (agrees : capturer.Agrees) {point : CapturePoint}
    (here : capturer.worker = some point) (answers : CaptureAnswers) :
    (capturer.run answers point).Agrees := by
  have ⟨frames, runs, equips, textures, copies⟩ := agrees
  rw [here, Option.any_some] at frames runs equips
  cases point with
  | entered =>
    obtain ⟨device, duplication, devices, stagingDescription, same, success⟩ :=
      capturer.initializeDxgi_spec answers
    simp only [DxgiDesktopCapturer.run, same]
    exact .of_point rfl frames runs success nofun nofun
  | reinitializing =>
    obtain ⟨device, duplication, devices, stagingDescription, same, success⟩ :=
      capturer.initializeDxgi_spec answers
    simp only [DxgiDesktopCapturer.run, same]
    split
    · rename_i initialized
      exact .of_point rfl frames runs (fun _ => success initialized) nofun nofun
    · exact .of_point rfl frames runs nofun nofun nofun
  | reporting initialized =>
    cases initialized
    · exact .of_point rfl frames runs nofun textures nofun
    · exact .of_point rfl frames runs (fun _ => equips rfl) textures nofun
  | starting => exact .of_point rfl frames rfl (fun _ => equips rfl) textures nofun
  | looping =>
    rw [DxgiDesktopCapturer.run]
    split
    · exact agrees.goTo here rfl rfl nofun nofun
    · exact agrees.goTo here rfl rfl (fun _ => rfl) nofun
  | acquiring =>
    rw [DxgiDesktopCapturer.run]
    split
    · exact agrees.goTo here rfl rfl (fun _ => rfl) nofun
    · exact agrees.goTo here rfl rfl nofun nofun
    · exact agrees.goTo here rfl rfl nofun nofun
    · exact .of_point rfl (congrArg (· + 1) frames) runs (fun _ => equips rfl) textures nofun
  | acquired =>
    rw [DxgiDesktopCapturer.run]
    split
    · exact agrees.goTo here rfl rfl (fun _ => rfl) nofun
    split
    · exact agrees.goTo here rfl rfl (fun _ => rfl) nofun
    · split <;> exact agrees.goTo here rfl rfl (fun _ => rfl) nofun
  | staging now description =>
    obtain ⟨stagingTexture, stagingDescription, same, textures, success⟩ :=
      ensureStagingTexture_spec agrees answers description
    simp only [DxgiDesktopCapturer.run, same]
    split
    · rename_i ensured
      refine .of_point rfl frames runs (fun _ => equips rfl) textures ?_
      rintro _ _ ⟨⟩
      exact success ensured
    · exact .of_point rfl frames runs (fun _ => equips rfl) textures nofun
  | copying now description =>
    rw [DxgiDesktopCapturer.run]
    split <;> exact agrees.goTo here rfl rfl (fun _ => rfl) nofun
  | delivering now => exact .of_point rfl frames runs (fun _ => equips rfl) textures nofun
  | releasing => exact .of_point rfl frames runs (fun _ => equips rfl) textures nofun
  | abandoning => exact .of_point rfl frames runs nofun nofun nofun
  | recovering =>
    rw [DxgiDesktopCapturer.run]
    split <;> exact agrees.goTo here rfl rfl nofun nofun
  | leaving => exact .of_point rfl frames rfl nofun textures nofun
  | discarding => exact .of_point rfl frames runs nofun nofun nofun
  | returned => exact agrees

/-! ### Both threads -/

variable (capturer) in
/-- No thread, no object, no source. -/
structure Released : Prop where
  worker : capturer.worker = none
  running : capturer.running = false
  source : capturer.source = none
  device : capturer.device = none
  duplication : capturer.duplication = none
  stagingTexture : capturer.stagingTexture = none

variable (capturer) in
/-- A `Start` has returned that it works, and there was no call since. -/
def Started : Prop :=
  capturer.started = some true ∧ capturer.source.isSome = true ∧ capturer.worker.isSome = true

variable (capturer) in
/-- What holds between the steps of the threads. While the owner waits at the join the worker is
asked to stop, and behind the join there is none. -/
structure Sound : Prop where
  agrees : capturer.Agrees
  stops : capturer.Joining → capturer.stopRequested = true
  alone : ∀ reason, capturer.owner = .clearing reason → capturer.worker = none
  cleared : ∀ source fps, capturer.owner = .preparing source fps → capturer.Released
  awaited : capturer.owner = .waiting →
    capturer.source.isSome = true ∧ capturer.worker.isSome = true
  rests : capturer.owner = .idle →
    capturer.Started ∨ capturer.started ≠ some true ∧ capturer.Released

theorem sound_start : Sound {} where
  agrees := ⟨rfl, rfl, nofun, nofun, nofun⟩
  stops := by rintro ⟨_, ⟨⟩⟩
  alone := nofun
  cleared := nofun
  awaited := nofun
  rests _ := .inr ⟨nofun, rfl, rfl, rfl, rfl, rfl, rfl⟩

/-- The worker leaves what is the owner's alone, and goes on. -/
theorem run_aside (answers : CaptureAnswers) {point : CapturePoint}
    (here : capturer.worker = some point) :
    let after := capturer.run answers point
    after.owner = capturer.owner ∧ after.stopRequested = capturer.stopRequested ∧
      after.source = capturer.source ∧ after.started = capturer.started ∧
      after.worker.isSome = true := by
  intro after
  cases point with
  | entered | reinitializing =>
    obtain ⟨_, _, _, _, same, -⟩ := capturer.initializeDxgi_spec answers
    simp only [after, DxgiDesktopCapturer.run, same]
    exact ⟨rfl, rfl, rfl, rfl, rfl⟩
  | staging now description =>
    simp only [after, DxgiDesktopCapturer.run, ensureStagingTexture]
    repeat' split
    all_goals exact ⟨rfl, rfl, rfl, rfl, rfl⟩
  | returned => exact ⟨rfl, rfl, rfl, rfl, congrArg Option.isSome here⟩
  | _ =>
    simp only [after, DxgiDesktopCapturer.run]
    repeat' split
    all_goals exact ⟨rfl, rfl, rfl, rfl, rfl⟩

theorem Sound.run (sound : capturer.Sound) {point : CapturePoint}
    (here : capturer.worker = some point) (answers : CaptureAnswers) :
    (capturer.run answers point).Sound := by
  obtain ⟨owner, stop, source, started, worker⟩ := run_aside answers here
  refine ⟨sound.agrees.run here answers, ?_, ?_, ?_, ?_, ?_⟩
  · rw [Joining, owner, stop]
    exact sound.stops
  · intro reason clearing
    rw [owner] at clearing
    cases here.symm.trans (sound.alone reason clearing)
  · intro _ _ preparing
    rw [owner] at preparing
    cases here.symm.trans (sound.cleared _ _ preparing).worker
  · intro waiting
    rw [owner] at waiting
    rw [source]
    exact ⟨(sound.awaited waiting).1, worker⟩
  · intro idle
    rw [owner] at idle
    rw [Started, started, source]
    rcases sound.rests idle with works | ⟨-, released⟩
    · exact .inl ⟨works.1, works.2.1, worker⟩
    · cases here.symm.trans released.worker

/-- With no worker, the end of `Stop` leaves nothing. -/
theorem agrees_releaseDxgi (agrees : capturer.Agrees) (alone : capturer.worker = none)
    (owner : CaptureOwner) (started : Option Bool) :
    let after :=
      { capturer with running := false, source := none, owner, started }.releaseDxgi
    after.Agrees ∧ after.Released := by
  have frames := agrees.frames
  rw [alone] at frames
  refine ⟨⟨?_, ?_, ?_, nofun, ?_⟩, alone, rfl, rfl, rfl, rfl, rfl⟩
  · simpa [releaseDxgi, alone] using frames
  · simp [releaseDxgi, alone]
  · simp [releaseDxgi, alone]
  · simp [releaseDxgi, alone]

theorem Sound.proceed (sound : capturer.Sound) (allowed : capturer.Allowed .proceed) :
    (capturer.next .proceed).Sound := by
  obtain ⟨busy, waits⟩ := allowed
  have agrees := sound.agrees
  unfold DxgiDesktopCapturer.next DxgiDesktopCapturer.proceed
  cases here : capturer.owner with
  | idle => exact absurd here busy
  | requestingStop reason =>
    exact ⟨⟨agrees.1, agrees.2, agrees.3, agrees.4, agrees.5⟩, fun _ => rfl, nofun, nofun, nofun,
      nofun⟩
  | joining reason =>
    -- A worker that is over holds no frame and runs no more.
    have finished := waits ⟨reason, here⟩
    have ended : capturer.worker.any holdsFrame = false ∧ capturer.worker.any loops = false := by
      rcases finished with none | returned
      · simp [none]
      · simp [returned, holdsFrame, loops]
    obtain ⟨frames, runs, -, textures, -⟩ := agrees
    rw [ended.1] at frames
    rw [ended.2] at runs
    exact ⟨⟨frames, runs, nofun, textures, nofun⟩, (by rintro ⟨_, ⟨⟩⟩), fun _ _ => rfl, nofun,
      nofun, nofun⟩
  | clearing reason =>
    have cleared := agrees_releaseDxgi agrees (sound.alone reason here)
    have stopped (started : Option Bool) (different : started ≠ some true) :
        Sound ({ capturer with
          running := false, source := none, owner := .idle, started }.releaseDxgi) :=
      have ⟨agrees, released⟩ := cleared .idle started
      ⟨agrees, (by rintro ⟨_, ⟨⟩⟩), nofun, nofun, nofun, fun _ => .inr ⟨different, released⟩⟩
    cases reason with
    | stop => exact stopped none nofun
    | failure => exact stopped (some false) (by simp)
    | start source fps =>
      cases source with
      | none => exact stopped (some false) (by simp)
      | some source =>
        cases fps with
        | zero => exact stopped (some false) (by simp)
        | succ fps =>
          have ⟨agrees, released⟩ := cleared (.preparing source (fps + 1)) capturer.started
          exact ⟨agrees, (by rintro ⟨_, ⟨⟩⟩), nofun, fun _ _ _ => released, nofun, nofun⟩
  | preparing source fps =>
    have ⟨alone, running, _, _, _, stagingTexture⟩ := sound.cleared source fps here
    have frames := agrees.frames
    rw [alone] at frames
    refine ⟨⟨frames, running, nofun, ?_, nofun⟩, (by rintro ⟨_, ⟨⟩⟩), nofun, nofun,
      fun _ => ⟨rfl, rfl⟩, nofun⟩
    intro device description texture
    cases stagingTexture.symm.trans texture
  | waiting =>
    simp only
    split
    · exact ⟨⟨agrees.1, agrees.2, agrees.3, agrees.4, agrees.5⟩, (by rintro ⟨_, ⟨⟩⟩), nofun, nofun,
        nofun, fun _ => .inl ⟨rfl, sound.awaited here⟩⟩
    · exact ⟨⟨agrees.1, agrees.2, agrees.3, agrees.4, agrees.5⟩, (by rintro ⟨_, ⟨⟩⟩), nofun, nofun,
        nofun, nofun⟩

theorem Sound.next (sound : capturer.Sound) {action : CaptureAction}
    (allowed : capturer.Allowed action) : (capturer.next action).Sound := by
  cases action with
  | start source fps | stop =>
    have ⟨frames, runs, equips, textures, copies⟩ := sound.agrees
    exact ⟨⟨frames, runs, equips, textures, copies⟩, (by rintro ⟨_, ⟨⟩⟩), nofun, nofun, nofun,
      nofun⟩
  | proceed => exact sound.proceed allowed
  | run answers =>
    cases here : capturer.worker with
    | none => exact absurd (.inl here) allowed
    | some point =>
      have moved : capturer.next (.run answers) = capturer.run answers point := by
        rw [DxgiDesktopCapturer.next, here]
      rw [moved]
      exact sound.run here answers

theorem sound_of_reachable (reachable : system.Reachable capturer) : capturer.Sound :=
  reachable.invariant (fun _ initial => initial ▸ sound_start)
    fun _ _ _ sound allowed => sound.next allowed

/-! ### Objects and frames -/

variable (capturer) in
/-- What the calls of a step ask for. A frame is acquired when none is held, and released when one
is; objects are dropped when no frame is held, by the owner only when there is no worker; an image
is copied to a texture of its size and format, on the device of the duplication. -/
def Provided : CaptureAction → Prop
  | .run _ =>
    match capturer.worker with
    | some .acquiring =>
      capturer.duplication.isSome = true ∧ capturer.acquiredFrames = capturer.releasedFrames
    | some .releasing =>
      capturer.duplication.isSome = true ∧ capturer.acquiredFrames = capturer.releasedFrames + 1
    | some (.staging _ _) => capturer.device.isSome = true
    | some (.copying _ description) =>
      ∃ device monitor, capturer.device = some device ∧
        capturer.duplication = some ⟨device, monitor⟩ ∧
        capturer.stagingTexture = some (device, description)
    | some .entered | some .abandoning | some .reinitializing | some .discarding =>
      capturer.acquiredFrames = capturer.releasedFrames
    | _ => True
  | .proceed =>
    ∀ reason, capturer.owner = .clearing reason →
      capturer.worker = none ∧ capturer.acquiredFrames = capturer.releasedFrames
  | _ => True

theorem Sound.provided (sound : capturer.Sound) (action : CaptureAction) :
    capturer.Provided action := by
  have ⟨frames, _, equips, textures, copies⟩ := sound.agrees
  cases action with
  | start source fps | stop => trivial
  | proceed =>
    intro reason clearing
    have none := sound.alone reason clearing
    rw [none] at frames
    exact ⟨none, frames⟩
  | run answers =>
    unfold Provided
    cases here : capturer.worker with
    | none => trivial
    | some point =>
      rw [here, Option.any_some] at frames equips
      cases point with
      | acquiring | releasing =>
        obtain ⟨device, monitor, -, duplication⟩ := equips rfl
        exact ⟨by rw [duplication]; rfl, frames⟩
      | staging now description =>
        obtain ⟨device, monitor, made, -⟩ := equips rfl
        exact made ▸ rfl
      | copying now description =>
        obtain ⟨device, monitor, made, duplication⟩ := equips rfl
        obtain ⟨other, texture⟩ := copies now description here
        have same := (textures other description texture).1
        rw [made, Option.some_inj] at same
        exact ⟨device, monitor, made, duplication, same ▸ texture⟩
      | entered | abandoning | reinitializing | discarding => exact frames
      | _ => trivial

/-- In every order of the threads, and wherever the desktop is lost: each step has what its calls
ask for, `IsRunning` tells whether the worker is in its loop, and between two calls of the owner the
last `Start` works or there is no worker, no source and no object. -/
theorem capture_calls_provided (reachable : system.Reachable capturer) :
    (∀ action, capturer.Provided action) ∧
      capturer.running = capturer.worker.any loops ∧
      (capturer.owner = .idle →
        capturer.Started ∨ capturer.started ≠ some true ∧ capturer.Released) :=
  have sound := sound_of_reachable reachable
  ⟨sound.provided, sound.agrees.runs, sound.rests⟩

/-- `Start` is called, and the worker has an image of the primary monitor, the second one. -/
def firstImage : List CaptureAction :=
  let displays := [[some ⟨5, true⟩, none], [some ⟨6, false⟩, some ⟨7, true⟩]]
  [.start (some 3) 30, .proceed, .proceed, .proceed, .proceed,
    .run { adapters := some displays, primary := 7, createsDevice := true, duplicates := true,
           sized := true },
    .run {}, .proceed, .run {}, .run {}, .run { acquires := .frame },
    .run { texture := some ⟨1920, 1080, formatBgra⟩ }, .run { createsStaging := true }]

theorem capture_calls_provided_copying :
    let capturer := system.run {} firstImage
    capturer.worker = some (.copying 0 ⟨1920, 1080, formatBgra⟩) ∧
      ∃ device monitor, capturer.device = some device ∧
        capturer.duplication = some ⟨device, monitor⟩ ∧
        capturer.stagingTexture = some (device, ⟨1920, 1080, formatBgra⟩) := by
  intro capturer
  have reachable : system.Reachable capturer :=
    (Transition.System.Reachable.start rfl).run (by decide +kernel)
  have copying : capturer.worker = some (.copying 0 ⟨1920, 1080, formatBgra⟩) := by decide +kernel
  have provided := (capture_calls_provided reachable).1 (.run {})
  rw [Provided, copying] at provided
  exact ⟨copying, provided⟩

/-! ### Stop returns -/

/-- How many steps a worker that is asked to stop has left at most. -/
def remaining : CapturePoint → Nat
  | .returned => 0
  | .discarding | .reporting false => 1
  | .leaving => 2
  | .looping | .recovering => 3
  | .starting | .releasing | .reinitializing | .abandoning => 4
  | .reporting true | .delivering _ => 5
  | .entered | .copying _ _ => 6
  | .staging _ _ => 7
  | .acquired => 8
  | .acquiring => 9

variable (capturer) in
/-- The rank of a capturer is what its worker has left. -/
def rank : Nat := capturer.worker.elim 0 remaining

theorem rank_run (stops : capturer.stopRequested = true) {point : CapturePoint}
    (unfinished : point ≠ .returned) (answers : CaptureAnswers) :
    (capturer.run answers point).rank < remaining point := by
  cases point with
  | looping | recovering => simp [DxgiDesktopCapturer.run, stops, rank, goTo, remaining]
  | entered =>
    cases success : (capturer.initializeDxgi answers).2 <;>
      simp [DxgiDesktopCapturer.run, success, rank, goTo, remaining]
  | reporting initialized =>
    cases initialized <;> simp [DxgiDesktopCapturer.run, rank, goTo, remaining]
  | returned => exact absurd rfl unfinished
  | _ =>
    simp only [DxgiDesktopCapturer.run]
    repeat' split
    all_goals simp [rank, goTo, remaining]

def CaptureAction.isRun : CaptureAction → Bool
  | .run _ => true
  | _ => false

def CaptureAction.isProceed : CaptureAction → Bool
  | .proceed => true
  | _ => false

/-- The owner does nothing but wait. -/
def awaiting : Transition.System DxgiDesktopCapturer CaptureAction :=
  system.restrict fun _ action => action.isProceed = false

instance (capturer : DxgiDesktopCapturer) (action : CaptureAction) :
    Decidable (awaiting.allowed capturer action) :=
  inferInstanceAs (Decidable (capturer.Allowed action ∧ action.isProceed = false))

variable (capturer) in
/-- The owner waits at the join for a worker that is asked to stop. -/
def Waits : Prop := capturer.stopRequested = true ∧ capturer.Joining

theorem Waits.next (waits : capturer.Waits) {action : CaptureAction}
    (allowed : awaiting.allowed capturer action) :
    (capturer.next action).Waits ∧
      (action.isRun = true → (capturer.next action).rank < capturer.rank) ∧
      (action.isRun = false → (capturer.next action).rank ≤ capturer.rank) := by
  obtain ⟨stops, reason, here⟩ := waits
  obtain ⟨possible, patient⟩ := allowed
  cases action with
  | start source fps | stop => cases here.symm.trans possible
  | proceed => cases patient
  | run answers =>
    cases worker : capturer.worker with
    | none => exact absurd (.inl worker) possible
    | some point =>
      have moved : capturer.next (.run answers) = capturer.run answers point := by
        rw [DxgiDesktopCapturer.next, worker]
      have unfinished : point ≠ .returned := by
        rintro rfl
        exact possible (.inr worker)
      have same : capturer.rank = remaining point := by simp [rank, worker]
      obtain ⟨owner, stop, -⟩ := run_aside answers worker
      rw [moved, same]
      exact ⟨⟨stop.trans stops, reason, owner.trans here⟩,
        fun _ => rank_run stops unfinished answers, nofun⟩

theorem rank_le : capturer.rank ≤ 9 := by
  unfold rank
  cases capturer.worker with
  | none => decide
  | some point =>
    cases point with
    | reporting initialized => cases initialized <;> simp [remaining]
    | _ => simp [remaining]

/-- While the owner waits at the join of `Stop`, the worker takes at most nine more steps, whatever
Windows answers, and after each either it can take another or the owner goes on. -/
theorem capture_stop_returns (reachable : system.Reachable capturer) (joins : capturer.Joining)
    {actions : List CaptureAction} (allows : awaiting.Allows capturer actions) :
    actions.countP CaptureAction.isRun ≤ 9 ∧
      ((system.run capturer actions).Allowed .proceed ∨
        (system.run capturer actions).Allowed (.run {})) := by
  have start : capturer.Waits := ⟨(sound_of_reachable reachable).stops joins, joins⟩
  obtain ⟨⟨-, reason, here⟩, bound⟩ :
      (system.run capturer actions).Waits ∧
        actions.countP CaptureAction.isRun + (system.run capturer actions).rank ≤ capturer.rank :=
    allows.progress (fun _ _ waits allowed => Waits.next waits allowed) start
  refine ⟨(Nat.le_add_right _ _).trans (bound.trans rank_le), ?_⟩
  by_cases finished : (system.run capturer actions).Finished
  · refine .inl ⟨?_, fun _ => finished⟩
    rw [here]
    exact nofun
  · exact .inr finished

/-- What is left to the worker when `Stop` is called in the middle of a frame. -/
def lastSteps : List CaptureAction :=
  List.replicate 5 (.run { maps := true, createsFrame := true })

theorem capture_stop_returns_copying :
    let capturer := system.run {} (firstImage ++ [.stop, .proceed])
    (system.run capturer lastSteps).delivered = [3] ∧
      ((system.run capturer lastSteps).Allowed .proceed ∨
        (system.run capturer lastSteps).Allowed (.run {})) := by
  intro capturer
  have reachable : system.Reachable capturer :=
    (Transition.System.Reachable.start rfl).run (by decide +kernel)
  have joins : capturer.Joining := by decide +kernel
  have allows : awaiting.Allows capturer lastSteps := by decide +kernel
  exact ⟨by decide +kernel, (capture_stop_returns reachable joins allows).2⟩

end DxgiDesktopCapturer

end RemoteControl.Video

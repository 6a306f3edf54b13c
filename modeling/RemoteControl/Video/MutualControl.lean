/-
This file follows input from the mouse and the keyboard of one user to the `INPUT`
records of another user's machine, while each of the two controls the other.

The views pack a point or the turn of the wheel into a message, `SendRemoteInput`
takes it apart and normalizes it, the control channel encodes it in one of two
ways, and `InputInjectorWin` hands it to `SendInput`. Windows turns what was handed
over into messages again, and these may come to a view that forwards input. They
carry the marker of the injector, so nothing that was injected is sent back.
-/

import RemoteControl.Peer.RemoteInput
import RemoteControl.Video.Injection
import RemoteControl.Video.Keyboard

namespace RemoteControl.Video

open Peer (ControlPacket InjectorCall InputCall InputEffect Moment RemoteControlChannel)

/-! ### Messages -/

/-- The messages the views forward. -/
inductive InputMessage where
  | keyDown
  | keyUp
  | mouseMove
  | lButtonDown
  | lButtonUp
  | rButtonDown
  | rButtonUp
  | mButtonDown
  | mButtonUp
  | mouseWheel
  deriving DecidableEq

/-- `LOWORD`. -/
def loWord (value : UInt32) : UInt16 := value.toUInt16

/-- `HIWORD`. -/
def hiWord (value : UInt32) : UInt16 := (value >>> 16).toUInt16

/-- `GET_X_LPARAM`. -/
def getXLParam (lParam : UInt32) : Int := (loWord lParam).toInt16.toInt

/-- `GET_Y_LPARAM`. -/
def getYLParam (lParam : UInt32) : Int := (hiWord lParam).toInt16.toInt

/-- `GET_WHEEL_DELTA_WPARAM`. -/
def getWheelDelta (wParam : UInt32) : Int16 := (hiWord wParam).toInt16

/-- The `MAKELPARAM` of a point. -/
def CPoint.lParam (point : CPoint) : UInt32 := makeLParam (.ofInt point.x) (.ofInt point.y)

/-- A point of a mouse message has 16-bit coordinates. -/
def CPoint.Genuine (point : CPoint) : Prop :=
  (-32768 ≤ point.x ∧ point.x < 32768) ∧ -32768 ≤ point.y ∧ point.y < 32768

instance (point : CPoint) : Decidable point.Genuine :=
  inferInstanceAs (Decidable ((_ ∧ _) ∧ _ ∧ _))

theorem toNat_makeLParam (low high : UInt32) :
    (makeLParam low high).toNat = low.toNat % 65536 + 65536 * (high.toNat % 65536) := by
  have upper : (high % 65536).toNat = high.toNat % 65536 := by
    rw [UInt32.toNat_mod]
    rfl
  have shifted : ((high % 65536) <<< 16).toNat = 2 ^ 16 * (high.toNat % 65536) := by
    rw [UInt32.toNat_shiftLeft, upper, Nat.shiftLeft_eq]
    show _ * 2 ^ 16 % 2 ^ 32 = _
    omega
  have small : low.toNat % 65536 < 2 ^ 16 := by omega
  have lower : (HMod.hMod low (65536 : Nat) : UInt32).toNat = low.toNat % 65536 := by
    show (BitVec.ofNat 32 (low.toFin.modn 65536).val).toNat = _
    rw [BitVec.toNat_ofNat, Fin.modn_val, Nat.mod_eq_of_lt]
    · rfl
    · exact (Nat.mod_lt _ (by decide)).trans (by decide)
  rw [makeLParam, UInt32.toNat_or, shifted, lower, Nat.or_comm,
    ← Nat.two_pow_add_eq_or_of_lt small]
  omega

@[simp]
theorem loWord_makeLParam (low high : UInt32) : loWord (makeLParam low high) = low.toUInt16 := by
  refine UInt16.toNat_inj.mp ?_
  rw [loWord, UInt32.toNat_toUInt16, UInt32.toNat_toUInt16, toNat_makeLParam]
  omega

@[simp]
theorem hiWord_makeLParam (low high : UInt32) : hiWord (makeLParam low high) = high.toUInt16 := by
  refine UInt16.toNat_inj.mp ?_
  rw [hiWord, UInt32.toNat_toUInt16, UInt32.toNat_toUInt16, UInt32.toNat_shiftRight,
    toNat_makeLParam, Nat.shiftRight_eq_div_pow]
  show _ / 2 ^ 16 % 2 ^ 16 = _
  omega

theorem toInt_toInt16 (value : UInt16) :
    value.toInt16.toInt = (value.toNat : Int).bmod (2 ^ 16) := by
  rw [Int16.toInt, BitVec.toInt_eq_toNat_bmod]
  rfl

/-- The low word of a small number, read with its sign. -/
theorem toInt_toInt16_ofInt {value : Int} (above : -32768 ≤ value) (below : value < 32768) :
    (UInt32.ofInt value).toUInt16.toInt16.toInt = value := by
  have bits : ((UInt32.ofInt value).toNat : Int) = value % 2 ^ 32 := by
    rw [UInt32.ofInt, UInt32.toNat_ofNat']
    omega
  rw [toInt_toInt16, UInt32.toNat_toUInt16, Int.bmod_def]
  push_cast
  rw [bits]
  split <;> omega

/-- A point is read from a message as it was written. -/
theorem CPoint.Genuine.lParam {point : CPoint} (genuine : point.Genuine) :
    getXLParam point.lParam = point.x ∧ getYLParam point.lParam = point.y := by
  obtain ⟨⟨left, right⟩, top, bottom⟩ := genuine
  simp [getXLParam, getYLParam, CPoint.lParam, toInt_toInt16_ofInt, left, right, top, bottom]

/-- So is the turn of the wheel. -/
theorem getWheelDelta_makeWParam (flags : UInt32) (delta : Int16) :
    getWheelDelta (makeLParam flags delta.toInt32.toUInt32) = delta := by
  rw [getWheelDelta, hiWord_makeLParam]
  refine Int16.toInt_inj.mp ?_
  have above := delta.le_toInt
  have below := delta.toInt_lt
  have wide : delta.toInt32.toInt = delta.toInt := Int16.toInt_toInt32 delta
  have bits : (delta.toInt32.toUInt32.toNat : Int).bmod (2 ^ 32) = delta.toInt := by
    rw [← wide, Int32.toInt, BitVec.toInt_eq_toNat_bmod]
    rfl
  have small := delta.toInt32.toUInt32.toNat_lt
  rw [toInt_toInt16, UInt32.toNat_toUInt16]
  rw [Int.bmod_def] at bits ⊢
  push_cast
  split at bits <;> split <;> omega

/-! ### From a message to the channel -/

/-- A message of the mouse to a view. -/
inductive MouseEvent where
  | move
  | lButtonDown
  | lButtonDblClk
  | lButtonUp
  | rButtonDown
  | rButtonUp
  | mButtonDown
  | mButtonUp
  | wheel (delta : Int16)
  deriving DecidableEq

/-- `OnMouseMove` to `OnMouseWheel`: the message that is forwarded. A double click takes the place
of the second `WM_LBUTTONDOWN`. -/
def MouseEvent.forwarded : MouseEvent → InputMessage
  | .move => .mouseMove
  | .lButtonDown | .lButtonDblClk => .lButtonDown
  | .lButtonUp => .lButtonUp
  | .rButtonDown => .rButtonDown
  | .rButtonUp => .rButtonUp
  | .mButtonDown => .mButtonDown
  | .mButtonUp => .mButtonUp
  | .wheel _ => .mouseWheel

/-- The `wparam` that is forwarded. -/
def MouseEvent.wParam (flags : UInt32) : MouseEvent → UInt32
  | .wheel delta => makeLParam flags delta.toInt32.toUInt32
  | _ => flags

/-- `SendRemoteInput` for an active user with a control channel, up to the call it makes. -/
def sendRemoteInput (mulDiv : MulDiv) (source : VideoRenderWnd) (message : InputMessage)
    (wParam lParam : UInt32) : Option InputCall :=
  if message = .keyDown ∨ message = .keyUp then some (.key wParam.toUInt16 (message = .keyDown))
  else if message = .mouseWheel then some (.mouseWheel (getWheelDelta wParam))
  else if message = .mouseMove then
    (source.normalizeVideoPoint mulDiv ⟨getXLParam lParam, getYLParam lParam⟩).map
      fun normalized => .mouseMove normalized.1 normalized.2
  else
    let button : UInt8 :=
      if message = .rButtonDown ∨ message = .rButtonUp then 1
      else if message = .mButtonDown ∨ message = .mButtonUp then 2
      else 0
    let down : Bool :=
      message = .lButtonDown ∨ message = .rButtonDown ∨ message = .mButtonDown
    (source.normalizeVideoPoint mulDiv ⟨getXLParam lParam, getYLParam lParam⟩).map
      fun normalized => .mouseButton button down normalized.1 normalized.2

/-- The window of a view. -/
def VideoViews.source (views : VideoViews) : Pane → VideoRenderWnd
  | .main => views.main
  | .fullscreen => (views.fullscreenView.map FullscreenView.view).getD views.main

/-- A mouse message to a view. `ForwardInput` takes the callback of the main view for both. -/
def VideoViews.onMouse (views : VideoViews) (mulDiv : MulDiv) (pane : Pane) (injected : Bool)
    (event : MouseEvent) (flags : UInt32) (point : CPoint) : List InputCall :=
  if injected || !views.inputCallback then []
  else
    (sendRemoteInput mulDiv (views.source pane) event.forwarded (event.wParam flags)
      point.lParam).toList

/-- What the callback makes of a key message. -/
def KeyMessage.call (mulDiv : MulDiv) (views : VideoViews) (message : KeyMessage) :
    Option InputCall :=
  sendRemoteInput mulDiv (views.source message.source) (if message.isDown then .keyDown else .keyUp)
    message.key message.lParam

/-- What a mouse message asks the other side for. -/
def MouseEvent.effects (mulDiv : MulDiv) (source : VideoRenderWnd) (point : CPoint)
    (event : MouseEvent) : List InputEffect :=
  let behind (input : List InputEffect) : List InputEffect :=
    match source.normalizeVideoPoint mulDiv point with
    | none => []
    | some normalized => .position normalized.1 normalized.2 :: input
  match event with
  | .move => behind []
  | .lButtonDown | .lButtonDblClk => behind [.button 0 true]
  | .lButtonUp => behind [.button 0 false]
  | .rButtonDown => behind [.button 1 true]
  | .rButtonUp => behind [.button 1 false]
  | .mButtonDown => behind [.button 2 true]
  | .mButtonUp => behind [.button 2 false]
  | .wheel delta => [.wheel delta]

/-- The packing loses nothing. -/
theorem effects_onMouse {views : VideoViews} (callback : views.inputCallback = true)
    (mulDiv : MulDiv) (pane : Pane) (event : MouseEvent) (flags : UInt32) {point : CPoint}
    (genuine : point.Genuine) :
    (views.onMouse mulDiv pane false event flags point).flatMap InputCall.effects =
      event.effects mulDiv (views.source pane) point := by
  obtain ⟨column, row⟩ := genuine.lParam
  rw [VideoViews.onMouse, callback, sendRemoteInput, column, row]
  cases event with
  | wheel delta =>
    simp [MouseEvent.forwarded, MouseEvent.wParam, MouseEvent.effects, InputCall.effects,
      getWheelDelta_makeWParam]
  | _ =>
    cases normalized : (views.source pane).normalizeVideoPoint mulDiv point <;>
      simp [MouseEvent.forwarded, MouseEvent.effects, InputCall.effects, normalized]

/-! ### SendInput -/

/-- `INPUT`. -/
inductive Input where
  | mouse (input : MouseInput) (mouseData : UInt32)
  | keyboard (wVk : UInt16) (dwFlags : UInt32) (dwExtraInfo : UInt64)
  deriving DecidableEq

/-- The extra information Windows keeps with the messages of an input. -/
def Input.extraInfo : Input → UInt64
  | .mouse input _ => input.dwExtraInfo
  | .keyboard _ _ dwExtraInfo => dwExtraInfo

/-- The table of `FillMouseButton`. -/
def buttonFlags (button : UInt8) (down : Bool) : UInt32 :=
  if button = 0 then (if down then 0x0002 else 0x0004)
  else if button = 1 then (if down then 0x0008 else 0x0010)
  else (if down then 0x0020 else 0x0040)

/-- `FillMouseButton`. -/
def fillMouseButton (button : UInt8) (down : Bool) : Option Input :=
  if 2 < button then none
  else
    some (.mouse ⟨0, 0, remoteInputMarker, buttonFlags button down⟩ 0)

/-- The inputs a call into `InputInjectorWin` passes to `SendInput`, in one call; none for a button
there is not. -/
def injectedInputs (mulDiv : MulDiv) (metrics : SystemMetrics) : InjectorCall → List Input
  | .mouseMove x y => [.mouse (fillAbsoluteMouseMove mulDiv metrics x y) 0]
  | .mouseButton button down => (fillMouseButton button down).toList
  | .mouseButtonAt x y button down =>
    match fillMouseButton button down with
    | none => []
    | some input => [.mouse (fillAbsoluteMouseMove mulDiv metrics x y) 0, input]
  | .mouseWheel delta => [.mouse ⟨0, 0, remoteInputMarker, 0x0800⟩ delta.toInt32.toUInt32]
  | .key virtualKey down => [.keyboard virtualKey (if down then 0 else 0x0002) remoteInputMarker]

/-- The input that makes a change of the input devices. -/
def InputEffect.input (mulDiv : MulDiv) (metrics : SystemMetrics) : InputEffect → Input
  | .position x y => .mouse (fillAbsoluteMouseMove mulDiv metrics x y) 0
  | .button button down => .mouse ⟨0, 0, remoteInputMarker, buttonFlags button down⟩ 0
  | .wheel delta => .mouse ⟨0, 0, remoteInputMarker, 0x0800⟩ delta.toInt32.toUInt32
  | .key virtualKey down => .keyboard virtualKey (if down then 0 else 0x0002) remoteInputMarker

theorem injectedInputs_eq (mulDiv : MulDiv) (metrics : SystemMetrics) (call : InjectorCall) :
    injectedInputs mulDiv metrics call =
      call.effects.map (InputEffect.input mulDiv metrics) := by
  have known (button : UInt8) : button ≤ 2 ↔ ¬ 2 < button := UInt8.not_lt.symm
  cases call with
  | mouseButton button down | mouseButtonAt x y button down =>
    unfold injectedInputs fillMouseButton InjectorCall.effects
    by_cases refused : 2 < button <;> simp [refused, known, InputEffect.input]
  | mouseMove x y | mouseWheel delta | key virtualKey down => rfl

/-- Every input that is injected carries the marker. -/
theorem extraInfo_of_mem_injectedInputs {mulDiv : MulDiv} {metrics : SystemMetrics}
    {call : InjectorCall} {input : Input} (member : input ∈ injectedInputs mulDiv metrics call) :
    input.extraInfo = remoteInputMarker := by
  rw [injectedInputs_eq] at member
  obtain ⟨effect, -, rfl⟩ := List.mem_map.mp member
  cases effect <;> rfl

/-! ### Two users who control each other -/

/-- What comes to a view: a mouse message, or a key that goes down or up. -/
inductive WindowEvent where
  | mouse (event : MouseEvent) (flags : UInt32) (point : CPoint)
  | key (creation : Creation) (isDown : Bool) (key repeatCount flags : UInt32)

/-- The point of a mouse message has 16-bit coordinates. -/
def WindowEvent.Genuine : WindowEvent → Prop
  | .mouse _ _ point => point.Genuine
  | .key _ _ _ _ _ => True

namespace VideoViews

variable (views : VideoViews)

/-- A message comes to a view: the views after it, and the calls `SendRemoteInput` makes. -/
def onEvent (mulDiv : MulDiv) (extraInfo : UInt64) (pane : Pane) :
    WindowEvent → VideoViews × List InputCall
  | .mouse event flags point =>
    (views, views.onMouse mulDiv pane (extraInfo = remoteInputMarker) event flags point)
  | .key creation true key repeatCount flags =>
    let (after, messages) :=
      views.onKeyDown pane (extraInfo = remoteInputMarker) creation key repeatCount flags
    (after, messages.filterMap (KeyMessage.call mulDiv after))
  | .key _ false key repeatCount flags =>
    (views, (views.onKeyUp pane (extraInfo = remoteInputMarker) key repeatCount flags).filterMap
      (KeyMessage.call mulDiv views))

/-- A key the view does not pass on: F10, F11, the release of Escape, and its press wherever it
ends fullscreen. -/
def Keeps (pane : Pane) (isDown : Bool) (key : UInt32) : Prop :=
  key = vkF10 ∨ key = vkF11 ∨
    key = vkEscape ∧ (isDown = true → pane = .fullscreen ∨ views.fullscreen = true)

instance (pane : Pane) (isDown : Bool) (key : UInt32) : Decidable (views.Keeps pane isDown key) :=
  inferInstanceAs (Decidable (_ ∨ _ ∨ _ ∧ (_ → _)))

/-- What the user asks the other side for. -/
def asks (mulDiv : MulDiv) (pane : Pane) : WindowEvent → List InputEffect
  | .mouse event _ point =>
    if views.inputCallback then event.effects mulDiv (views.source pane) point else []
  | .key _ isDown key _ _ =>
    if views.hasInputCallback pane ∧ ¬ views.Keeps pane isDown key then
      [.key key.toUInt16 isDown]
    else []

end VideoViews

/-- One user's side: the views, the screens, and the control channel with the messages on the way to
it. `pending` is what `SendInput` took and no message was made of yet. The rest is history: the
calls into the injector, whether a message came while the channel was not authorized, and what the
user's mouse and keyboard asked the other side for. -/
structure Station where
  views : VideoViews
  metrics : SystemMetrics
  channel : RemoteControlChannel
  incoming : List ByteString := []
  pending : List Input := []
  injected : List InjectorCall := []
  refused : Bool := false
  asked : List InputEffect := []

/-- What `SendInput` was called with. -/
def Station.inputs (station : Station) (mulDiv : MulDiv) : List Input :=
  station.injected.flatMap (injectedInputs mulDiv station.metrics)

/-- The packets of calls, if the user controls the other. -/
def Station.packets (station : Station) (active : Bool) (calls : List InputCall) :
    List ControlPacket :=
  if active then calls.flatMap (station.channel.send true) else []

/-- One step on a user's side. -/
inductive StationAction where
  /-- A message of the mouse or the keyboard; `active` is whether the user controls the other. -/
  | hardware (extraInfo : UInt64) (pane : Pane) (event : WindowEvent) (active : Bool)
  /-- A message of an input that was injected. -/
  | replay (index : Nat) (pane : Pane) (event : WindowEvent) (active : Bool)
  /-- A frame, another size, or fullscreen by the button. -/
  | rearrange (views : VideoViews)
  | setAuthorized (authorized : Bool)
  | ping (tickCount : UInt32)
  | deliver (moment : Moment)

namespace Stations

/-- A side changes and sends packets to the other one. -/
def exchange (stations : Bool → Station) (side : Bool) (after : Station)
    (sent : List ControlPacket) : Bool → Station := fun place =>
  if place = side then after
  else
    { stations place with
      incoming := (stations place).incoming ++ sent.map ControlPacket.toBytes }

/-- What happens between two sides on an open channel that keeps its messages in order. -/
def next (mulDiv : MulDiv) (stations : Bool → Station) (step : Bool × StationAction) :
    Bool → Station :=
  let here := stations step.1
  match step.2 with
  | .hardware extraInfo pane event active =>
    let (views, calls) := here.views.onEvent mulDiv extraInfo pane event
    let asked := if active then here.views.asks mulDiv pane event else []
    exchange stations step.1 { here with views, asked := here.asked ++ asked }
      (here.packets active calls)
  | .replay index pane event active =>
    match here.pending[index]? with
    | none => stations
    | some input =>
      let (views, calls) := here.views.onEvent mulDiv input.extraInfo pane event
      exchange stations step.1 { here with views, pending := here.pending.eraseIdx index }
        (here.packets active calls)
  | .rearrange views => exchange stations step.1 { here with views } []
  | .setAuthorized authorized =>
    exchange stations step.1 { here with channel := here.channel.setAuthorized authorized } []
  | .ping tickCount => exchange stations step.1 here (here.channel.sendPing true tickCount)
  | .deliver moment =>
    match here.incoming with
    | [] => stations
    | buffer :: rest =>
      let reaction := here.channel.onMessage moment buffer true
      let taken :=
        if moment.sendInput then
          reaction.injected.flatMap (injectedInputs mulDiv here.metrics)
        else []
      exchange stations step.1
        { here with
          channel := reaction.channel
          incoming := rest
          pending := here.pending ++ taken
          injected := here.injected ++ reaction.injected
          refused := here.refused || !here.channel.authorized }
        reaction.sent

/-- Only what was injected carries the marker, and messages come to views there are. -/
def Allowed (stations : Bool → Station) (step : Bool × StationAction) : Prop :=
  match step.2 with
  | .hardware extraInfo pane event _ =>
    extraInfo ≠ remoteInputMarker ∧ event.Genuine ∧ (stations step.1).views.Exists pane
  | .replay index pane event _ =>
    index < (stations step.1).pending.length ∧ event.Genuine ∧
      (stations step.1).views.Exists pane
  | _ => True

/-- Two channels that were just attached. -/
def system (mulDiv : MulDiv) : Transition.System (Bool → Station) (Bool × StationAction) where
  initial stations := ∀ side, ∃ views metrics channel,
    stations side = { views, metrics, channel := RemoteControlChannel.attach channel }
  allowed := Allowed
  next := next mulDiv

end Stations

/-! ### What a message does -/

section

variable {mulDiv : MulDiv} {views : VideoViews} {pane : Pane} {event : WindowEvent}

/-- A message of an injected input is ignored. -/
theorem onEvent_injected : views.onEvent mulDiv remoteInputMarker pane event = (views, []) := by
  cases event with
  | mouse event flags point =>
    simp [VideoViews.onEvent, VideoViews.onMouse]
  | key creation isDown key repeatCount flags =>
    cases isDown <;> simp [VideoViews.onEvent, VideoViews.onKeyDown, VideoViews.onKeyUp]

theorem call_key (message : KeyMessage) :
    message.call mulDiv views = some (.key message.key.toUInt16 message.isDown) := by
  cases pressed : message.isDown <;> simp [KeyMessage.call, sendRemoteInput, pressed]

/-- A view passes on the press of a key that it does not keep. -/
theorem messages_onKeyDown (creation : Creation) (key repeatCount flags : UInt32) :
    (views.onKeyDown pane false creation key repeatCount flags).2 =
      if views.hasInputCallback pane ∧ ¬ views.Keeps pane true key then
        [⟨pane, true, key, makeLParam repeatCount flags⟩]
      else [] := by
  cases pane <;> by_cases escape : key = vkEscape <;> by_cases scale : key = vkF10 <;>
    by_cases toggle : key = vkF11 <;>
    simp [VideoViews.onKeyDown, VideoViews.Keeps, VideoViews.isFullscreen, escape, scale, toggle,
      vkEscape, vkF10, vkF11] <;>
    grind

/-- So it does with the release. -/
theorem messages_onKeyUp (key repeatCount flags : UInt32) :
    views.onKeyUp pane false key repeatCount flags =
      if views.hasInputCallback pane ∧ ¬ views.Keeps pane false key then
        [⟨pane, false, key, makeLParam repeatCount flags⟩]
      else [] := by
  simp only [VideoViews.onKeyUp, VideoViews.Keeps]
  grind

/-- What a message makes the channel send is what the user asks for. -/
theorem effects_onEvent {extraInfo : UInt64} (unmarked : extraInfo ≠ remoteInputMarker)
    (genuine : event.Genuine) :
    (views.onEvent mulDiv extraInfo pane event).2.flatMap InputCall.effects =
      views.asks mulDiv pane event := by
  cases event with
  | mouse event flags point =>
    rw [VideoViews.onEvent, VideoViews.asks, decide_eq_false unmarked]
    cases callback : views.inputCallback with
    | true => exact effects_onMouse callback mulDiv pane event flags genuine
    | false => simp [VideoViews.onMouse, callback]
  | key creation isDown key repeatCount flags =>
    cases isDown with
    | true =>
      rw [VideoViews.onEvent, VideoViews.asks, decide_eq_false unmarked]
      simp only [messages_onKeyDown]
      split <;> simp [call_key, InputCall.effects]
    | false =>
      rw [VideoViews.onEvent, VideoViews.asks, decide_eq_false unmarked]
      simp only [messages_onKeyUp]
      split <;> simp [call_key, InputCall.effects]

/-- `SendRemoteInput` knows three buttons. -/
theorem genuine_sendRemoteInput {source : VideoRenderWnd} {message : InputMessage}
    {wParam lParam : UInt32} {call : InputCall}
    (sent : sendRemoteInput mulDiv source message wParam lParam = some call) : call.Genuine := by
  unfold sendRemoteInput at sent
  split at sent
  · cases sent
    trivial
  split at sent
  · cases sent
    trivial
  split at sent
  · obtain ⟨normalized, -, rfl⟩ := Option.map_eq_some_iff.mp sent
    trivial
  · obtain ⟨normalized, -, rfl⟩ := Option.map_eq_some_iff.mp sent
    show ite _ _ _ ≤ _
    repeat' split
    all_goals decide

theorem genuine_onEvent {extraInfo : UInt64} :
    ∀ call ∈ (views.onEvent mulDiv extraInfo pane event).2, call.Genuine := by
  intro call member
  cases event with
  | mouse event flags point =>
    simp only [VideoViews.onEvent, VideoViews.onMouse] at member
    split at member
    · cases member
    · exact genuine_sendRemoteInput (Option.mem_toList.mp member)
  | key creation isDown key repeatCount flags =>
    cases isDown <;>
    · simp only [VideoViews.onEvent, List.mem_filterMap] at member
      obtain ⟨message, -, made⟩ := member
      exact genuine_sendRemoteInput made

end

/-! ### Either side makes what the other asked for -/

/-- What is made of `asked`: all of it, except where something was refused. -/
def Follows (refused : Bool) (made asked : List InputEffect) : Prop :=
  made.Sublist asked ∧ (refused = false → made = asked)

section

variable {refused : Bool} {made asked : List InputEffect}

theorem Follows.append (follows : Follows refused made asked) (more : List InputEffect) :
    Follows refused (made ++ more) (asked ++ more) :=
  ⟨follows.1.append_right more, fun accepted => by rw [follows.2 accepted]⟩

/-- Some of it is refused. -/
theorem Follows.refuse {ahead : List InputEffect} (between : List InputEffect)
    {behind : List InputEffect} (follows : Follows refused (ahead ++ (between ++ behind)) asked) :
    Follows true (ahead ++ behind) asked :=
  ⟨((List.sublist_append_right between behind).append_left ahead).trans follows.1, nofun⟩

end

/-- A side whose messages on the way are packets, and where these and what was injected follow what
the other side asked for. What was injected carries the marker. -/
structure Station.Mirrors (station : Station) (asked : List InputEffect) : Prop where
  attached : station.channel.attached = true
  marked : ∀ input ∈ station.pending, input.extraInfo = remoteInputMarker
  carried : ∃ packets : List ControlPacket,
    station.incoming = packets.map ControlPacket.toBytes ∧
      (∀ packet ∈ packets, packet.Genuine) ∧
      Follows station.refused (station.injected.flatMap InjectorCall.effects ++
        packets.flatMap ControlPacket.effects) asked

namespace Station

variable {station : Station} {asked : List InputEffect}

/-- Packets join the messages on the way. -/
theorem Mirrors.send (mirrors : station.Mirrors asked) {sent : List ControlPacket}
    (genuine : ∀ packet ∈ sent, packet.Genuine) :
    Mirrors { station with incoming := station.incoming ++ sent.map ControlPacket.toBytes }
      (asked ++ sent.flatMap ControlPacket.effects) where
  attached := mirrors.attached
  marked := mirrors.marked
  carried := by
    obtain ⟨packets, incoming, protocol, follows⟩ := mirrors.carried
    refine ⟨packets ++ sent, ?_, fun packet member => ?_, ?_⟩
    · rw [List.map_append, ← incoming]
    · exact (List.mem_append.mp member).elim (protocol packet) (genuine packet)
    · rw [List.flatMap_append, ← List.append_assoc]
      exact follows.append _

theorem genuine_packets (attached : station.channel.attached = true) (active : Bool)
    (calls : List InputCall) : ∀ packet ∈ station.packets active calls, packet.Genuine := by
  intro packet member
  rw [packets] at member
  split at member
  · obtain ⟨call, -, sent⟩ := List.mem_flatMap.mp member
    exact RemoteControlChannel.genuine_send attached call packet sent
  · cases member

theorem effects_packets (attached : station.channel.attached = true) (active : Bool)
    {calls : List InputCall} (genuine : ∀ call ∈ calls, call.Genuine) :
    (station.packets active calls).flatMap ControlPacket.effects =
      if active then calls.flatMap InputCall.effects else [] := by
  rw [packets]
  split
  · rw [List.flatMap_assoc]
    exact List.flatMap_congr fun call member =>
      RemoteControlChannel.effects_send attached (genuine call member)
  · rfl

/-- The message in front is delivered. -/
theorem Mirrors.deliver (mirrors : station.Mirrors asked) {mulDiv : MulDiv} (moment : Moment)
    {buffer : ByteString} {rest : List ByteString} (front : station.incoming = buffer :: rest) :
    let reaction := station.channel.onMessage moment buffer true
    let taken :=
      if moment.sendInput then reaction.injected.flatMap (injectedInputs mulDiv station.metrics)
      else []
    Mirrors
      { station with
        channel := reaction.channel
        incoming := rest
        pending := station.pending ++ taken
        injected := station.injected ++ reaction.injected
        refused := station.refused || !station.channel.authorized }
      asked := by
  intro reaction taken
  obtain ⟨packets, incoming, protocol, follows⟩ := mirrors.carried
  refine ⟨(RemoteControlChannel.onMessage_attached _ _ _ _).trans mirrors.attached,
    fun input member => ?_, ?_⟩
  · rcases List.mem_append.mp member with earlier | now
    · exact mirrors.marked input earlier
    · by_cases works : moment.sendInput = true
      · rw [show taken = _ from if_pos works] at now
        obtain ⟨call, -, made⟩ := List.mem_flatMap.mp now
        exact extraInfo_of_mem_injectedInputs made
      · rw [show taken = _ from if_neg works] at now
        cases now
  · cases packets with
    | nil =>
      rw [incoming] at front
      cases front
    | cons packet packets =>
      rw [incoming, List.map_cons, List.cons_eq_cons] at front
      obtain ⟨rfl, rfl⟩ := front
      refine ⟨packets, rfl, fun packet member => protocol packet (.tail _ member), ?_⟩
      show Follows (station.refused || _) ((station.injected ++ reaction.injected).flatMap _ ++ _) _
      rw [List.flatMap_cons] at follows
      cases authorized : station.channel.authorized with
      | true =>
        rw [List.flatMap_append, RemoteControlChannel.injected_onMessage authorized moment
          (protocol packet (.head _)), List.append_assoc, Bool.not_true, Bool.or_false]
        exact follows
      | false =>
        -- A channel that is not authorized passes nothing to the injector.
        have quiet : reaction.injected = [] := by
          by_contra injected
          have allowed := (RemoteControlChannel.onMessage_intrudes (Or.inl injected)).1
          rw [authorized] at allowed
          cases allowed
        rw [quiet, List.append_nil, Bool.not_false, Bool.or_true]
        exact follows.refuse _

end Station

namespace Stations

/-- Either side mirrors the other one. -/
def Mirror (stations : Bool → Station) : Prop :=
  ∀ side, (stations side).Mirrors (stations !side).asked

variable {mulDiv : MulDiv} {stations : Bool → Station}

theorem Mirror.exchange (mirror : Mirror stations) {side : Bool} {after : Station}
    {sent : List ControlPacket} (mirrors : after.Mirrors (stations !side).asked)
    (genuine : ∀ packet ∈ sent, packet.Genuine)
    (asked : after.asked = (stations side).asked ++ sent.flatMap ControlPacket.effects) :
    Mirror (exchange stations side after sent) := by
  intro place
  by_cases same : place = side
  · subst same
    have other : (!place) ≠ place := by simp
    simp only [Stations.exchange, if_pos, if_neg other]
    exact mirrors
  · obtain rfl : side = !place := by cases side <;> cases place <;> simp_all
    simp only [Stations.exchange, if_neg same, if_pos]
    rw [asked]
    exact (mirror place).send genuine

theorem Mirror.next (mirror : Mirror stations) {step : Bool × StationAction}
    (allowed : Allowed stations step) : Mirror (next mulDiv stations step) := by
  obtain ⟨side, action⟩ := step
  have here := mirror side
  cases action with
  | hardware extraInfo pane event active =>
    obtain ⟨unmarked, genuine, -⟩ := allowed
    have calls : ∀ call ∈ ((stations side).views.onEvent mulDiv extraInfo pane event).2,
        call.Genuine := genuine_onEvent
    have sent := Station.effects_packets here.attached active calls
    rw [effects_onEvent unmarked genuine] at sent
    exact mirror.exchange ⟨here.attached, here.marked, here.carried⟩
      (Station.genuine_packets here.attached active _) (congrArg (_ ++ ·) sent.symm)
  | replay index pane event active =>
    simp only [Stations.next]
    split
    · exact mirror
    rename_i input found
    -- The message carries the marker, so that the views ignore it.
    have marked := here.marked input (List.mem_of_getElem? found)
    simp only [marked, onEvent_injected]
    refine mirror.exchange
      ⟨here.attached, fun input member => here.marked input (List.mem_of_mem_eraseIdx member),
        here.carried⟩ (Station.genuine_packets here.attached active _) ?_
    have silent := Station.effects_packets here.attached active (List.forall_mem_nil _)
    rw [silent]
    cases active <;> exact (List.append_nil _).symm
  | rearrange views =>
    exact mirror.exchange ⟨here.attached, here.marked, here.carried⟩ nofun
      (List.append_nil _).symm
  | setAuthorized authorized =>
    exact mirror.exchange ⟨here.attached, here.marked, here.carried⟩ nofun
      (List.append_nil _).symm
  | ping tickCount =>
    have genuine := RemoteControlChannel.genuine_send here.attached (.ping tickCount)
    have silent : ((stations side).channel.sendPing true tickCount).flatMap
        ControlPacket.effects = [] :=
      RemoteControlChannel.effects_send here.attached (show (InputCall.ping tickCount).Genuine from
        trivial)
    refine mirror.exchange here genuine ?_
    rw [silent]
    exact (List.append_nil _).symm
  | deliver moment =>
    simp only [Stations.next]
    split
    · exact mirror
    rename_i buffer rest front
    have sent := (stations side).channel.onMessage_sent moment buffer true
    have silent := List.flatMap_eq_nil_iff.mpr fun packet member => (sent packet member).2.1
    refine mirror.exchange (here.deliver moment front) (fun packet member => (sent packet member).1)
      ?_
    rw [silent, List.append_nil]

theorem mirror_of_reachable (reachable : (system mulDiv).Reachable stations) : Mirror stations := by
  refine reachable.invariant ?_ fun stations step _ mirror allowed => mirror.next allowed
  intro stations initial side
  obtain ⟨views, metrics, channel, here⟩ := initial side
  obtain ⟨_, _, _, other⟩ := initial !side
  rw [here, other]
  exact ⟨rfl, nofun, [], rfl, nofun, .slnil, fun _ => rfl⟩

theorem inputs_eq (station : Station) :
    station.inputs mulDiv =
      (station.injected.flatMap InjectorCall.effects).map
        (InputEffect.input mulDiv station.metrics) := by
  rw [Station.inputs, List.map_flatMap]
  exact List.flatMap_congr fun call _ => injectedInputs_eq mulDiv station.metrics call

end Stations

/-- Two users control each other. Whatever either one does with the mouse, the keyboard and the
windows, and whichever messages Windows makes of injected input: what `SendInput` is called with on
one side is made of what the mouse and the keyboard of the other side asked for, in this order; and
as long as no message was refused, it is the front of it, and all of it once nothing is on the
way. -/
theorem mutual_control {mulDiv : MulDiv} {stations : Bool → Station}
    (reachable : (Stations.system mulDiv).Reachable stations) (side : Bool) :
    let asked := (stations !side).asked.map (InputEffect.input mulDiv (stations side).metrics)
    ((stations side).inputs mulDiv).Sublist asked ∧
      ((stations side).refused = false →
        (stations side).inputs mulDiv <+: asked ∧
          ((stations side).incoming = [] → (stations side).inputs mulDiv = asked)) := by
  obtain ⟨-, -, packets, incoming, -, sublist, equal⟩ := Stations.mirror_of_reachable reachable side
  simp only [Stations.inputs_eq]
  refine ⟨((List.sublist_append_left _ _).trans sublist).map _,
    fun accepted => ⟨?_, fun empty => ?_⟩⟩
  · exact List.IsPrefix.map _ ⟨_, equal accepted⟩
  · rw [incoming, List.map_eq_nil_iff] at empty
    rw [← equal accepted, empty, List.flatMap_nil, List.append_nil]

/-- One of two sides with a view that forwards its input. -/
def attendedStation : Station where
  views := attendedDesk.views
  metrics := twoScreens
  channel := RemoteControlChannel.attach {}

/-- `true` presses a letter, and the message Windows makes of it comes to the view of `false`,
where the wheel is turned in the meantime. -/
def letterAndWheel : List (Bool × StationAction) :=
  let moment : Moment := { isOpen := true, tickCount := 0, sendInput := true }
  let letter : WindowEvent := .key .noMonitor true 0x41 1 0x1E
  [(true, .setAuthorized true), (false, .setAuthorized true),
    (true, .hardware 0 .main letter true), (false, .deliver moment),
    (false, .hardware 0 .main (.mouse (.wheel (-120)) 0 ⟨8, 8⟩) true),
    (false, .replay 0 .main letter true), (true, .deliver moment)]

theorem mutual_control_letterAndWheel :
    let stations :=
      (Stations.system .documented).run (fun _ => attendedStation) letterAndWheel
    (stations false).inputs .documented = [.keyboard 0x41 0 remoteInputMarker] ∧
      (stations true).inputs .documented =
        [.mouse ⟨0, 0, remoteInputMarker, 0x0800⟩ 0xFFFFFF88] := by
  have start : (Stations.system .documented).Reachable fun _ => attendedStation :=
    .start fun _ => ⟨_, _, _, rfl⟩
  have reachable : (Stations.system .documented).Reachable
      ((Stations.system .documented).run (fun _ => attendedStation) letterAndWheel) :=
    start.run ⟨trivial, trivial, ⟨by decide, trivial, trivial⟩, trivial,
      ⟨by decide, (by decide : CPoint.Genuine ⟨8, 8⟩), trivial⟩, ⟨by decide, trivial, trivial⟩,
      trivial, trivial⟩
  exact ⟨((mutual_control reachable false).2 rfl).2 rfl,
    ((mutual_control reachable true).2 rfl).2 rfl⟩

end RemoteControl.Video

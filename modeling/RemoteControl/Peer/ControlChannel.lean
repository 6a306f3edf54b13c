/-
This file models the remote-control channel between two peers: the packet on the
wire, what `RemoteControlChannel` keeps, and `OnMessage`. Whatever the channel
does to the world is a `Reaction`: a call into `InputInjectorWin`, a packet sent
back, a report for the log. What the data channel, the clock and `SendInput`
answer at that moment are arguments.
-/

import RemoteControl.Library.Decimal
import RemoteControl.Library.LittleEndian
import RemoteControl.Signaling.Json

namespace RemoteControl.Peer

/-! ### The packet -/

/-- The magic number `RTC1`. -/
def controlMagic : UInt32 := 0x31435452

/-- `ControlPacket`. -/
structure ControlPacket where
  magic : UInt32 := controlMagic
  version : UInt8 := 1
  type : UInt8 := 0
  arg1 : UInt16 := 0
  arg2 : Int32 := 0
  deriving DecidableEq

namespace ControlPacket

/-- `sizeof(ControlPacket)`; the structure is packed. -/
def size : Nat := 12

/-- The packet as it lies in memory. -/
def toBytes (packet : ControlPacket) : ByteString :=
  LittleEndian.toBytes 4 packet.magic.toNat ++ packet.version :: packet.type ::
    (LittleEndian.toBytes 2 packet.arg1.toNat ++
      LittleEndian.toBytes 4 packet.arg2.toUInt32.toNat)

/-- The packet a `memcpy` from a buffer gives. -/
def ofBytes (buffer : ByteString) : ControlPacket where
  magic := UInt32.ofNat (LittleEndian.ofBytes (buffer.take 4))
  version := buffer.getD 4 0
  type := buffer.getD 5 0
  arg1 := UInt16.ofNat (LittleEndian.ofBytes ((buffer.drop 6).take 2))
  arg2 := (UInt32.ofNat (LittleEndian.ofBytes ((buffer.drop 8).take 4))).toInt32

theorem length_toBytes (packet : ControlPacket) : packet.toBytes.length = size := by
  simp [toBytes, size]

/-- A packet that is sent is received as it was. -/
theorem ofBytes_toBytes (packet : ControlPacket) : ofBytes packet.toBytes = packet := by
  obtain ⟨magic, version, type, arg1, arg2⟩ := packet
  have magicBack : UInt32.ofNat (LittleEndian.ofBytes (LittleEndian.toBytes 4 magic.toNat)) =
      magic := by
    rw [LittleEndian.ofBytes_toBytes_of_lt magic.toNat_lt, UInt32.ofNat_toNat]
  have arg1Back : UInt16.ofNat (LittleEndian.ofBytes (LittleEndian.toBytes 2 arg1.toNat)) =
      arg1 := by
    rw [LittleEndian.ofBytes_toBytes_of_lt arg1.toNat_lt, UInt16.ofNat_toNat]
  have arg2Back : (UInt32.ofNat (LittleEndian.ofBytes
      (LittleEndian.toBytes 4 arg2.toUInt32.toNat))).toInt32 = arg2 := by
    rw [LittleEndian.ofBytes_toBytes_of_lt arg2.toUInt32.toNat_lt, UInt32.ofNat_toNat]
    rfl
  show ControlPacket.mk (UInt32.ofNat (LittleEndian.ofBytes (LittleEndian.toBytes 4 _))) version
    type (UInt16.ofNat (LittleEndian.ofBytes (LittleEndian.toBytes 2 _)))
    (UInt32.ofNat (LittleEndian.ofBytes (LittleEndian.toBytes 4 _))).toInt32 = _
  rw [magicBack, arg1Back, arg2Back]

end ControlPacket

/-! ### What the channel does to the world -/

/-- A call into `InputInjectorWin`. -/
inductive InjectorCall where
  | mouseMove (x y : UInt16)
  | mouseButton (button : UInt8) (down : Bool)
  | mouseButtonAt (x y : UInt16) (button : UInt8) (down : Bool)
  | mouseWheel (delta : Int16)
  | key (virtualKey : UInt16) (down : Bool)
  deriving DecidableEq

/-- What the call returns, given whether `SendInput` takes the input. There are three buttons. -/
def InjectorCall.result (sendInput : Bool) : InjectorCall → Bool
  | .mouseButton button _ | .mouseButtonAt _ _ button _ => button ≤ 2 && sendInput
  | _ => sendInput

/-- What the channel reports for the log. -/
inductive ControlEvent where
  | opened
  | closed
  | buttonIgnored
  | legacyButton (button : UInt8) (down : Bool) (x y : UInt16) (injected : Bool)
  | wheel (delta : Int16) (injected : Bool)
  | syncButton (button : UInt8) (down : Bool) (x y : UInt16) (injected : Bool)
  deriving DecidableEq

/-- `MouseButtonName`. -/
def mouseButtonName (button : UInt8) : ByteString :=
  if button = 0 then bytes "LEFT"
  else if button = 1 then bytes "RIGHT"
  else if button = 2 then bytes "MIDDLE"
  else bytes "UNKNOWN"

namespace ControlEvent

/-- The result of an injection, as it is reported. -/
def resultText (injected : Bool) : ByteString := if injected then bytes "OK" else bytes "FAILED"

/-- The start of a report about a button. -/
def buttonText (button : UInt8) (down : Bool) (x y : UInt16) : ByteString :=
  bytes "RECV " ++ mouseButtonName button ++ (if down then bytes " DOWN" else bytes " UP") ++
    bytes " x=" ++ Decimal.print x.toNat ++ bytes " y=" ++ Decimal.print y.toNat

/-- The text of a report. -/
def text : ControlEvent → ByteString
  | opened => bytes "CONTROL channel OPEN"
  | closed => bytes "CONTROL channel CLOSED"
  | buttonIgnored => bytes "RECV mouse button ignored: remote control is not authorized"
  | legacyButton button down x y injected =>
    buttonText button down x y ++ bytes " (legacy) SendInput=" ++ resultText injected
  | wheel delta injected =>
    bytes "RECV WHEEL delta=" ++ Decimal.print delta.toInt ++ bytes " SendInput=" ++
      resultText injected
  | syncButton button down x y injected =>
    buttonText button down x y ++ bytes " (sync) SendInput=" ++ resultText injected

end ControlEvent

/-! ### RemoteControlChannel -/

/-- `RemoteControlChannel`. Of the data channel it holds, only whether there is one matters
here; the state of that channel belongs to the environment. -/
structure RemoteControlChannel where
  authorized : Bool := false
  roundTripTimeMs : UInt32 := 0
  remoteSupportsSynchronizedMouse : Bool := false
  lastReceivedMouseX : UInt16 := 0
  lastReceivedMouseY : UInt16 := 0
  attached : Bool := false
  deriving DecidableEq

/-- What the environment answers while a handler of the channel runs: whether the data channel
is open, the tick count, and whether `SendInput` takes the input. -/
structure Moment where
  isOpen : Bool
  tickCount : UInt32
  sendInput : Bool

/-- The channel after a message, and what it did. -/
structure Reaction where
  channel : RemoteControlChannel
  injected : List InjectorCall := []
  sent : List ControlPacket := []
  reported : List ControlEvent := []

namespace RemoteControlChannel

/-- `Attach`. -/
def attach (channel : RemoteControlChannel) : RemoteControlChannel :=
  { channel with
    roundTripTimeMs := 0
    remoteSupportsSynchronizedMouse := false
    attached := true }

/-- `SetAuthorized`. -/
def setAuthorized (channel : RemoteControlChannel) (authorized : Bool) : RemoteControlChannel :=
  { channel with authorized }

/-- `SendPacket` sends on an open channel only. -/
def sendPacket (channel : RemoteControlChannel) (isOpen : Bool) (packet : ControlPacket) :
    List ControlPacket :=
  if channel.attached && isOpen then [packet] else []

/-- `SendPing`, which announces synchronized mouse buttons with bit 0. -/
def sendPing (channel : RemoteControlChannel) (isOpen : Bool) (tickCount : UInt32) :
    List ControlPacket :=
  channel.sendPacket isOpen { type := 6, arg1 := 1, arg2 := tickCount.toInt32 }

/-- `SendMouseMove`. -/
def sendMouseMove (channel : RemoteControlChannel) (isOpen : Bool) (x y : UInt16) :
    List ControlPacket :=
  channel.sendPacket isOpen { type := 1, arg1 := x, arg2 := y.toUInt32.toInt32 }

/-- The second argument of a synchronized button: the row, the button and its state. -/
def packButton (button : UInt8) (down : Bool) (y : UInt16) : UInt32 :=
  y.toUInt32 ||| button.toUInt32 <<< 16 ||| (if down then 1 else 0 : UInt32) <<< 24

/-- `SendMouseButton`: one packet if the remote peer supports it, else a move and a legacy
button. -/
def sendMouseButton (channel : RemoteControlChannel) (isOpen : Bool) (button : UInt8)
    (down : Bool) (x y : UInt16) : List ControlPacket :=
  if channel.remoteSupportsSynchronizedMouse then
    channel.sendPacket isOpen
      { type := 5, arg1 := x, arg2 := (packButton button down y).toInt32 }
  else
    channel.sendMouseMove isOpen x y ++
      channel.sendPacket isOpen
        { type := 2, arg1 := button.toUInt16, arg2 := if down then 1 else 0 }

/-- `SendMouseWheel`. -/
def sendMouseWheel (channel : RemoteControlChannel) (isOpen : Bool) (delta : Int16) :
    List ControlPacket :=
  channel.sendPacket isOpen { type := 3, arg2 := delta.toInt32 }

/-- `SendKey`. -/
def sendKey (channel : RemoteControlChannel) (isOpen : Bool) (virtualKey : UInt16)
    (down : Bool) : List ControlPacket :=
  channel.sendPacket isOpen { type := 4, arg1 := virtualKey, arg2 := if down then 1 else 0 }

/-- The switch of `OnMessage`: what an authorized packet injects. -/
def inject (channel : RemoteControlChannel) (moment : Moment) (packet : ControlPacket) :
    Reaction :=
  if packet.type = 1 then
    let y := packet.arg2.toUInt32.toUInt16
    { channel := { channel with lastReceivedMouseX := packet.arg1, lastReceivedMouseY := y }
      injected := [.mouseMove packet.arg1 y] }
  else if packet.type = 2 then
    let button := packet.arg1.toUInt8
    let down := packet.arg2 ≠ 0
    let call := InjectorCall.mouseButton button down
    { channel
      injected := [call]
      reported := [.legacyButton button down channel.lastReceivedMouseX
        channel.lastReceivedMouseY (call.result moment.sendInput)] }
  else if packet.type = 3 then
    let delta := packet.arg2.toInt16
    let call := InjectorCall.mouseWheel delta
    { channel
      injected := [call]
      reported := [.wheel delta (call.result moment.sendInput)] }
  else if packet.type = 4 then
    { channel, injected := [.key packet.arg1 (packet.arg2 ≠ 0)] }
  else if packet.type = 5 then
    let packed := packet.arg2.toUInt32
    let y := packed.toUInt16
    let button := (packed >>> 16).toUInt8
    let down := (packed >>> 24) &&& 1 ≠ 0
    let call := InjectorCall.mouseButtonAt packet.arg1 y button down
    { channel := { channel with lastReceivedMouseX := packet.arg1, lastReceivedMouseY := y }
      injected := [call]
      reported := [.syncButton button down packet.arg1 y (call.result moment.sendInput)] }
  else { channel }

/-- The test on which `OnMessage` takes a buffer for a packet. -/
def IsPacket (binary : Bool) (buffer : ByteString) : Prop :=
  binary = true ∧ buffer.length = ControlPacket.size ∧
    (ControlPacket.ofBytes buffer).magic = controlMagic ∧
    (ControlPacket.ofBytes buffer).version = 1

/-- `OnMessage`. -/
def onMessage (channel : RemoteControlChannel) (moment : Moment) (buffer : ByteString)
    (binary : Bool) : Reaction :=
  if binary = false ∨ buffer.length ≠ ControlPacket.size then { channel }
  else
    let packet := ControlPacket.ofBytes buffer
    if packet.magic ≠ controlMagic ∨ packet.version ≠ 1 then { channel }
    else if packet.type = 6 then
      { channel := { channel with remoteSupportsSynchronizedMouse := packet.arg1 &&& 1 ≠ 0 }
        sent := channel.sendPacket moment.isOpen { type := 7, arg1 := 1, arg2 := packet.arg2 } }
    else if packet.type = 7 then
      let elapsed := moment.tickCount - packet.arg2.toUInt32
      { channel :=
          { channel with
            remoteSupportsSynchronizedMouse := packet.arg1 &&& 1 ≠ 0
            roundTripTimeMs :=
              if elapsed ≤ 60000 then (if 0 < elapsed then elapsed else 1)
              else channel.roundTripTimeMs } }
    else if channel.authorized = false then
      { channel
        reported := if packet.type = 2 ∨ packet.type = 5 then [.buttonIgnored] else [] }
    else channel.inject moment packet

/-- `OnStateChange`, which only reports. -/
def onStateChange : Bool → ControlEvent
  | true => .opened
  | false => .closed

/-! ### What a message can do -/

/-- No message changes the authorization. -/
theorem onMessage_authorized (channel : RemoteControlChannel) (moment : Moment)
    (buffer : ByteString) (binary : Bool) :
    (channel.onMessage moment buffer binary).channel.authorized = channel.authorized := by
  have injected (packet : ControlPacket) :
      (channel.inject moment packet).channel.authorized = channel.authorized := by
    unfold inject
    repeat' split
    all_goals rfl
  unfold onMessage
  split
  · rfl
  simp only
  split
  · rfl
  split
  · rfl
  split
  · rfl
  split
  · rfl
  · exact injected _

/-- A message calls into the injector or moves the pointer that was received last. -/
def Intrudes (channel : RemoteControlChannel) (reaction : Reaction) : Prop :=
  reaction.injected ≠ [] ∨
    reaction.channel.lastReceivedMouseX ≠ channel.lastReceivedMouseX ∨
    reaction.channel.lastReceivedMouseY ≠ channel.lastReceivedMouseY

/-- Only a packet on an authorized channel intrudes. -/
theorem onMessage_intrudes {channel : RemoteControlChannel} {moment : Moment}
    {buffer : ByteString} {binary : Bool}
    (intrudes : channel.Intrudes (channel.onMessage moment buffer binary)) :
    channel.authorized = true ∧ IsPacket binary buffer := by
  have harmless {reaction : Reaction} (quiet : reaction.injected = [])
      (sameX : reaction.channel.lastReceivedMouseX = channel.lastReceivedMouseX)
      (sameY : reaction.channel.lastReceivedMouseY = channel.lastReceivedMouseY) :
      ¬ channel.Intrudes reaction := by
    rintro (injected | movedX | movedY)
    · exact injected quiet
    · exact movedX sameX
    · exact movedY sameY
  unfold onMessage at intrudes
  split at intrudes
  · exact absurd intrudes (harmless rfl rfl rfl)
  rename_i shaped
  simp only at intrudes
  split at intrudes
  · exact absurd intrudes (harmless rfl rfl rfl)
  rename_i known
  split at intrudes
  · exact absurd intrudes (harmless rfl rfl rfl)
  split at intrudes
  · exact absurd intrudes (harmless rfl rfl rfl)
  split at intrudes
  · exact absurd intrudes (harmless rfl rfl rfl)
  rename_i authorized
  rw [not_or, Bool.not_eq_false, not_not] at shaped
  rw [not_or, not_not, not_not] at known
  exact ⟨Bool.not_eq_false _ ▸ authorized, shaped.1, shaped.2, known.1, known.2⟩

end RemoteControlChannel

end RemoteControl.Peer

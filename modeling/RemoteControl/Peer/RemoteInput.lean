/-
This file follows remote input from the calls on one peer to the injections on
the other. A mouse button travels as one packet or as two, depending on what the
other peer announced last; either way the receiver makes the same of it. So what
is injected is what was called for, in the same order, while everything else that
arrives only changes which of the two encodings is used next.
-/

import RemoteControl.Library.Transition
import RemoteControl.Peer.ControlChannel

namespace RemoteControl.Peer

/-! ### What input is about -/

/-- A call of the user's side. -/
inductive InputCall where
  | ping (tickCount : UInt32)
  | mouseMove (x y : UInt16)
  | mouseButton (button : UInt8) (down : Bool) (x y : UInt16)
  | mouseWheel (delta : Int16)
  | key (virtualKey : UInt16) (down : Bool)
  deriving DecidableEq

/-- A change of the input devices. -/
inductive InputEffect where
  | position (x y : UInt16)
  | button (button : UInt8) (down : Bool)
  | wheel (delta : Int16)
  | key (virtualKey : UInt16) (down : Bool)
  deriving DecidableEq

/-- What a call asks for. -/
def InputCall.effects : InputCall → List InputEffect
  | .ping _ => []
  | .mouseMove x y => [.position x y]
  | .mouseButton button down x y => [.position x y, .button button down]
  | .mouseWheel delta => [.wheel delta]
  | .key virtualKey down => [.key virtualKey down]

/-- There are three buttons. -/
def InputCall.Genuine : InputCall → Prop
  | .mouseButton button _ _ _ => button ≤ 2
  | _ => True

/-- What a call into the injector does; it refuses other buttons as a whole. -/
def InjectorCall.effects : InjectorCall → List InputEffect
  | .mouseMove x y => [.position x y]
  | .mouseButton button down => if button ≤ 2 then [.button button down] else []
  | .mouseButtonAt x y button down =>
    if button ≤ 2 then [.position x y, .button button down] else []
  | .mouseWheel delta => [.wheel delta]
  | .key virtualKey down => [.key virtualKey down]

/-- The packets a call sends. -/
def RemoteControlChannel.send (channel : RemoteControlChannel) (isOpen : Bool) :
    InputCall → List ControlPacket
  | .ping tickCount => channel.sendPing isOpen tickCount
  | .mouseMove x y => channel.sendMouseMove isOpen x y
  | .mouseButton button down x y => channel.sendMouseButton isOpen button down x y
  | .mouseWheel delta => channel.sendMouseWheel isOpen delta
  | .key virtualKey down => channel.sendKey isOpen virtualKey down

namespace RemoteControlChannel

/-! ### The packed button -/

theorem toNat_packButton (button : UInt8) (down : Bool) (y : UInt16) :
    (packButton button down y).toNat =
      y.toNat + 2 ^ 16 * button.toNat + 2 ^ 24 * down.toNat := by
  have row := y.toNat_lt
  have code := button.toNat_lt
  have shifted : (button.toUInt32 <<< 16).toNat = 2 ^ 16 * button.toNat := by
    rw [UInt32.toNat_shiftLeft, UInt8.toNat_toUInt32, Nat.shiftLeft_eq]
    show button.toNat * 2 ^ 16 % 2 ^ 32 = _
    omega
  have flag : ((if down then 1 else 0 : UInt32) <<< 24).toNat = 2 ^ 24 * down.toNat := by
    cases down <;> rfl
  rw [packButton, UInt32.toNat_or, UInt32.toNat_or, shifted, flag, UInt16.toNat_toUInt32,
    Nat.or_comm y.toNat, ← Nat.two_pow_add_eq_or_of_lt row, Nat.or_comm,
    ← Nat.two_pow_add_eq_or_of_lt (by omega)]
  omega

theorem packButton_row (button : UInt8) (down : Bool) (y : UInt16) :
    (packButton button down y).toUInt16 = y := by
  have row := y.toNat_lt
  refine UInt16.toNat_inj.mp ?_
  rw [UInt32.toNat_toUInt16, toNat_packButton]
  omega

theorem packButton_button (button : UInt8) (down : Bool) (y : UInt16) :
    (packButton button down y >>> 16).toUInt8 = button := by
  have row := y.toNat_lt
  have code := button.toNat_lt
  refine UInt8.toNat_inj.mp ?_
  rw [UInt32.toNat_toUInt8, UInt32.toNat_shiftRight, toNat_packButton, Nat.shiftRight_eq_div_pow]
  show _ / 2 ^ 16 % 2 ^ 8 = _
  omega

theorem packButton_down (button : UInt8) (down : Bool) (y : UInt16) :
    decide ((packButton button down y >>> 24) &&& 1 ≠ 0) = down := by
  have row := y.toNat_lt
  have code := button.toNat_lt
  have bit : (packButton button down y >>> 24) &&& 1 = if down then 1 else 0 := by
    refine UInt32.toNat_inj.mp ?_
    rw [UInt32.toNat_and, UInt32.toNat_shiftRight, toNat_packButton, Nat.shiftRight_eq_div_pow]
    show _ / 2 ^ 24 &&& 1 = _
    rw [Nat.and_one_is_mod]
    cases down with
    | false =>
      show _ = 0
      rw [Bool.toNat_false]
      omega
    | true =>
      show _ = 1
      rw [Bool.toNat_true]
      omega
  rw [bit]
  cases down <;> rfl

end RemoteControlChannel

/-! ### What a packet does to an authorized receiver -/

/-- A packet of this protocol. -/
def ControlPacket.Genuine (packet : ControlPacket) : Prop :=
  packet.magic = controlMagic ∧ packet.version = 1

/-- The input a packet stands for. -/
def ControlPacket.effects (packet : ControlPacket) : List InputEffect :=
  (RemoteControlChannel.inject {} { isOpen := true, tickCount := 0, sendInput := true }
    packet).injected.flatMap InjectorCall.effects

namespace RemoteControlChannel

/-- What is injected depends on the packet alone. -/
theorem injected_inject (channel : RemoteControlChannel) (moment : Moment)
    (packet : ControlPacket) :
    (channel.inject moment packet).injected.flatMap InjectorCall.effects = packet.effects := by
  unfold ControlPacket.effects inject
  repeat' split
  all_goals rfl

/-- An authorized receiver does what the packet stands for. -/
theorem injected_onMessage {channel : RemoteControlChannel} (authorized : channel.authorized = true)
    (moment : Moment) {packet : ControlPacket} (genuine : packet.Genuine) :
    (channel.onMessage moment packet.toBytes true).injected.flatMap InjectorCall.effects =
      packet.effects := by
  have announcement {type : UInt8} (same : packet.type = type)
      (other : type = 6 ∨ type = 7) : packet.effects = [] := by
    unfold ControlPacket.effects inject
    rw [same]
    rcases other with rfl | rfl <;> rfl
  unfold onMessage
  rw [if_neg (by rw [ControlPacket.length_toBytes]; simp), ControlPacket.ofBytes_toBytes]
  simp only
  rw [if_neg (by rw [genuine.1, genuine.2]; simp)]
  split
  · rename_i ping
    exact (announcement ping (Or.inl rfl)).symm
  split
  · rename_i pong
    exact (announcement pong (Or.inr rfl)).symm
  rw [if_neg (by rw [authorized]; simp)]
  exact channel.injected_inject moment packet

/-! ### What a call sends -/

section

variable {channel : RemoteControlChannel}

theorem sendPacket_open (attached : channel.attached = true) (packet : ControlPacket) :
    channel.sendPacket true packet = [packet] := by
  rw [sendPacket, attached]
  rfl

/-- Every packet of a call is one of this protocol. -/
theorem genuine_send (attached : channel.attached = true) (call : InputCall) :
    ∀ packet ∈ channel.send true call, packet.Genuine := by
  cases call <;>
    simp only [send, sendPing, sendMouseMove, sendMouseButton, sendMouseWheel, sendKey,
      sendPacket_open attached]
  case mouseButton button down x y =>
    split
    · intro packet member
      cases List.mem_singleton.mp member
      exact ⟨rfl, rfl⟩
    · intro packet member
      rcases List.mem_cons.mp member with rfl | member
      · exact ⟨rfl, rfl⟩
      · cases List.mem_singleton.mp member
        exact ⟨rfl, rfl⟩
  all_goals
    intro packet member
    cases List.mem_singleton.mp member
    exact ⟨rfl, rfl⟩

theorem effects_mouseMove (x y : UInt16) :
    ControlPacket.effects { type := 1, arg1 := x, arg2 := y.toUInt32.toInt32 } =
      [.position x y] := by
  show [InputEffect.position x y.toUInt32.toInt32.toUInt32.toUInt16] = _
  rw [UInt32.toUInt32_toInt32, UInt16.toUInt16_toUInt32]

theorem effects_legacyButton {button : UInt8} (known : button ≤ 2) (down : Bool) :
    ControlPacket.effects
      { type := 2, arg1 := button.toUInt16, arg2 := if down then 1 else 0 } =
      [.button button down] := by
  have state : decide ((if down then 1 else 0 : Int32) ≠ 0) = down := by cases down <;> rfl
  show (InjectorCall.mouseButton button.toUInt16.toUInt8
    (decide ((if down then 1 else 0 : Int32) ≠ 0))).effects ++ [] = _
  rw [state, UInt8.toUInt8_toUInt16, InjectorCall.effects, if_pos known]
  rfl

theorem effects_synchronizedButton {button : UInt8} (known : button ≤ 2) (down : Bool)
    (x y : UInt16) :
    ControlPacket.effects
      { type := 5, arg1 := x, arg2 := (packButton button down y).toInt32 } =
      [.position x y, .button button down] := by
  show (InjectorCall.mouseButtonAt x (packButton button down y).toInt32.toUInt32.toUInt16
    ((packButton button down y).toInt32.toUInt32 >>> 16).toUInt8
    (decide (((packButton button down y).toInt32.toUInt32 >>> 24) &&& 1 ≠ 0))).effects ++ [] = _
  rw [UInt32.toUInt32_toInt32, packButton_row, packButton_button, packButton_down,
    InjectorCall.effects, if_pos known]
  rfl

theorem effects_mouseWheel (delta : Int16) :
    ControlPacket.effects { type := 3, arg2 := delta.toInt32 } = [.wheel delta] := by
  show [InputEffect.wheel delta.toInt32.toInt16] = _
  rw [Int16.toInt16_toInt32]

theorem effects_key (virtualKey : UInt16) (down : Bool) :
    ControlPacket.effects { type := 4, arg1 := virtualKey, arg2 := if down then 1 else 0 } =
      [.key virtualKey down] := by
  show [InputEffect.key virtualKey (decide ((if down then 1 else 0 : Int32) ≠ 0))] = _
  cases down <;> rfl

/-- The packets of a call stand for what it asks for, in either encoding. -/
theorem effects_send (attached : channel.attached = true) {call : InputCall}
    (genuine : call.Genuine) :
    (channel.send true call).flatMap ControlPacket.effects = call.effects := by
  cases call with
  | ping tickCount =>
    rw [send, sendPing, sendPacket_open attached]
    rfl
  | mouseMove x y =>
    rw [send, sendMouseMove, sendPacket_open attached, List.flatMap_singleton, effects_mouseMove]
    rfl
  | mouseButton button down x y =>
    rw [send, sendMouseButton]
    split
    · rw [sendPacket_open attached, List.flatMap_singleton, effects_synchronizedButton genuine]
      rfl
    · rw [sendMouseMove, sendPacket_open attached, sendPacket_open attached,
        List.flatMap_append, List.flatMap_singleton, List.flatMap_singleton, effects_mouseMove,
        effects_legacyButton genuine]
      rfl
  | mouseWheel delta =>
    rw [send, sendMouseWheel, sendPacket_open attached, List.flatMap_singleton,
      effects_mouseWheel]
    rfl
  | key virtualKey down =>
    rw [send, sendKey, sendPacket_open attached, List.flatMap_singleton, effects_key]
    rfl

/-- Only a synchronized button is a packet of type 5. -/
theorem supports_of_synchronizedButton (attached : channel.attached = true) {call : InputCall}
    {packet : ControlPacket} (sent : packet ∈ channel.send true call)
    (synchronized : packet.type = 5) : channel.remoteSupportsSynchronizedMouse = true := by
  cases call <;>
    simp only [send, sendPing, sendMouseMove, sendMouseButton, sendMouseWheel, sendKey,
      sendPacket_open attached] at sent
  case mouseButton button down x y =>
    split at sent
    · assumption
    · rcases List.mem_cons.mp sent with rfl | sent
      · cases synchronized
      · cases List.mem_singleton.mp sent
        cases synchronized
  all_goals
    cases List.mem_singleton.mp sent
    cases synchronized

end

/-! ### What the other peer announced -/

instance decidableIsPacket (binary : Bool) (buffer : ByteString) :
    Decidable (IsPacket binary buffer) :=
  inferInstanceAs (Decidable (_ ∧ _ ∧ _ ∧ _))

/-- The packet of a message that announces what the peer supports: a ping or its answer. -/
def announcement (message : ByteString × Bool) : Option ControlPacket :=
  if IsPacket message.2 message.1 ∧
      ((ControlPacket.ofBytes message.1).type = 6 ∨ (ControlPacket.ofBytes message.1).type = 7) then
    some (ControlPacket.ofBytes message.1)
  else none

/-- The announcement that was received last. -/
def lastAnnouncement (received : List (ByteString × Bool)) : Option ControlPacket :=
  (received.filterMap announcement).getLast?

/-- Whether bit 0 of the announcement is set. -/
def announces : Option ControlPacket → Bool
  | none => false
  | some packet => packet.arg1 &&& 1 ≠ 0

/-- A message changes what is known of the peer exactly when it is an announcement. -/
theorem onMessage_supports (channel : RemoteControlChannel) (moment : Moment) (buffer : ByteString)
    (binary : Bool) :
    (channel.onMessage moment buffer binary).channel.remoteSupportsSynchronizedMouse =
      match announcement (buffer, binary) with
      | none => channel.remoteSupportsSynchronizedMouse
      | some packet => announces (some packet) := by
  have injected (packet : ControlPacket) :
      (channel.inject moment packet).channel.remoteSupportsSynchronizedMouse =
        channel.remoteSupportsSynchronizedMouse := by
    unfold inject
    repeat' split
    all_goals rfl
  by_cases packet : IsPacket binary buffer
  · obtain ⟨whole, length, magic, version⟩ := packet
    have shaped : ¬ (binary = false ∨ buffer.length ≠ ControlPacket.size) := by
      rw [whole, length]
      simp
    have known : ¬ ((ControlPacket.ofBytes buffer).magic ≠ controlMagic ∨
        (ControlPacket.ofBytes buffer).version ≠ 1) := by
      rw [magic, version]
      simp
    unfold onMessage
    rw [if_neg shaped]
    simp only
    rw [if_neg known]
    by_cases ping : (ControlPacket.ofBytes buffer).type = 6
    · have announced : announcement (buffer, binary) = some (ControlPacket.ofBytes buffer) :=
        if_pos ⟨⟨whole, length, magic, version⟩, Or.inl ping⟩
      rw [if_pos ping, announced]
      rfl
    by_cases pong : (ControlPacket.ofBytes buffer).type = 7
    · have announced : announcement (buffer, binary) = some (ControlPacket.ofBytes buffer) :=
        if_pos ⟨⟨whole, length, magic, version⟩, Or.inr pong⟩
      rw [if_neg ping, if_pos pong, announced]
      rfl
    · have silent : announcement (buffer, binary) = none :=
        if_neg (by rintro ⟨-, same | same⟩; exacts [ping same, pong same])
      rw [if_neg ping, if_neg pong, silent]
      split
      · rfl
      · exact injected _
  · rw [announcement, if_neg (by rintro ⟨whole, -⟩; exact packet whole)]
    unfold onMessage
    split
    · rfl
    rename_i shaped
    simp only
    split
    · rfl
    rename_i known
    rw [not_or, Bool.not_eq_false, not_not] at shaped
    rw [not_or, not_not, not_not] at known
    exact absurd ⟨shaped.1, shaped.2, known.1, known.2⟩ packet

/-- A message is answered by an announcement, if at all. -/
theorem onMessage_sent (channel : RemoteControlChannel) (moment : Moment) (buffer : ByteString)
    (binary : Bool) :
    ∀ packet ∈ (channel.onMessage moment buffer binary).sent,
      packet.Genuine ∧ packet.effects = [] ∧ packet.type = 7 := by
  have injected (packet : ControlPacket) : (channel.inject moment packet).sent = [] := by
    unfold inject
    repeat' split
    all_goals rfl
  intro packet sent
  unfold onMessage at sent
  split at sent
  · cases sent
  simp only at sent
  split at sent
  · cases sent
  split at sent
  · rw [sendPacket] at sent
    split at sent
    · cases List.mem_singleton.mp sent
      exact ⟨⟨rfl, rfl⟩, rfl, rfl⟩
    · cases sent
  split at sent
  · cases sent
  split at sent
  · cases sent
  · rw [injected] at sent
    cases sent

theorem onMessage_attached (channel : RemoteControlChannel) (moment : Moment)
    (buffer : ByteString) (binary : Bool) :
    (channel.onMessage moment buffer binary).channel.attached = channel.attached := by
  have injected (packet : ControlPacket) :
      (channel.inject moment packet).channel.attached = channel.attached := by
    unfold inject
    repeat' split
    all_goals rfl
  unfold onMessage
  split
  · rfl
  simp only
  repeat' split
  all_goals first | rfl | exact injected _

end RemoteControlChannel

/-! ### Two peers and the channel between them -/

/-- The channel from the user's peer to the one that is controlled: both ends, the messages on the
way, and the history of what was called, received and injected since the channel was attached. -/
structure ControlLink where
  sender : RemoteControlChannel
  receiver : RemoteControlChannel
  wire : List ByteString := []
  called : List InputCall := []
  received : List (ByteString × Bool) := []
  injected : List InjectorCall := []

/-- A call of the user's side, a message that arrives there, or one that arrives at the other
peer. -/
inductive LinkAction where
  | call (input : InputCall)
  | received (moment : Moment) (buffer : ByteString) (binary : Bool)
  | delivered (moment : Moment)

namespace ControlLink

/-- The packets the user's side sends. -/
def sends (link : ControlLink) : LinkAction → List ControlPacket
  | .call input => link.sender.send true input
  | .received moment buffer binary => (link.sender.onMessage moment buffer binary).sent
  | .delivered _ => []

/-- What happens on an open channel that keeps its messages in order. -/
def next (link : ControlLink) (action : LinkAction) : ControlLink :=
  match action with
  | .call input =>
    { link with
      wire := link.wire ++ (link.sends action).map ControlPacket.toBytes
      called := link.called ++ [input] }
  | .received moment buffer binary =>
    { link with
      sender := (link.sender.onMessage moment buffer binary).channel
      wire := link.wire ++ (link.sends action).map ControlPacket.toBytes
      received := link.received ++ [(buffer, binary)] }
  | .delivered moment =>
    match link.wire with
    | [] => link
    | buffer :: rest =>
      { link with
        receiver := (link.receiver.onMessage moment buffer true).channel
        wire := rest
        injected := link.injected ++ (link.receiver.onMessage moment buffer true).injected }

/-- The channel was just attached, and the receiver is authorized. -/
def system : Transition.System ControlLink LinkAction where
  initial link :=
    ∃ sender receiver : RemoteControlChannel, receiver.authorized = true ∧
      link = { sender := sender.attach, receiver }
  allowed _
    | .call input => input.Genuine
    | _ => True
  next := next

/-! ### What holds since the channel was attached -/

/-- What was called for is what was injected, followed by what is on the way; and the user's side
knows what the other peer announced last. -/
structure Faithful (link : ControlLink) : Prop where
  attached : link.sender.attached = true
  authorized : link.receiver.authorized = true
  carried : ∃ packets : List ControlPacket, link.wire = packets.map ControlPacket.toBytes ∧
    (∀ packet ∈ packets, packet.Genuine) ∧
    link.injected.flatMap InjectorCall.effects ++ packets.flatMap ControlPacket.effects =
      link.called.flatMap InputCall.effects
  known : link.sender.remoteSupportsSynchronizedMouse =
    RemoteControlChannel.announces (RemoteControlChannel.lastAnnouncement link.received)

theorem lastAnnouncement_append (received : List (ByteString × Bool))
    (message : ByteString × Bool) :
    RemoteControlChannel.lastAnnouncement (received ++ [message]) =
      match RemoteControlChannel.announcement message with
      | none => RemoteControlChannel.lastAnnouncement received
      | some packet => some packet := by
  rw [RemoteControlChannel.lastAnnouncement, List.filterMap_append]
  cases announced : RemoteControlChannel.announcement message with
  | none =>
    rw [List.filterMap_cons_none announced, List.filterMap_nil, List.append_nil]
    rfl
  | some packet =>
    rw [List.filterMap_cons_some announced, List.filterMap_nil, List.getLast?_append]
    rfl

section

variable {link : ControlLink}

theorem Faithful.call (faithful : link.Faithful) {input : InputCall} (genuine : input.Genuine) :
    (link.next (.call input)).Faithful where
  attached := faithful.attached
  authorized := faithful.authorized
  carried := by
    obtain ⟨packets, wire, protocol, same⟩ := faithful.carried
    refine ⟨packets ++ link.sender.send true input, ?_, fun packet member => ?_, ?_⟩
    · show link.wire ++ _ = _
      rw [wire, List.map_append]
      rfl
    · exact (List.mem_append.mp member).elim (protocol packet)
        (RemoteControlChannel.genuine_send faithful.attached input packet)
    · show link.injected.flatMap _ ++ _ = (link.called ++ [input]).flatMap _
      rw [List.flatMap_append, List.flatMap_append, ← List.append_assoc, same,
        RemoteControlChannel.effects_send faithful.attached genuine, List.flatMap_singleton]
  known := faithful.known

theorem Faithful.received (faithful : link.Faithful) (moment : Moment) (buffer : ByteString)
    (binary : Bool) : (link.next (.received moment buffer binary)).Faithful where
  attached := (RemoteControlChannel.onMessage_attached _ _ _ _).trans faithful.attached
  authorized := faithful.authorized
  carried := by
    obtain ⟨packets, wire, protocol, same⟩ := faithful.carried
    have sent := link.sender.onMessage_sent moment buffer binary
    have silent : (link.sends (.received moment buffer binary)).flatMap ControlPacket.effects =
        [] := List.flatMap_eq_nil_iff.mpr fun packet member => (sent packet member).2.1
    refine ⟨packets ++ link.sends (.received moment buffer binary), ?_, fun packet member => ?_, ?_⟩
    · show link.wire ++ _ = _
      rw [wire, List.map_append]
    · exact (List.mem_append.mp member).elim (protocol packet)
        fun answer => (sent packet answer).1
    · rw [List.flatMap_append, silent, List.append_nil]
      exact same
  known := by
    show (link.sender.onMessage moment buffer binary).channel.remoteSupportsSynchronizedMouse =
      RemoteControlChannel.announces
        (RemoteControlChannel.lastAnnouncement (link.received ++ [(buffer, binary)]))
    rw [RemoteControlChannel.onMessage_supports, lastAnnouncement_append]
    cases RemoteControlChannel.announcement (buffer, binary) with
    | none => exact faithful.known
    | some packet => rfl

theorem Faithful.delivered (faithful : link.Faithful) (moment : Moment) :
    (link.next (.delivered moment)).Faithful := by
  obtain ⟨packets, wire, protocol, same⟩ := faithful.carried
  rw [next]
  cases packets with
  | nil =>
    rw [wire]
    exact faithful
  | cons packet rest =>
    rw [wire]
    refine ⟨faithful.attached, (RemoteControlChannel.onMessage_authorized _ _ _ _).trans
      faithful.authorized, ⟨rest, rfl, fun packet member => protocol packet
        (List.mem_cons_of_mem _ member), ?_⟩, faithful.known⟩
    show (link.injected ++ _).flatMap _ ++ _ = link.called.flatMap _
    rw [List.flatMap_append, RemoteControlChannel.injected_onMessage faithful.authorized moment
      (protocol packet List.mem_cons_self), List.append_assoc, ← List.flatMap_cons, same]

theorem faithful_of_reachable (reachable : system.Reachable link) : link.Faithful := by
  refine reachable.invariant ?_ fun link action _ faithful allowed => ?_
  · rintro link ⟨sender, receiver, authorized, rfl⟩
    exact ⟨rfl, authorized, ⟨[], rfl, fun packet member => absurd member List.not_mem_nil, rfl⟩,
      rfl⟩
  · cases action with
    | call input => exact faithful.call allowed
    | received moment buffer binary => exact faithful.received moment buffer binary
    | delivered moment => exact faithful.delivered moment

end

end ControlLink

/-- Whatever is called and received on an attached channel, in any order: the input that was
injected is the input that was called for, up to what is still on the way; and a synchronized
button is only sent to a peer that announced support for it last. -/
theorem remote_input_faithful {link : ControlLink}
    (reachable : ControlLink.system.Reachable link) :
    link.injected.flatMap InjectorCall.effects <+: link.called.flatMap InputCall.effects ∧
      (link.wire = [] → link.injected.flatMap InjectorCall.effects =
        link.called.flatMap InputCall.effects) ∧
      ∀ action packet, packet ∈ link.sends action → packet.type = 5 →
        RemoteControlChannel.announces
          (RemoteControlChannel.lastAnnouncement link.received) = true := by
  have faithful := ControlLink.faithful_of_reachable reachable
  obtain ⟨packets, wire, -, same⟩ := faithful.carried
  refine ⟨⟨_, same⟩, fun empty => ?_, fun action packet sent synchronized => ?_⟩
  · rw [wire, List.map_eq_nil_iff] at empty
    rw [← same, empty, List.flatMap_nil, List.append_nil]
  · rw [← faithful.known]
    cases action with
    | call input =>
      exact RemoteControlChannel.supports_of_synchronizedButton faithful.attached sent synchronized
    | received moment buffer binary =>
      rw [(link.sender.onMessage_sent moment buffer binary packet sent).2.2] at synchronized
      cases synchronized
    | delivered moment => cases sent

/-- A click before and a click after the other peer announced support, and a turn of the wheel. -/
def twoClicks : List LinkAction :=
  let moment : Moment := { isOpen := true, tickCount := 0, sendInput := true }
  [.call (.mouseButton 0 true 300 65535),
    .received moment (ControlPacket.toBytes { type := 6, arg1 := 1 }) true,
    .call (.mouseButton 0 false 300 65535), .call (.mouseWheel (-120)),
    .delivered moment, .delivered moment, .delivered moment, .delivered moment,
    .delivered moment]

/-- Both ends of a channel that was just attached. -/
def freshLink : ControlLink :=
  { sender := RemoteControlChannel.attach {}, receiver := { authorized := true } }

theorem remote_input_faithful_twoClicks :
    (ControlLink.system.run freshLink twoClicks).injected.flatMap InjectorCall.effects =
      [.position 300 65535, .button 0 true, .position 300 65535, .button 0 false,
        .wheel (-120)] := by
  have start : ControlLink.system.Reachable freshLink :=
    .start ⟨{}, { authorized := true }, rfl, rfl⟩
  have left : (0 : UInt8) ≤ 2 := by decide
  have reachable : ControlLink.system.Reachable (ControlLink.system.run freshLink twoClicks) :=
    start.run ⟨left, trivial, left, trivial, trivial, trivial, trivial, trivial, trivial, trivial⟩
  exact (remote_input_faithful reachable).2.1 (by decide)

end RemoteControl.Peer

/-
This file follows the pings of the control channel. Either side stamps a ping with
its own tick count, the other sends the stamp back, and the age of the stamp is
the round-trip time. Stamps are `GetTickCount`, which starts again after `2 ^ 32`
milliseconds; the clocks of the two sides need not agree. Input and other
messages share the channel.
-/

import RemoteControl.Peer.RemoteInput

namespace RemoteControl.Peer

/-! ### Stamps -/

/-- The stamp of a message, if it is a packet of the given type: 6 for a ping, 7 for an answer. -/
def stampOf (type : UInt8) (buffer : ByteString) : Option UInt32 :=
  if RemoteControlChannel.IsPacket true buffer ∧ (ControlPacket.ofBytes buffer).type = type then
    some (ControlPacket.ofBytes buffer).arg2.toUInt32
  else none

theorem stampOf_toBytes (type : UInt8) {packet : ControlPacket} (genuine : packet.Genuine) :
    stampOf type packet.toBytes =
      if packet.type = type then some packet.arg2.toUInt32 else none := by
  simp [stampOf, RemoteControlChannel.IsPacket, ControlPacket.ofBytes_toBytes,
    ControlPacket.length_toBytes, genuine.1, genuine.2]

/-- `GetTickCount`, on a computer that was started a while before. -/
def getTickCount (uptime now : Nat) : UInt32 := UInt32.ofNat (uptime + now)

/-- The difference of two tick counts does not depend on when the computer was started. -/
theorem elapsed_eq (uptime : Nat) {sent received : Nat} (order : sent ≤ received) :
    (getTickCount uptime received - getTickCount uptime sent).toNat =
      (received - sent) % 2 ^ 32 := by
  rw [UInt32.toNat_sub, getTickCount, getTickCount, UInt32.toNat_ofNat', UInt32.toNat_ofNat']
  omega

/-! ### Two sides and their messages -/

/-- One side: its channel and the messages on the way to it. The rest is history: when its pings
were sent, when answers came, and whether a ping found the channel no longer open. -/
structure Endpoint where
  channel : RemoteControlChannel
  incoming : List ByteString := []
  pinged : List Nat := []
  ponged : List Nat := []
  refused : Bool := false

/-- The two sides, and the time in milliseconds. -/
structure Connection where
  now : Nat
  ends : Bool → Endpoint

/-- One step on a side; `isOpen` is the state of its data channel. -/
inductive EndpointAction where
  | ping (isOpen : Bool)
  | input (isOpen : Bool) (call : InputCall)
  | setAuthorized (authorized : Bool)
  | deliver (isOpen sendInput : Bool)

inductive ConnectionAction where
  | elapse (milliseconds : Nat)
  | act (side : Bool) (action : EndpointAction)

/-- A side that messages are sent to. -/
def Endpoint.send (endpoint : Endpoint) (sent : List ControlPacket) : Endpoint :=
  { endpoint with incoming := endpoint.incoming ++ sent.map ControlPacket.toBytes }

@[simp]
theorem Endpoint.send_pinged (endpoint : Endpoint) (sent : List ControlPacket) :
    (endpoint.send sent).pinged = endpoint.pinged := rfl

namespace Endpoint

variable (endpoint : Endpoint)

/-- What a side becomes, given the time and its tick count, and what it sends. -/
def act (now : Nat) (tickCount : UInt32) : EndpointAction → Endpoint × List ControlPacket
  | .ping isOpen =>
    let sent := endpoint.channel.sendPing isOpen tickCount
    ({ endpoint with
        pinged := if sent = [] then endpoint.pinged else endpoint.pinged ++ [now] }, sent)
  | .input isOpen call => (endpoint, endpoint.channel.send isOpen call)
  | .setAuthorized authorized =>
    ({ endpoint with channel := endpoint.channel.setAuthorized authorized }, [])
  | .deliver isOpen sendInput =>
    match endpoint.incoming with
    | [] => (endpoint, [])
    | buffer :: rest =>
      let reaction := endpoint.channel.onMessage ⟨isOpen, tickCount, sendInput⟩ buffer true
      let ignored := (stampOf 6 buffer).isSome && reaction.sent.isEmpty
      ({ endpoint with
          channel := reaction.channel
          incoming := rest
          ponged := if (stampOf 7 buffer).isSome then endpoint.ponged ++ [now] else endpoint.ponged
          refused := endpoint.refused || ignored }, reaction.sent)

variable {endpoint}

theorem act_deliver {buffer : ByteString} {rest : List ByteString}
    (front : endpoint.incoming = buffer :: rest) (now : Nat) (tickCount : UInt32)
    (isOpen sendInput : Bool) :
    let reaction := endpoint.channel.onMessage ⟨isOpen, tickCount, sendInput⟩ buffer true
    endpoint.act now tickCount (.deliver isOpen sendInput) =
      ({ endpoint with
          channel := reaction.channel
          incoming := rest
          ponged := if (stampOf 7 buffer).isSome then endpoint.ponged ++ [now] else endpoint.ponged
          refused := endpoint.refused || ((stampOf 6 buffer).isSome && reaction.sent.isEmpty) },
        reaction.sent) := by
  simp only [act, front]

end Endpoint

namespace Connection

/-- What happens on a channel that is ordered and reliable; `uptime` is how long either computer
ran at time zero. -/
def next (uptime : Bool → Nat) (connection : Connection) : ConnectionAction → Connection
  | .elapse milliseconds => { connection with now := connection.now + milliseconds }
  | .act side action =>
    let (after, sent) := (connection.ends side).act connection.now
      (getTickCount (uptime side) connection.now) action
    { connection with
      ends := fun place => if place = side then after else (connection.ends place).send sent }

/-- Pings are sent by `SendPing` only. -/
def Allowed : ConnectionAction → Prop
  | .act _ (.input _ (.ping _)) => False
  | _ => True

/-- Two channels that were just attached. -/
def system (uptime : Bool → Nat) : Transition.System Connection ConnectionAction where
  initial connection := ∀ side, ∃ channel,
    connection.ends side = { channel := RemoteControlChannel.attach channel }
  allowed _ := Allowed
  next := next uptime

end Connection

/-! ### What a message does to the stamps -/

namespace RemoteControlChannel

variable (channel : RemoteControlChannel) (moment : Moment) (buffer : ByteString)

/-- Input is neither answered nor measured. -/
theorem inject_aside (packet : ControlPacket) :
    (channel.inject moment packet).sent = [] ∧
      (channel.inject moment packet).channel.roundTripTimeMs = channel.roundTripTimeMs := by
  unfold inject
  repeat' split
  all_goals exact ⟨rfl, rfl⟩

/-- What `OnMessage` does with a packet, as far as its stamp is concerned: a ping is answered with
its own stamp, an answer is measured. -/
theorem onMessage_stamp :
    let reaction := channel.onMessage moment buffer true
    (reaction.sent = match stampOf 6 buffer with
      | none => []
      | some stamp =>
        channel.sendPacket moment.isOpen { type := 7, arg1 := 1, arg2 := stamp.toInt32 }) ∧
    (reaction.channel.roundTripTimeMs = match stampOf 7 buffer with
      | none => channel.roundTripTimeMs
      | some stamp =>
        let elapsed := moment.tickCount - stamp
        if elapsed ≤ 60000 then (if 0 < elapsed then elapsed else 1)
        else channel.roundTripTimeMs) := by
  intro reaction
  by_cases packet : IsPacket true buffer
  · have ⟨_, length, magic, version⟩ := packet
    have shaped : ¬ (true = false ∨ buffer.length ≠ ControlPacket.size) := by simp [length]
    have known : ¬ ((ControlPacket.ofBytes buffer).magic ≠ controlMagic ∨
        (ControlPacket.ofBytes buffer).version ≠ 1) := by simp [magic, version]
    simp only [reaction, onMessage, if_neg shaped, if_neg known, stampOf, packet, true_and]
    by_cases ping : (ControlPacket.ofBytes buffer).type = 6
    · simp [ping]
    by_cases pong : (ControlPacket.ofBytes buffer).type = 7
    · simp [pong]
    simp only [ping, pong, if_false]
    split
    · exact ⟨rfl, rfl⟩
    · exact channel.inject_aside moment _
  · have unstamped (type : UInt8) : stampOf type buffer = none := if_neg fun is => packet is.1
    rw [unstamped, unstamped]
    simp only [reaction, onMessage]
    split
    · exact ⟨rfl, rfl⟩
    rename_i shaped
    split
    · exact ⟨rfl, rfl⟩
    rename_i known
    rw [not_or, Bool.not_eq_false, not_not] at shaped
    rw [not_or, not_not, not_not] at known
    exact absurd ⟨shaped.1, shaped.2, known.1, known.2⟩ packet

end RemoteControlChannel

/-! ### What is sent -/

/-- The stamps of the packets of a type among messages. -/
def stamps (type : UInt8) (messages : List ByteString) : List UInt32 :=
  messages.filterMap (stampOf type)

section

variable {channel : RemoteControlChannel}

theorem stamps_append (type : UInt8) (first second : List ByteString) :
    stamps type (first ++ second) = stamps type first ++ stamps type second :=
  List.filterMap_append

theorem stamps_sendPacket (isOpen : Bool) (type : UInt8) {packet : ControlPacket}
    (genuine : packet.Genuine) :
    stamps type ((channel.sendPacket isOpen packet).map ControlPacket.toBytes) =
      if channel.attached && isOpen && packet.type = type then [packet.arg2.toUInt32] else [] := by
  unfold stamps RemoteControlChannel.sendPacket
  cases channel.attached && isOpen <;> by_cases same : packet.type = type <;>
    simp [stampOf_toBytes type genuine, same]

theorem stamps_sendPing (isOpen : Bool) (type : UInt8) (tickCount : UInt32) :
    stamps type ((channel.sendPing isOpen tickCount).map ControlPacket.toBytes) =
      if channel.attached && isOpen && type = 6 then [tickCount] else [] := by
  rw [RemoteControlChannel.sendPing, stamps_sendPacket isOpen type ⟨rfl, rfl⟩]
  have same : decide ((6 : UInt8) = type) = decide (type = 6) := decide_eq_decide.mpr eq_comm
  simp [same]

theorem stamps_cons (type : UInt8) (buffer : ByteString) (rest : List ByteString) :
    stamps type (buffer :: rest) = (stampOf type buffer).toList ++ stamps type rest := by
  unfold stamps
  cases here : stampOf type buffer <;> simp [here]

/-- What is sent back carries the stamp of the ping. -/
theorem stamps_onMessage (type : UInt8) (moment : Moment) (buffer : ByteString) :
    stamps type ((channel.onMessage moment buffer true).sent.map ControlPacket.toBytes) =
      if channel.attached && moment.isOpen && type = 7 then (stampOf 6 buffer).toList else [] := by
  rw [(channel.onMessage_stamp moment buffer).1]
  cases stampOf 6 buffer with
  | none => simp [stamps]
  | some stamp =>
    have same : decide ((7 : UInt8) = type) = decide (type = 7) := decide_eq_decide.mpr eq_comm
    simp only
    rw [stamps_sendPacket moment.isOpen type ⟨rfl, rfl⟩]
    simp [same]

/-- Input carries no stamps. -/
theorem stamps_send (isOpen : Bool) {type : UInt8} (stamped : 6 ≤ type) {call : InputCall}
    (input : ∀ tickCount, call ≠ .ping tickCount) :
    stamps type ((channel.send isOpen call).map ControlPacket.toBytes) = [] := by
  have quiet {packet : ControlPacket} (genuine : packet.Genuine) (other : packet.type < 6) :
      stamps type ((channel.sendPacket isOpen packet).map ControlPacket.toBytes) = [] := by
    rw [stamps_sendPacket isOpen type genuine, if_neg]
    simp only [Bool.and_eq_true, decide_eq_true_eq, not_and]
    rintro - rfl
    exact UInt8.not_le.mpr other stamped
  cases call with
  | ping tickCount => exact absurd rfl (input tickCount)
  | mouseMove x y => exact quiet ⟨rfl, rfl⟩ (show (1 : UInt8) < 6 by decide)
  | mouseButton button down x y =>
    unfold RemoteControlChannel.send RemoteControlChannel.sendMouseButton
    simp only
    split
    · exact quiet ⟨rfl, rfl⟩ (show (5 : UInt8) < 6 by decide)
    · rw [List.map_append, stamps_append, RemoteControlChannel.sendMouseMove,
        quiet ⟨rfl, rfl⟩ (show (1 : UInt8) < 6 by decide),
        quiet ⟨rfl, rfl⟩ (show (2 : UInt8) < 6 by decide)]
      rfl
  | mouseWheel delta => exact quiet ⟨rfl, rfl⟩ (show (3 : UInt8) < 6 by decide)
  | key virtualKey down => exact quiet ⟨rfl, rfl⟩ (show (4 : UInt8) < 6 by decide)

end

/-! ### Pings and their answers -/

/-- The round-trip time of a ping and its answer, in milliseconds; `GetTickCount` starts again
after `2 ^ 32` milliseconds, and more than a minute is not believed. -/
def measured (answer : Nat × Nat) : Option Nat :=
  let elapsed := (answer.2 - answer.1) % 2 ^ 32
  if elapsed ≤ 60000 then some (max elapsed 1) else none

/-- How the pings of one side are doing: some were answered, some answers are coming, and some pings
are going to the other side, in this order. -/
structure Trail (uptime now : Nat) (pinger echoer : Endpoint) (answers : List (Nat × Nat))
    (coming going : List Nat) : Prop where
  past : ∀ time ∈ pinger.pinged, time ≤ now
  order : (answers.map Prod.fst ++ (coming ++ going)).Sublist pinger.pinged
  complete : echoer.refused = false → answers.map Prod.fst ++ (coming ++ going) = pinger.pinged
  coming : stamps 7 pinger.incoming = coming.map (getTickCount uptime)
  going : stamps 6 echoer.incoming = going.map (getTickCount uptime)
  answered : answers.map Prod.snd = pinger.ponged
  causal : ∀ answer ∈ answers, answer.1 ≤ answer.2
  shown : pinger.channel.roundTripTimeMs.toNat = ((answers.filterMap measured).getLast?).getD 0

section

variable {uptime now : Nat} {pinger echoer : Endpoint} {answers : List (Nat × Nat)}
  {coming going : List Nat}

theorem Trail.elapse (trail : Trail uptime now pinger echoer answers coming going)
    (milliseconds : Nat) :
    Trail uptime (now + milliseconds) pinger echoer answers coming going :=
  { trail with past := fun time member => Nat.le_add_right_of_le (trail.past time member) }

/-- Messages to the other side that carry no ping change nothing. -/
theorem Trail.toEchoer (trail : Trail uptime now pinger echoer answers coming going)
    {sent : List ControlPacket} (noPing : stamps 6 (sent.map ControlPacket.toBytes) = []) :
    Trail uptime now pinger (echoer.send sent) answers coming going :=
  { trail with
    going := by rw [Endpoint.send, stamps_append, noPing, List.append_nil, trail.going] }

/-- Nor do messages from there that carry no answer. -/
theorem Trail.toPinger (trail : Trail uptime now pinger echoer answers coming going)
    {sent : List ControlPacket} (noAnswer : stamps 7 (sent.map ControlPacket.toBytes) = []) :
    Trail uptime now (pinger.send sent) echoer answers coming going :=
  { trail with
    coming := by rw [Endpoint.send, stamps_append, noAnswer, List.append_nil, trail.coming] }

/-- The side pings. -/
theorem Trail.ping (trail : Trail uptime now pinger echoer answers coming going)
    {sent : List ControlPacket}
    (stamped : stamps 6 (sent.map ControlPacket.toBytes) = [getTickCount uptime now]) :
    Trail uptime now { pinger with pinged := pinger.pinged ++ [now] } (echoer.send sent) answers
      coming (going ++ [now]) where
  past := by
    intro time member
    rcases List.mem_append.mp member with earlier | latest
    · exact trail.past time earlier
    · exact Nat.le_of_eq (List.mem_singleton.mp latest)
  order := by
    rw [← List.append_assoc coming, ← List.append_assoc]
    exact trail.order.append_right [now]
  complete accepted := by
    rw [← List.append_assoc coming, ← List.append_assoc, trail.complete accepted]
  coming := trail.coming
  going := by rw [Endpoint.send, stamps_append, trail.going, stamped, List.map_append]; rfl
  answered := trail.answered
  causal := trail.causal
  shown := trail.shown

/-- The side gets a message that is no answer. -/
theorem Trail.skip {rest : List ByteString} {channel : RemoteControlChannel} {refused : Bool}
    (trail : Trail uptime now pinger echoer answers coming going)
    (behind : stamps 7 rest = coming.map (getTickCount uptime))
    (shown : channel.roundTripTimeMs = pinger.channel.roundTripTimeMs) :
    Trail uptime now { pinger with channel, incoming := rest, refused } echoer answers coming
      going :=
  { trail with
    coming := behind
    shown := (congrArg UInt32.toNat shown).trans trail.shown }

/-- An answer comes back and is measured. -/
theorem Trail.pong {time : Nat} {rest : List ByteString} {channel : RemoteControlChannel}
    {refused : Bool} (trail : Trail uptime now pinger echoer answers (time :: coming) going)
    (behind : stamps 7 rest = coming.map (getTickCount uptime))
    (shown : channel.roundTripTimeMs =
      let elapsed := getTickCount uptime now - getTickCount uptime time
      if elapsed ≤ 60000 then (if 0 < elapsed then elapsed else 1)
      else pinger.channel.roundTripTimeMs) :
    Trail uptime now
      { pinger with channel, incoming := rest, ponged := pinger.ponged ++ [now], refused } echoer
      (answers ++ [(time, now)]) coming going where
  past := trail.past
  order := by simpa using trail.order
  complete accepted := by simpa using trail.complete accepted
  coming := behind
  going := trail.going
  answered := by rw [List.map_append, trail.answered]; rfl
  causal := by
    intro answer member
    rcases List.mem_append.mp member with earlier | latest
    · exact trail.causal answer earlier
    · rw [List.mem_singleton.mp latest]
      exact trail.past time (trail.order.subset (by simp))
  shown := by
    have elapsed := elapsed_eq uptime (trail.past time (trail.order.subset (by simp)))
    simp only [List.filterMap_append, List.filterMap_cons, List.filterMap_nil, shown]
    by_cases believed : (now - time) % 2 ^ 32 ≤ 60000
    · have young : getTickCount uptime now - getTickCount uptime time ≤ 60000 := by
        rw [UInt32.le_iff_toNat_le, elapsed]
        exact believed
      rw [if_pos young, measured, if_pos believed]
      simp only [List.getLast?_concat, Option.getD_some]
      split
      · rename_i positive
        rw [UInt32.lt_iff_toNat_lt, elapsed] at positive
        rw [elapsed]
        exact (Nat.max_eq_left positive).symm
      · rename_i zero
        rw [UInt32.lt_iff_toNat_lt, elapsed] at zero
        exact (Nat.max_eq_right ((Nat.le_of_not_lt zero).trans (Nat.zero_le 1))).symm
    · have old : ¬ getTickCount uptime now - getTickCount uptime time ≤ 60000 := by
        rw [UInt32.le_iff_toNat_le, elapsed]
        exact believed
      rw [if_neg old, measured, if_neg believed]
      simpa using trail.shown

/-- The other side gets a message that is no ping. -/
theorem Trail.overhear {rest : List ByteString} {channel : RemoteControlChannel}
    {ponged : List Nat} (trail : Trail uptime now pinger echoer answers coming going)
    (behind : stamps 6 rest = going.map (getTickCount uptime)) :
    Trail uptime now pinger { echoer with channel, incoming := rest, ponged } answers coming
      going :=
  { trail with going := behind }

/-- The other side answers a ping. -/
theorem Trail.echo {time : Nat} {rest : List ByteString} {channel : RemoteControlChannel}
    {ponged : List Nat} {sent : List ControlPacket}
    (trail : Trail uptime now pinger echoer answers coming (time :: going))
    (behind : stamps 6 rest = going.map (getTickCount uptime))
    (stamped : stamps 7 (sent.map ControlPacket.toBytes) = [getTickCount uptime time]) :
    Trail uptime now (pinger.send sent) { echoer with channel, incoming := rest, ponged } answers
      (coming ++ [time]) going where
  past := trail.past
  order := by simpa using trail.order
  complete accepted := by simpa using trail.complete accepted
  coming := by rw [Endpoint.send, stamps_append, trail.coming, stamped, List.map_append]; rfl
  going := behind
  answered := trail.answered
  causal := trail.causal
  shown := trail.shown

/-- The other side cannot answer a ping any more. -/
theorem Trail.refuse {time : Nat} {rest : List ByteString} {channel : RemoteControlChannel}
    {ponged : List Nat} (trail : Trail uptime now pinger echoer answers coming (time :: going))
    (behind : stamps 6 rest = going.map (getTickCount uptime)) :
    Trail uptime now pinger { echoer with channel, incoming := rest, ponged, refused := true }
      answers coming going where
  past := trail.past
  order := (((List.sublist_cons_self time going).append_left coming).append_left _).trans
    trail.order
  complete := nofun
  coming := trail.coming
  going := behind
  answered := trail.answered
  causal := trail.causal
  shown := trail.shown

/-- A trail continues whatever its own side does. -/
theorem Trail.act (trail : Trail uptime now pinger echoer answers coming going)
    {action : EndpointAction} (allowed : ∀ side, Connection.Allowed (.act side action)) :
    let step := pinger.act now (getTickCount uptime now) action
    ∃ answers coming going, Trail uptime now step.1 (echoer.send step.2) answers coming going := by
  intro step
  cases action with
  | ping isOpen =>
    have stamped := @stamps_sendPing pinger.channel isOpen 6 (getTickCount uptime now)
    by_cases working : (pinger.channel.attached && isOpen) = true
    · have sent : step.2 ≠ [] := by
        simp [step, Endpoint.act, RemoteControlChannel.sendPing, RemoteControlChannel.sendPacket,
          working]
      rw [working] at stamped
      have moved : step.1 = { pinger with pinged := pinger.pinged ++ [now] } :=
        congrArg (fun pinged => { pinger with pinged }) (if_neg sent)
      rw [moved]
      exact ⟨_, _, _, trail.ping stamped⟩
    · have silent : step.2 = [] := if_neg working
      have same : step.1 = pinger :=
        congrArg (fun pinged => { pinger with pinged }) (if_pos silent)
      rw [same, silent]
      exact ⟨_, _, _, trail.toEchoer rfl⟩
  | input isOpen call =>
    refine ⟨_, _, _, trail.toEchoer (stamps_send isOpen (by decide) ?_)⟩
    rintro tickCount rfl
    exact allowed true
  | setAuthorized authorized => exact ⟨_, _, _, { trail.toEchoer rfl with }⟩
  | deliver isOpen sendInput =>
    cases front : pinger.incoming with
    | nil =>
      have idle : step = (pinger, []) := by simp only [step, Endpoint.act, front]
      rw [idle]
      exact ⟨_, _, _, trail.toEchoer rfl⟩
    | cons buffer rest =>
      let moment : Moment := ⟨isOpen, getTickCount uptime now, sendInput⟩
      have noPing : stamps 6 (step.2.map ControlPacket.toBytes) = [] := by
        simp only [step, Endpoint.act_deliver front]
        rw [stamps_onMessage, if_neg (by simp)]
      have timed := (pinger.channel.onMessage_stamp moment buffer).2
      have waiting := trail.coming
      rw [front, stamps_cons] at waiting
      cases answer : stampOf 7 buffer with
      | none =>
        rw [answer] at timed waiting
        refine ⟨answers, coming, going, Trail.toEchoer ?_ noPing⟩
        simp only [step, Endpoint.act_deliver front, answer]
        exact trail.skip waiting timed
      | some stamp =>
        rw [answer] at timed waiting
        cases coming with
        | nil => cases waiting
        | cons time coming =>
          obtain ⟨rfl, behind⟩ := List.cons_eq_cons.mp waiting
          refine ⟨answers ++ [(time, now)], coming, going, Trail.toEchoer ?_ noPing⟩
          simp only [step, Endpoint.act_deliver front, answer]
          exact trail.pong behind timed

/-- And whatever the other side does, with its own clock. -/
theorem Trail.answer (trail : Trail uptime now pinger echoer answers coming going)
    {action : EndpointAction} (allowed : ∀ side, Connection.Allowed (.act side action))
    (tickCount : UInt32) :
    let step := echoer.act now tickCount action
    ∃ answers coming going, Trail uptime now (pinger.send step.2) step.1 answers coming going := by
  intro step
  cases action with
  | ping isOpen =>
    have stamped := @stamps_sendPing echoer.channel isOpen 7 tickCount
    rw [if_neg (by simp)] at stamped
    exact ⟨_, _, _, { trail.toPinger stamped with }⟩
  | input isOpen call =>
    refine ⟨_, _, _, trail.toPinger (stamps_send isOpen (by decide) ?_)⟩
    rintro tickCount rfl
    exact allowed true
  | setAuthorized authorized => exact ⟨_, _, _, { trail.toPinger rfl with }⟩
  | deliver isOpen sendInput =>
    cases front : echoer.incoming with
    | nil =>
      have idle : step = (echoer, []) := by simp only [step, Endpoint.act, front]
      rw [idle]
      exact ⟨_, _, _, trail.toPinger rfl⟩
    | cons buffer rest =>
      let moment : Moment := ⟨isOpen, tickCount, sendInput⟩
      have stamped := @stamps_onMessage echoer.channel 7 moment buffer
      have waiting := trail.going
      rw [front, stamps_cons] at waiting
      simp only [step, Endpoint.act_deliver front]
      cases ping : stampOf 6 buffer with
      | none =>
        rw [ping] at stamped waiting
        refine ⟨answers, coming, going, Trail.toPinger ?_ (by simpa using stamped)⟩
        simp only [Option.isSome_none, Bool.false_and, Bool.or_false]
        exact trail.overhear waiting
      | some stamp =>
        rw [ping] at stamped waiting
        cases going with
        | nil => cases waiting
        | cons time going =>
          obtain ⟨rfl, behind⟩ := List.cons_eq_cons.mp waiting
          have reply := (echoer.channel.onMessage_stamp moment buffer).1
          rw [ping] at reply
          by_cases working : (echoer.channel.attached && isOpen) = true
          · have answered : (echoer.channel.onMessage moment buffer true).sent.isEmpty = false := by
              simp [reply, RemoteControlChannel.sendPacket, moment, working]
            rw [if_pos (by simp [moment, working])] at stamped
            refine ⟨answers, coming ++ [time], going, ?_⟩
            simp only [answered, moment, Bool.and_false, Bool.or_false]
            exact trail.echo behind stamped
          · have silent : (echoer.channel.onMessage moment buffer true).sent = [] := by
              rw [reply]
              exact if_neg working
            refine ⟨answers, coming, going, ?_⟩
            simp only [silent, moment, Option.isSome_some, List.isEmpty_nil, Bool.and_self,
              Bool.or_true]
            exact (trail.refuse behind).toPinger rfl

end

namespace Connection

/-- The pings of both sides leave a trail. -/
def Tracked (uptime : Bool → Nat) (connection : Connection) : Prop :=
  ∀ side, ∃ answers coming going, Trail (uptime side) connection.now (connection.ends side)
    (connection.ends !side) answers coming going

variable {uptime : Bool → Nat} {connection : Connection}

theorem Tracked.next (tracked : Tracked uptime connection) {action : ConnectionAction}
    (allowed : Allowed action) : Tracked uptime (connection.next uptime action) := by
  intro place
  obtain ⟨answers, coming, going, trail⟩ := tracked place
  cases action with
  | elapse milliseconds => exact ⟨answers, coming, going, trail.elapse milliseconds⟩
  | act side action =>
    have input (side : Bool) : Allowed (.act side action) := by
      cases action with
      | input isOpen call => cases call <;> exact allowed
      | _ => trivial
    by_cases same : place = side
    · subst same
      simp only [Connection.next, if_true, Bool.not_eq_self, if_false]
      exact trail.act input
    · obtain rfl : side = !place := by cases side <;> cases place <;> simp_all
      simp only [Connection.next, if_neg same, if_true]
      exact trail.answer input _

theorem tracked_of_reachable (reachable : (system uptime).Reachable connection) :
    Tracked uptime connection := by
  refine reachable.invariant ?_ fun _ _ _ tracked allowed => tracked.next allowed
  intro connection initial side
  obtain ⟨_, here⟩ := initial side
  obtain ⟨_, other⟩ := initial !side
  refine ⟨[], [], [], ?_⟩
  rw [here, other]
  exact ⟨nofun, .slnil, fun _ => rfl, rfl, rfl, rfl, nofun, rfl⟩

end Connection

/-- Whatever else the two sides send, and whenever their clocks start again: the answers a side gets
are to pings of its own, to each at most once and in the order of sending, and the round-trip time
is that of the last answer that took no more than a minute. When every ping could be answered and
nothing is on the way, every ping was. -/
theorem round_trip_time_is_measured {uptime : Bool → Nat} {connection : Connection}
    (reachable : (Connection.system uptime).Reachable connection) (side : Bool) :
    ∃ answers : List (Nat × Nat),
      (answers.map Prod.fst).Sublist (connection.ends side).pinged ∧
      answers.map Prod.snd = (connection.ends side).ponged ∧
      (∀ answer ∈ answers, answer.1 ≤ answer.2) ∧
      (connection.ends side).channel.roundTripTimeMs.toNat =
        ((answers.filterMap measured).getLast?).getD 0 ∧
      ((connection.ends !side).refused = false → (connection.ends side).incoming = [] →
        (connection.ends !side).incoming = [] →
        answers.map Prod.fst = (connection.ends side).pinged) := by
  obtain ⟨answers, coming, going, trail⟩ := Connection.tracked_of_reachable reachable side
  refine ⟨answers, (List.sublist_append_left _ _).trans trail.order, trail.answered, trail.causal,
    trail.shown, fun accepted received answered => ?_⟩
  have nothing := trail.complete accepted
  have noneComing := trail.coming
  have noneGoing := trail.going
  rw [received, eq_comm, stamps, List.filterMap_nil, List.map_eq_nil_iff] at noneComing
  rw [answered, eq_comm, stamps, List.filterMap_nil, List.map_eq_nil_iff] at noneGoing
  simpa [noneComing, noneGoing] using nothing

/-- A ping of `true`, whose clock starts again before the answer comes. -/
def acrossWrap : List ConnectionAction :=
  [.act true (.ping true), .elapse 30, .act false (.deliver true true), .elapse 20,
    .act true (.deliver true true)]

/-- Two channels that were just attached. -/
def attachedConnection : Connection where
  now := 0
  ends _ := { channel := RemoteControlChannel.attach {} }

/-- The tick count of `true` starts again in five milliseconds. -/
def uptimes : Bool → Nat
  | true => 2 ^ 32 - 5
  | false => 0

theorem round_trip_time_is_measured_acrossWrap :
    let here := ((Connection.system uptimes).run attachedConnection acrossWrap).ends true
    here.channel.roundTripTimeMs = 50 ∧
      ∃ answers : List (Nat × Nat), answers.map Prod.fst = here.pinged ∧
        here.channel.roundTripTimeMs.toNat = ((answers.filterMap measured).getLast?).getD 0 := by
  intro here
  have reachable : (Connection.system uptimes).Reachable
      ((Connection.system uptimes).run attachedConnection acrossWrap) :=
    (Transition.System.Reachable.start fun _ => ⟨{}, rfl⟩).run
      ⟨trivial, trivial, trivial, trivial, trivial, trivial⟩
  obtain ⟨answers, -, -, -, shown, complete⟩ := round_trip_time_is_measured reachable true
  exact ⟨by decide +kernel, answers,
    complete (by decide +kernel) (by decide +kernel) (by decide +kernel), shown⟩

end RemoteControl.Peer

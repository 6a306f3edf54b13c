/-
This file models the threads of `SignalingClient`: the owner that calls `Connect`
and `Disconnect`, the worker that executes `Run`, and any thread that calls
`Send`. A step is a critical section, an access to an atomic flag or a call of
the operating system, so the threads interleave wherever the program lets them.

How far the worker has come decides what the shared fields hold, whatever the
other threads do. That one invariant says which sockets are open, and that nobody
sends, receives or connects on a socket that is not.
-/

import RemoteControl.Library.Transition
import RemoteControl.Signaling.Protocol

namespace RemoteControl

/-! ### The threads -/

/-- `SignalingConnectionState`. -/
inductive SignalingConnectionState where
  | disconnected
  | connecting
  | connected
  | failed
  deriving DecidableEq

/-- A `SOCKET`. -/
abbrev SocketHandle := Nat

/-- The next step of `Run`. -/
inductive RunPoint where
  | entered
  | resolving
  /-- `GetAddrInfoW` has failed. -/
  | unresolved
  /-- The head of the loop over the addresses, with the number of those that are left. -/
  | choosing (addresses : Nat)
  | trying (candidate : SocketHandle) (addresses : Nat)
  | discarding (candidate : SocketHandle) (addresses : Nat)
  /-- The loop has ended without a connection. -/
  | unconnected
  | established (connectedSocket : SocketHandle)
  | published (connectedSocket : SocketHandle)
  | loggingIn (connectedSocket : SocketHandle)
  | loginSent (connectedSocket : SocketHandle) (sent : Bool)
  /-- The head of the loop that receives. -/
  | looping (connectedSocket : SocketHandle)
  | receiving (connectedSocket : SocketHandle)
  | pinging (connectedSocket : SocketHandle)
  /-- The loop has ended; `connected_` is still set. -/
  | leaving (connectedSocket : SocketHandle)
  | withdrawing (connectedSocket : SocketHandle)
  | closing (connectedSocket : SocketHandle)
  | closed
  | returned
  deriving DecidableEq

/-- The next step of the owner, between two calls or inside `Disconnect`, which `Connect` calls
before it starts a thread. -/
inductive OwnerPoint where
  | idle
  | requestingStop (restarts : Bool)
  | readingSocket (restarts : Bool)
  | shuttingDown (restarts : Bool) (socket : Option SocketHandle)
  | joining (restarts : Bool)
  | joined (restarts : Bool)
  | clearingStop
  | starting
  deriving DecidableEq

/-- The owner is at the join. -/
def OwnerPoint.joins : OwnerPoint → Bool
  | .joining _ => true
  | _ => false

/-- `SignalingClient`, with where its threads are and the sockets it has open. -/
structure SignalingClient where
  stopRequested : Bool := false
  connected : Bool := false
  socket : Option SocketHandle := none
  worker : Option RunPoint := none
  owner : OwnerPoint := .idle
  opened : List SocketHandle := []
  /-- The states the worker has reported since it was started, the newest first. -/
  reports : List SignalingConnectionState := []
  /-- The `WM_SIGNALING_STATE` messages the state callback has posted, the oldest first. -/
  posted : List SignalingConnectionState := []

/-- What `recv` answers: a time-out, fifteen seconds after the last heartbeat or sooner; nothing
more; or bytes. -/
inductive ReceiveAnswer where
  | timedOut (heartbeatDue : Bool)
  | ended
  | bytes
  deriving DecidableEq

/-- What the operating system answers the worker. -/
structure RunAnswers where
  /-- The addresses `GetAddrInfoW` finds. -/
  addresses : Option Nat := none
  /-- The socket `socket` makes. -/
  candidate : Option SocketHandle := none
  connects : Bool := false
  sends : Bool := false
  receives : ReceiveAnswer := .ended

namespace SignalingClient

variable (client : SignalingClient)

/-! ### Run -/

/-- `ReportState`, with the callback of the dialog. -/
def reportState (state : SignalingConnectionState) : SignalingClient :=
  { client with reports := state :: client.reports, posted := client.posted ++ [state] }

/-- The worker goes on. -/
def goTo (point : RunPoint) : SignalingClient := { client with worker := some point }

/-- `Send`, given whether `send` takes the whole line. It holds the mutex from the test to the
last byte, so that no other critical section comes between. -/
def send (sends : Bool) : Bool := client.connected && client.socket.isSome && sends

/-- `closesocket`. -/
def closeSocket (handle : SocketHandle) : SignalingClient :=
  { client with opened := client.opened.erase handle }

/-- One step of `Run`. -/
def run (answers : RunAnswers) : RunPoint → SignalingClient
  | .entered => (client.reportState .connecting).goTo .resolving
  | .resolving =>
    match answers.addresses with
    | none => client.goTo .unresolved
    | some addresses => client.goTo (.choosing addresses)
  | .unresolved => (client.reportState .failed).goTo .returned
  | .choosing 0 => client.goTo .unconnected
  | .choosing (addresses + 1) =>
    if client.stopRequested then client.goTo .unconnected
    else
      match answers.candidate with
      | none => client.goTo (.choosing addresses)
      | some candidate =>
        { client with opened := candidate :: client.opened }.goTo (.trying candidate addresses)
  | .trying candidate addresses =>
    if answers.connects then client.goTo (.established candidate)
    else client.goTo (.discarding candidate addresses)
  | .discarding candidate addresses => (client.closeSocket candidate).goTo (.choosing addresses)
  | .unconnected =>
    (if client.stopRequested then client else client.reportState .failed).goTo .returned
  | .established connectedSocket =>
    { client with socket := some connectedSocket }.goTo (.published connectedSocket)
  | .published connectedSocket =>
    { client with connected := true }.goTo (.loggingIn connectedSocket)
  | .loggingIn connectedSocket =>
    client.goTo (.loginSent connectedSocket (client.send answers.sends))
  | .loginSent connectedSocket sent =>
    (client.reportState (if sent then .connected else .failed)).goTo (.looping connectedSocket)
  | .looping connectedSocket =>
    if !client.stopRequested && client.connected then client.goTo (.receiving connectedSocket)
    else client.goTo (.leaving connectedSocket)
  | .receiving connectedSocket =>
    match answers.receives with
    | .timedOut true => client.goTo (.pinging connectedSocket)
    | .timedOut false => client.goTo (.looping connectedSocket)
    | .ended => client.goTo (.leaving connectedSocket)
    | .bytes => client.goTo (.looping connectedSocket)
  | .pinging connectedSocket =>
    if client.send answers.sends then client.goTo (.looping connectedSocket)
    else client.goTo (.leaving connectedSocket)
  | .leaving connectedSocket =>
    { client with connected := false }.goTo (.withdrawing connectedSocket)
  | .withdrawing connectedSocket =>
    { client with
      socket := if client.socket = some connectedSocket then none else client.socket }.goTo
      (.closing connectedSocket)
  | .closing connectedSocket => (client.closeSocket connectedSocket).goTo .closed
  | .closed =>
    (if client.stopRequested then client else client.reportState .disconnected).goTo .returned
  | .returned => client

/-! ### Connect and Disconnect -/

/-- One step of the owner. `shutdown` only makes calls on the socket fail, and the worker may have
closed it since its number was read. -/
def proceed : OwnerPoint → SignalingClient
  | .idle => client
  | .requestingStop restarts =>
    { client with stopRequested := true, owner := .readingSocket restarts }
  | .readingSocket restarts => { client with owner := .shuttingDown restarts client.socket }
  | .shuttingDown restarts _ => { client with owner := .joining restarts }
  | .joining restarts => { client with worker := none, owner := .joined restarts }
  | .joined restarts =>
    { client with connected := false, owner := if restarts then .clearingStop else .idle }
  | .clearingStop => { client with stopRequested := false, owner := .starting }
  | .starting => { client with worker := some .entered, reports := [], owner := .idle }

/-- One step of some thread. -/
inductive Action where
  /-- The owner calls `Connect` with a host, a user and a port. -/
  | connect
  | disconnect
  | proceed
  | run (answers : RunAnswers)
  /-- Some thread calls `Send`. -/
  | send (sends : Bool)

def next : Action → SignalingClient
  | .connect => { client with owner := .requestingStop true }
  | .disconnect => { client with owner := .requestingStop false }
  | .proceed => client.proceed client.owner
  | .run answers =>
    match client.worker with
    | none => client
    | some point => client.run answers point
  | .send _ => client

/-- The worker is over, or there is none; `join` waits for it. -/
def Finished : Prop := client.worker = none ∨ client.worker = some .returned

instance : Decidable client.Finished := inferInstanceAs (Decidable (_ ∨ _))

/-- The owner makes one call at a time, and a join waits for the worker. The operating system
makes no socket with the number of an open one. -/
def Allowed : Action → Prop
  | .connect | .disconnect => client.owner = .idle
  | .proceed =>
    client.owner ≠ .idle ∧ (client.owner.joins = true → client.Finished)
  | .run answers =>
    ¬ client.Finished ∧ ∀ candidate ∈ answers.candidate, candidate ∉ client.opened
  | .send _ => True

instance : ∀ action, Decidable (client.Allowed action)
  | .connect | .disconnect => inferInstanceAs (Decidable (client.owner = .idle))
  | .proceed =>
    inferInstanceAs (Decidable (_ ≠ _ ∧ (client.owner.joins = true → client.Finished)))
  | .run answers => inferInstanceAs (Decidable (¬ client.Finished ∧ ∀ _ ∈ answers.candidate, _))
  | .send _ => inferInstanceAs (Decidable True)

/-- The client in a program that runs. -/
def system : Transition.System SignalingClient Action where
  initial client := client = {}
  allowed := Allowed
  next := next

instance : ∀ state action, Decidable (system.allowed state action) :=
  fun state action => inferInstanceAs (Decidable (state.Allowed action))

/-- The socket a step works on: connects, sends, receives on it, or closes it. -/
def uses : Action → Option SocketHandle
  | .run _ =>
    match client.worker with
    | some (.trying handle _) | some (.discarding handle _) | some (.receiving handle)
    | some (.closing handle) => some handle
    | some (.loggingIn _) | some (.pinging _) => if client.connected then client.socket else none
    | _ => none
  | .send _ => if client.connected then client.socket else none
  | _ => none

/-! ### What the worker's point says -/

/-- The socket the worker has open. -/
def holds : RunPoint → Option SocketHandle
  | .trying handle _ | .discarding handle _ | .established handle | .published handle
  | .loggingIn handle | .loginSent handle _ | .looping handle | .receiving handle
  | .pinging handle | .leaving handle | .withdrawing handle | .closing handle => some handle
  | _ => none

/-- The socket the other threads see. -/
def shares : RunPoint → Option SocketHandle
  | .published handle | .loggingIn handle | .loginSent handle _ | .looping handle
  | .receiving handle | .pinging handle | .leaving handle | .withdrawing handle => some handle
  | _ => none

/-- Whether `connected_` is set. -/
def announces : RunPoint → Bool
  | .loggingIn _ | .loginSent _ _ | .looping _ | .receiving _ | .pinging _ | .leaving _ => true
  | _ => false

/-- The shared fields are those of the worker's point. -/
structure Agrees : Prop where
  opened : client.opened = (client.worker.bind holds).toList
  socket : client.socket = client.worker.bind shares
  connected : client.connected = client.worker.any announces

variable {client}

theorem Agrees.of_eq {after : SignalingClient} {point : RunPoint}
    (worker : after.worker = some point) (opened : after.opened = (holds point).toList)
    (socket : after.socket = shares point) (connected : after.connected = announces point) :
    after.Agrees := by
  refine ⟨?_, ?_, ?_⟩ <;> simp [worker, opened, socket, connected]

/-- Every step of the worker moves its point and the shared fields together. -/
theorem Agrees.run (agrees : client.Agrees) {point : RunPoint}
    (here : client.worker = some point) (answers : RunAnswers) :
    (client.run answers point).Agrees := by
  obtain ⟨opened, socket, connected⟩ := agrees
  rw [here] at opened socket connected
  cases point with
  | choosing addresses =>
    cases addresses with
    | zero => exact .of_eq rfl opened socket connected
    | succ addresses =>
      rw [SignalingClient.run]
      split
      · exact .of_eq rfl opened socket connected
      · split
        · exact .of_eq rfl opened socket connected
        · refine .of_eq rfl ?_ socket connected
          simp [goTo, opened, holds]
  | unconnected | closed =>
    rw [SignalingClient.run]
    split <;> exact .of_eq rfl opened socket connected
  | discarding candidate addresses | closing candidate =>
    refine .of_eq rfl ?_ socket connected
    simp [SignalingClient.run, goTo, closeSocket, opened, holds]
  | withdrawing handle =>
    refine .of_eq rfl opened ?_ connected
    simp [SignalingClient.run, goTo, socket, shares]
  | established handle | published handle | leaving handle =>
    exact .of_eq rfl opened (by first | rfl | exact socket) (by first | rfl | exact connected)
  | returned => exact .of_eq here opened socket connected
  | entered | unresolved | loggingIn handle | loginSent handle sent =>
    exact .of_eq rfl opened socket connected
  | resolving | trying handle addresses | looping handle | receiving handle | pinging handle =>
    rw [SignalingClient.run]
    split <;> exact .of_eq rfl opened socket connected

/-! ### Every thread -/

/-- The worker shares the socket, or has shared it and is about to end. -/
def Shared (handle : SocketHandle) (point : RunPoint) : Prop :=
  shares point = some handle ∨ point = .closing handle ∨ point = .closed ∨ point = .returned

/-- What holds between the steps of the threads. While the owner waits in `Disconnect` the worker
is asked to stop, and behind the join there is none. The socket `Disconnect` shuts down is the one
of the worker it waits for. -/
structure Sound (client : SignalingClient) : Prop where
  agrees : client.Agrees
  shuts : ∀ restarts handle, client.owner = .shuttingDown restarts (some handle) →
    ∃ point, client.worker = some point ∧ Shared handle point
  stops : ∀ restarts socket, client.owner = .readingSocket restarts ∨
    client.owner = .shuttingDown restarts socket ∨ client.owner = .joining restarts →
      client.stopRequested = true
  alone : ∀ restarts, client.owner = .joined restarts ∨ client.owner = .clearingStop ∨
    client.owner = .starting → client.worker = none

theorem sound_start : Sound {} where
  agrees := ⟨rfl, rfl, rfl⟩
  shuts _ _ here := by cases here
  stops _ _ here := by rcases here with here | here | here <;> cases here
  alone _ here := by rcases here with here | here | here <;> cases here

/-- A worker's step leaves the owner and its flag alone. -/
theorem run_owner (answers : RunAnswers) (point : RunPoint) :
    (client.run answers point).owner = client.owner := by
  unfold SignalingClient.run
  repeat' split
  all_goals rfl

theorem run_stopRequested (answers : RunAnswers) (point : RunPoint) :
    (client.run answers point).stopRequested = client.stopRequested := by
  unfold SignalingClient.run
  repeat' split
  all_goals rfl

/-- A worker that is over has closed its sockets and taken back what it shared. -/
theorem Agrees.of_finished (agrees : client.Agrees) (finished : client.Finished) :
    client.opened = [] ∧ client.socket = none ∧ client.connected = false := by
  obtain ⟨opened, socket, connected⟩ := agrees
  rcases finished with ended | ended <;>
    exact ⟨by simpa [ended, holds] using opened, by simpa [ended, shares] using socket,
      by simpa [ended, announces] using connected⟩

theorem Shared.run {handle : SocketHandle} {point : RunPoint} (shared : Shared handle point)
    (here : client.worker = some point) (answers : RunAnswers) :
    ∃ after, (client.run answers point).worker = some after ∧ Shared handle after := by
  unfold Shared at shared ⊢
  cases point <;> simp only [shares, reduceCtorEq, false_or, or_false, Option.some.injEq,
    RunPoint.closing.injEq] at shared
  all_goals
    unfold SignalingClient.run
    repeat' split
  all_goals simp_all [goTo, shares]

theorem Sound.proceed (sound : client.Sound) (allowed : client.Allowed .proceed) :
    (client.next .proceed).Sound := by
  obtain ⟨busy, waits⟩ := allowed
  have agrees := sound.agrees
  unfold SignalingClient.next SignalingClient.proceed
  cases here : client.owner with
  | idle => exact absurd here busy
  | requestingStop restarts => exact ⟨⟨agrees.1, agrees.2, agrees.3⟩, by simp, by simp, by simp⟩
  | readingSocket restarts =>
    have stops := sound.stops restarts none (.inl here)
    refine ⟨⟨agrees.1, agrees.2, agrees.3⟩, fun _ handle read => ?_, by simp [stops], by simp⟩
    simp only [OwnerPoint.shuttingDown.injEq] at read
    have shared := read.2
    rw [agrees.socket] at shared
    obtain ⟨point, working, shared⟩ := Option.bind_eq_some_iff.mp shared
    exact ⟨point, working, .inl shared⟩
  | shuttingDown restarts socket =>
    have stops := sound.stops restarts socket (.inr (.inl here))
    exact ⟨⟨agrees.1, agrees.2, agrees.3⟩, by simp, by simp [stops], by simp⟩
  | joining restarts =>
    obtain ⟨opened, socket, connected⟩ := agrees.of_finished (waits (here ▸ rfl))
    exact ⟨⟨opened, socket, connected⟩, by simp, by simp, by simp⟩
  | joined restarts =>
    have alone := sound.alone restarts (.inl here)
    obtain ⟨opened, socket, -⟩ := agrees.of_finished (.inl alone)
    refine ⟨⟨?_, ?_, ?_⟩, ?_, ?_, ?_⟩ <;> cases restarts <;> simp [alone, opened, socket]
  | clearingStop =>
    have alone := sound.alone false (.inr (.inl here))
    exact ⟨⟨agrees.1, agrees.2, agrees.3⟩, by simp, by simp, by simp [alone]⟩
  | starting =>
    have alone := sound.alone false (.inr (.inr here))
    obtain ⟨opened, socket, connected⟩ := agrees.of_finished (.inl alone)
    exact ⟨⟨opened, socket, connected⟩, by simp, by simp, by simp⟩

theorem Sound.next (sound : client.Sound) {action : Action} (allowed : client.Allowed action) :
    (client.next action).Sound := by
  have agrees := sound.agrees
  cases action with
  | connect | disconnect =>
    exact ⟨⟨agrees.1, agrees.2, agrees.3⟩, by simp [SignalingClient.next],
      by simp [SignalingClient.next], by simp [SignalingClient.next]⟩
  | proceed => exact sound.proceed allowed
  | run answers =>
    cases here : client.worker with
    | none => exact absurd (.inl here) allowed.1
    | some point =>
      have moved : client.next (.run answers) = client.run answers point := by
        rw [SignalingClient.next, here]
      rw [moved]
      refine ⟨agrees.run here answers, fun restarts handle shuts => ?_,
        fun restarts socket waits => ?_, fun restarts ended => ?_⟩
      · rw [run_owner] at shuts
        obtain ⟨point, working, shared⟩ := sound.shuts restarts handle shuts
        cases here.symm.trans working
        exact shared.run here answers
      · rw [run_owner] at waits
        rw [run_stopRequested]
        exact sound.stops restarts socket waits
      · rw [run_owner] at ended
        rw [sound.alone restarts ended] at here
        cases here
  | send sends => exact sound

theorem sound_of_reachable (reachable : system.Reachable client) : client.Sound :=
  reachable.invariant (fun _ initial => initial ▸ sound_start)
    fun _ _ _ sound allowed => sound.next allowed

/-! ### Sockets -/

theorem holds_of_shares {point : RunPoint} {handle : SocketHandle}
    (shared : shares point = some handle) : holds point = some handle := by
  cases point <;> simp_all [shares, holds]

/-- The socket the other threads see is open. -/
theorem Agrees.opened_of_socket (agrees : client.Agrees) {handle : SocketHandle}
    (shared : client.socket = some handle) : client.opened = [handle] := by
  rw [agrees.socket] at shared
  obtain ⟨point, here, shared⟩ := Option.bind_eq_some_iff.mp shared
  rw [agrees.opened, here, Option.bind_some, holds_of_shares shared]
  rfl

theorem Agrees.opened_of_holds (agrees : client.Agrees) {point : RunPoint}
    (here : client.worker = some point) {handle : SocketHandle} (held : holds point = some handle) :
    client.opened = [handle] := by
  rw [agrees.opened, here, Option.bind_some, held]
  rfl

/-- A step works on the socket that is open. -/
theorem Agrees.opened_of_uses (agrees : client.Agrees) {action : Action} {handle : SocketHandle}
    (works : client.uses action = some handle) : client.opened = [handle] := by
  have sends (shared : (if client.connected then client.socket else none) = some handle) :
      client.opened = [handle] := by
    split at shared
    · exact agrees.opened_of_socket shared
    · cases shared
  cases action with
  | connect | disconnect | proceed => cases works
  | send answer => exact sends works
  | run answers =>
    unfold uses at works
    dsimp only at works
    split at works
    case h_5 | h_6 => exact sends works
    case h_7 => cases works
    all_goals
      rename_i here
      cases works
      exact agrees.opened_of_holds here rfl

/-- Whatever the order of the threads: a step works on a socket only while that socket is open,
at most one is, `Disconnect` shuts down that socket or finds its worker at the end, and when the
worker is over the socket is closed and `Send` refuses. -/
theorem sockets_used_while_open (reachable : system.Reachable client) :
    (∀ action handle, client.uses action = some handle → client.opened = [handle]) ∧
    client.opened.length ≤ 1 ∧
    (∀ restarts handle, client.owner = .shuttingDown restarts (some handle) →
      client.opened = [handle] ∨ client.worker = some .closed ∨ client.worker = some .returned) ∧
    (client.Finished → client.opened = [] ∧ client.socket = none ∧
      ∀ sends, client.send sends = false) := by
  have sound := sound_of_reachable reachable
  have agrees := sound.agrees
  refine ⟨fun action handle works => agrees.opened_of_uses works, ?_, ?_, fun finished => ?_⟩
  · rw [agrees.opened]
    cases client.worker.bind holds <;> simp
  · intro restarts handle shuts
    obtain ⟨point, here, shared⟩ := sound.shuts restarts handle shuts
    rcases shared with shared | rfl | rfl | rfl
    · exact .inl (agrees.opened_of_holds here (holds_of_shares shared))
    · exact .inl (agrees.opened_of_holds here rfl)
    · exact .inr (.inl here)
    · exact .inr (.inr here)
  · obtain ⟨opened, socket, connected⟩ := agrees.of_finished finished
    exact ⟨opened, socket, fun sends => by simp [send, connected]⟩

/-- A user connects; then the worker waits in `recv` on the seventh socket. -/
def connecting : List Action :=
  .connect :: List.replicate 7 .proceed ++
    [.run {}, .run { addresses := some 1 }, .run { candidate := some 7 },
      .run { connects := true }, .run {}, .run {}, .run { sends := true }, .run {}, .run {}]

theorem sockets_used_while_open_receiving :
    (system.run {} connecting).uses (.run {}) = some 7 ∧
      (system.run {} connecting).opened = [7] := by
  have reachable : system.Reachable (system.run {} connecting) :=
    (Transition.System.Reachable.start rfl).run (by decide)
  have uses : (system.run {} connecting).uses (.run {}) = some 7 := by decide
  exact ⟨uses, (sockets_used_while_open reachable).1 _ _ uses⟩

/-! ### Disconnecting -/

/-- How many steps a worker that is asked to stop has left at most. -/
def remaining : RunPoint → Nat
  | .returned => 0
  | .closed | .unconnected | .unresolved => 1
  | .closing _ | .choosing _ => 2
  | .withdrawing _ | .discarding _ _ | .resolving => 3
  | .leaving _ | .entered => 4
  | .looping _ => 5
  | .pinging _ | .loginSent _ _ => 6
  | .receiving _ | .loggingIn _ => 7
  | .published _ => 8
  | .established _ => 9
  | .trying _ _ => 10

/-- The rank of a client is what its worker has left. -/
def rank (client : SignalingClient) : Nat := client.worker.elim 0 remaining

theorem rank_run (stops : client.stopRequested = true) {point : RunPoint}
    (unfinished : point ≠ .returned) (answers : RunAnswers) :
    (client.run answers point).rank < remaining point := by
  cases point with
  | choosing addresses =>
    cases addresses with
    | zero => simp [SignalingClient.run, rank, goTo, remaining]
    | succ addresses => simp [SignalingClient.run, stops, rank, goTo, remaining]
  | looping handle => simp [SignalingClient.run, stops, rank, goTo, remaining]
  | returned => exact absurd rfl unfinished
  | _ =>
    unfold SignalingClient.run
    repeat' split
    all_goals simp_all [rank, goTo, remaining]

def Action.isRun : Action → Bool
  | .run _ => true
  | _ => false

/-- The owner does nothing but wait. -/
def awaiting : Transition.System SignalingClient Action :=
  system.restrict fun _ action => action ≠ .proceed

/-- The owner waits in `Disconnect` for a worker that is asked to stop. -/
def Waits (client : SignalingClient) : Prop :=
  client.stopRequested = true ∧ ∃ restarts, client.owner = .joining restarts

theorem Waits.next (waits : client.Waits) {action : Action}
    (allowed : awaiting.allowed client action) :
    (client.next action).Waits ∧
      (action.isRun = true → (client.next action).rank < client.rank) ∧
      (action.isRun = false → (client.next action).rank ≤ client.rank) := by
  obtain ⟨stops, restarts, here⟩ := waits
  obtain ⟨possible, patient⟩ := allowed
  cases action with
  | connect | disconnect => cases here.symm.trans possible
  | proceed => exact absurd rfl patient
  | send sends => exact ⟨⟨stops, restarts, here⟩, by simp [Action.isRun], fun _ => le_refl _⟩
  | run answers =>
    cases worker : client.worker with
    | none => exact absurd (.inl worker) possible.1
    | some point =>
      have moved : client.next (.run answers) = client.run answers point := by
        rw [SignalingClient.next, worker]
      have unfinished : point ≠ .returned := by
        rintro rfl
        exact possible.1 (.inr worker)
      rw [moved]
      refine ⟨⟨?_, restarts, ?_⟩, fun _ => ?_, by simp [Action.isRun]⟩
      · rw [run_stopRequested, stops]
      · rw [run_owner, here]
      · have same : client.rank = remaining point := by simp [rank, worker]
        rw [same]
        exact rank_run stops unfinished answers

theorem rank_le (client : SignalingClient) : client.rank ≤ 10 := by
  unfold rank
  cases client.worker with
  | none => decide
  | some point => cases point <;> simp [remaining]

/-- While the owner waits in `Disconnect`, the worker takes at most ten more steps, however the
other threads go on, and after each either the worker can take another or the owner goes on. -/
theorem disconnect_returns (reachable : system.Reachable client) {restarts : Bool}
    (waits : client.owner = .joining restarts) {actions : List Action}
    (allows : awaiting.Allows client actions) :
    actions.countP Action.isRun ≤ 10 ∧
      ((system.run client actions).Allowed .proceed ∨
        (system.run client actions).Allowed (.run {})) := by
  have start : client.Waits :=
    ⟨(sound_of_reachable reachable).stops restarts none (.inr (.inr waits)), restarts, waits⟩
  obtain ⟨⟨-, restarts, here⟩, bound⟩ :
      (system.run client actions).Waits ∧
        actions.countP Action.isRun + (system.run client actions).rank ≤ client.rank :=
    allows.progress (fun _ _ waits allowed => Waits.next waits allowed) start
  refine ⟨(Nat.le_add_right _ _).trans (bound.trans (rank_le client)), ?_⟩
  by_cases finished : (system.run client actions).Finished
  · refine .inl ⟨?_, fun _ => finished⟩
    rw [here]
    simp
  · exact .inr ⟨finished, by simp⟩

/-- The worker waits in `recv`; the owner calls `Disconnect`, shuts the socket down and joins. -/
def disconnecting : List Action :=
  connecting ++ .disconnect :: List.replicate 3 .proceed

theorem disconnect_returns_receiving :
    let client := system.run {} disconnecting
    let after := system.run client (List.replicate 5 (.run {}))
    client.worker = some (.receiving 7) ∧ after.worker = some .returned ∧
      (after.Allowed .proceed ∨ after.Allowed (.run {})) := by
  intro client after
  have reachable : system.Reachable client :=
    (Transition.System.Reachable.start rfl).run (by decide)
  have waits : client.owner = .joining false := by decide
  have allows : awaiting.Allows client (List.replicate 5 (.run {})) :=
    ⟨⟨by decide, nofun⟩, ⟨by decide, nofun⟩, ⟨by decide, nofun⟩, ⟨by decide, nofun⟩,
      ⟨by decide, nofun⟩, trivial⟩
  exact ⟨by decide, by decide, (disconnect_returns reachable waits allows).2⟩

end SignalingClient

end RemoteControl

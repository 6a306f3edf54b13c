/-
This file models the connect button of the dialog over the threads of the signaling
client: `OnBnClickedConnect`, `OnSignalingState` and the handlers that enable the
button when a call ends.

A click disables the button, and only a message of the worker enables it again, so
the worker must not end without one. It does end without one when it is asked to
stop, but then the owner is inside `Connect` and starts another worker.
-/

import RemoteControl.Signaling.Client

namespace RemoteControl

/-- The dialog's part in a signaling connection. -/
structure SignalingControls where
  client : SignalingClient := {}
  connectEnabled : Bool := true

namespace SignalingControls

variable (controls : SignalingControls)

/-! ### Handlers -/

/-- `SignalingClient::Connect`, up to its first wait; none when it returns false. -/
def connect (host userId : List UInt16) (port : UInt16) : Option SignalingClient :=
  if host = [] ∨ userId = [] ∨ port = 0 then none else some (controls.client.next .connect)

/-- `OnBnClickedConnect`, for the texts of the edit controls and the number `wcstoul` reads. A
click on a connected client starts a session instead, which leaves the button alone. -/
def onBnClickedConnect (server userId : List UInt16) (port : Nat) : SignalingControls :=
  if controls.client.connected then controls
  else if server = [] ∨ userId = [] ∨ port = 0 ∨ port > 65535 then controls
  else
    match controls.connect server userId (UInt16.ofNat port) with
    | none => { controls with connectEnabled := true }
    | some client => { client, connectEnabled := false }

/-- Whether `OnSignalingState` enables the button. -/
def enabledIn : SignalingConnectionState → Bool
  | .connected => true
  | state => state = .disconnected || state = .failed

/-- `OnSignalingState`, for the message that was posted first. -/
def onSignalingState : SignalingControls :=
  match controls.client.posted with
  | [] => controls
  | state :: posted =>
    { client := { controls.client with posted }, connectEnabled := enabledIn state }

/-- The last lines of the `hangup` branch of `DispatchSignalingMessage`; `OnBnClickedHangup` and
`OnSessionState` have the same ones under `IsConnected`. -/
def callEnded (checked : Bool) : SignalingControls :=
  if checked && !controls.client.connected then controls
  else { controls with connectEnabled := true }

/-- One step of the program. -/
inductive Action where
  | click (server userId : List UInt16) (port : Nat)
  | signalingState
  | callEnded (checked : Bool)
  /-- `Connect` goes on in the dialog's thread. -/
  | proceed
  | run (answers : RunAnswers)
  | send (sends : Bool)

def next : Action → SignalingControls
  | .click server userId port => controls.onBnClickedConnect server userId port
  | .signalingState => controls.onSignalingState
  | .callEnded checked => controls.callEnded checked
  | .proceed => { controls with client := controls.client.next .proceed }
  | .run answers => { controls with client := controls.client.next (.run answers) }
  | .send sends => { controls with client := controls.client.next (.send sends) }

/-- The handlers run in the thread that `Connect` holds up, and a disabled button takes no
clicks. -/
def Allowed : Action → Prop
  | .click _ _ _ => controls.client.owner = .idle ∧ controls.connectEnabled = true
  | .signalingState | .callEnded _ => controls.client.owner = .idle
  | .proceed => controls.client.Allowed .proceed
  | .run answers => controls.client.Allowed (.run answers)
  | .send sends => controls.client.Allowed (.send sends)

instance : ∀ action, Decidable (controls.Allowed action)
  | .click _ _ _ => inferInstanceAs (Decidable (_ ∧ _))
  | .signalingState | .callEnded _ => inferInstanceAs (Decidable (_ = _))
  | .proceed => inferInstanceAs (Decidable (controls.client.Allowed .proceed))
  | .run answers => inferInstanceAs (Decidable (controls.client.Allowed (.run answers)))
  | .send sends => inferInstanceAs (Decidable (controls.client.Allowed (.send sends)))

/-- The program from its start to the end of its window. -/
def system : Transition.System SignalingControls Action where
  initial controls := controls = {}
  allowed := Allowed
  next := next

instance : ∀ state action, Decidable (system.allowed state action) :=
  fun state action => inferInstanceAs (Decidable (state.Allowed action))

/-! ### The button -/

/-- The button once the posted messages are dispatched. -/
def shown : Bool := controls.client.posted.foldl (fun _ => enabledIn) controls.connectEnabled

/-- The worker will still report whether it connected. -/
def undecided : RunPoint → Bool
  | .entered | .resolving | .unresolved | .choosing _ | .trying _ _ | .discarding _ _
  | .unconnected | .established _ | .published _ | .loggingIn _ | .loginSent _ _ => true
  | _ => false

/-- The owner is inside `Connect`. -/
def restarting : OwnerPoint → Bool
  | .idle => false
  | .requestingStop restarts | .readingSocket restarts | .shuttingDown restarts _
  | .joining restarts | .joined restarts => restarts
  | .clearingStop | .starting => true

/-- What the connect button waits for. -/
structure Sound (controls : SignalingControls) : Prop where
  owner : controls.client.owner = .idle ∨ restarting controls.client.owner = true
  unasked : controls.client.owner = .idle ∨ controls.client.owner = .starting →
    controls.client.stopRequested = false
  answered : controls.shown = true ∨ controls.client.worker.any undecided = true ∨
    restarting controls.client.owner = true

variable {controls}

theorem sound_start : Sound {} := ⟨.inl rfl, fun _ => rfl, .inl rfl⟩

/-- A click leaves an enabled button alone, or the owner enters `Connect`. -/
theorem onBnClickedConnect_cases (enabled : controls.connectEnabled = true)
    (server userId : List UInt16) (port : Nat) :
    controls.onBnClickedConnect server userId port = controls ∨
      controls.onBnClickedConnect server userId port = ⟨controls.client.next .connect, false⟩ := by
  unfold onBnClickedConnect connect
  repeat' split
  case h_1 => exact .inl (by rw [← enabled])
  all_goals simp_all

/-- A report enables the button, unless it says that the worker has begun. -/
theorem shown_report (client : SignalingClient) (state : SignalingConnectionState)
    (connectEnabled : Bool) :
    shown ⟨client.reportState state, connectEnabled⟩ = enabledIn state := by
  simp [shown, SignalingClient.reportState]

/-- What a step of the worker does to the button. -/
theorem run_answered {client : SignalingClient} {point : RunPoint} {connectEnabled : Bool}
    (unasked : client.stopRequested = false) (answers : RunAnswers)
    (answered : shown ⟨client, connectEnabled⟩ = true ∨ undecided point = true) :
    shown ⟨client.run answers point, connectEnabled⟩ = true ∨
      (client.run answers point).worker.any undecided = true := by
  cases point with
  | entered | resolving | trying handle addresses | discarding handle addresses
  | established handle | published handle | loggingIn handle =>
    rw [SignalingClient.run]
    repeat' split
    all_goals exact .inr rfl
  | choosing addresses =>
    cases addresses <;> rw [SignalingClient.run]
    · exact .inr rfl
    · repeat' split
      all_goals exact .inr rfl
  | unresolved => exact .inl (shown_report client .failed connectEnabled)
  | unconnected | closed =>
    rw [SignalingClient.run]
    simp only [unasked, Bool.false_eq_true, if_false]
    exact .inl (shown_report client _ connectEnabled)
  | loginSent handle sent =>
    refine .inl ((shown_report client _ connectEnabled).trans ?_)
    cases sent <;> rfl
  | looping handle | receiving handle | pinging handle =>
    have shown := answered.resolve_right (by simp [undecided])
    rw [SignalingClient.run]
    split <;> exact .inl shown
  | leaving handle | withdrawing handle | closing handle | returned =>
    exact .inl (answered.resolve_right (by simp [undecided]))

theorem Sound.run (sound : controls.Sound) {answers : RunAnswers}
    (allowed : controls.Allowed (.run answers)) : (controls.next (.run answers)).Sound := by
  obtain ⟨client, connectEnabled⟩ := controls
  obtain ⟨owner, unasked, answered⟩ := sound
  cases here : client.worker with
  | none => exact absurd (.inl here) allowed.1
  | some point =>
    have moved : client.next (.run answers) = client.run answers point := by
      simp [SignalingClient.next, here]
    have kept : (client.run answers point).owner = client.owner :=
      SignalingClient.run_owner answers point
    unfold SignalingControls.next
    simp only [moved]
    refine ⟨?_, ?_, ?_⟩ <;> simp only [kept, SignalingClient.run_stopRequested]
    · exact owner
    · exact unasked
    · rcases owner with idle | busy
      · have still := answered.imp_right (·.resolve_right fun busy => by
        have never : restarting .idle = true := idle ▸ busy
        cases never)
        simp only [here, Option.any_some] at still
        exact (run_answered (unasked (.inl idle)) answers still).imp_right .inl
      · exact .inr (.inr busy)

theorem Sound.proceed (sound : controls.Sound) (allowed : controls.Allowed .proceed) :
    (controls.next .proceed).Sound := by
  obtain ⟨client, connectEnabled⟩ := controls
  have busy := sound.owner.resolve_left allowed.1
  have unasked := sound.unasked
  simp only at busy unasked
  unfold SignalingControls.next SignalingClient.next SignalingClient.proceed
  cases here : client.owner with
  | idle => exact absurd here allowed.1
  | requestingStop restarts | readingSocket restarts | shuttingDown restarts _ | joining restarts =>
    rw [here] at busy
    exact ⟨.inr busy, by simp, .inr (.inr busy)⟩
  | joined restarts =>
    rw [here] at busy
    cases restarts with
    | false => cases busy
    | true => exact ⟨.inr rfl, by simp, .inr (.inr rfl)⟩
  | clearingStop => exact ⟨.inr rfl, by simp, .inr (.inr rfl)⟩
  | starting => exact ⟨.inl rfl, fun _ => unasked (.inr here), .inr (.inl rfl)⟩

theorem Sound.next (sound : controls.Sound) {action : Action}
    (allowed : controls.Allowed action) : (controls.next action).Sound := by
  obtain ⟨owner, unasked, answered⟩ := sound
  cases action with
  | proceed => exact Sound.proceed ⟨owner, unasked, answered⟩ allowed
  | run answers => exact Sound.run ⟨owner, unasked, answered⟩ allowed
  | send sends => exact ⟨owner, unasked, answered⟩
  | click server userId port =>
    rcases onBnClickedConnect_cases allowed.2 server userId port with same | entered
    · rw [SignalingControls.next, same]
      exact ⟨owner, unasked, answered⟩
    · rw [SignalingControls.next, entered]
      exact ⟨.inr rfl, by simp [SignalingClient.next], .inr (.inr rfl)⟩
  | signalingState =>
    rw [SignalingControls.next, onSignalingState]
    split
    · exact ⟨owner, unasked, answered⟩
    case h_2 state posted queued =>
      refine ⟨owner, unasked, ?_⟩
      simp only [shown, queued, List.foldl_cons] at answered
      exact answered
  | callEnded checked =>
    rw [SignalingControls.next, SignalingControls.callEnded]
    split
    · exact ⟨owner, unasked, answered⟩
    · refine ⟨owner, unasked, answered.imp_left fun before => ?_⟩
      unfold shown at before ⊢
      cases queued : controls.client.posted with
      | nil => rfl
      | cons state posted => simpa only [queued, List.foldl_cons] using before

/-! ### The worker decides -/

/-- The worker alone goes on, has not reported yet, and finds a bounded number of addresses. -/
def deciding (addresses : Nat) : Transition.System SignalingClient SignalingClient.Action :=
  SignalingClient.system.restrict fun client action =>
    client.worker.any undecided = true ∧ action ≠ .proceed ∧
      ∀ answers, action = .run answers → ∀ found ∈ answers.addresses, found ≤ addresses

/-- How many steps a worker takes at most before it has reported. -/
def effort (addresses : Nat) : RunPoint → Nat
  | .entered => 3 * addresses + 7
  | .resolving => 3 * addresses + 6
  | .choosing left => 3 * left + 5
  | .trying _ left => 3 * left + 7
  | .discarding _ left => 3 * left + 6
  | .established _ => 4
  | .published _ => 3
  | .loggingIn _ => 2
  | .loginSent _ _ | .unconnected | .unresolved => 1
  | _ => 0

theorem effort_run {client : SignalingClient} {point : RunPoint} {answers : RunAnswers}
    {addresses : Nat} (before : undecided point = true)
    (found : ∀ number ∈ answers.addresses, number ≤ addresses) :
    (client.run answers point).worker.elim 0 (effort addresses) < effort addresses point := by
  cases point with
  | resolving =>
    rw [SignalingClient.run]
    cases here : answers.addresses with
    | none => simp [SignalingClient.goTo, effort]
    | some number =>
      have := found number here
      simp only [SignalingClient.goTo, effort, Option.elim_some]
      omega
  | choosing left =>
    cases left <;> rw [SignalingClient.run]
    · simp [SignalingClient.goTo, effort]
    · repeat' split
      all_goals simp only [SignalingClient.goTo, effort, Option.elim_some]; omega
  | looping handle | receiving handle | pinging handle | leaving handle | withdrawing handle
  | closing handle | closed | returned => cases before
  | entered | unresolved | trying handle left | discarding handle left | unconnected
  | established handle | published handle | loggingIn handle | loginSent handle sent =>
    rw [SignalingClient.run]
    repeat' split
    all_goals simp [SignalingClient.goTo, effort]

/-- How many steps the worker of a client takes at most before it has reported. -/
def workLeft (addresses : Nat) (client : SignalingClient) : Nat :=
  client.worker.elim 0 (effort addresses)

theorem deciding_bound {client : SignalingClient} {addresses : Nat}
    {actions : List SignalingClient.Action} (allows : (deciding addresses).Allows client actions) :
    actions.countP SignalingClient.Action.isRun ≤ workLeft addresses client := by
  have lowers (before : SignalingClient) (action : SignalingClient.Action)
      (allowed : (deciding addresses).allowed before action) (runs : action.isRun = true) :
      workLeft addresses (before.next action) < workLeft addresses before := by
    obtain ⟨-, waiting, -, found⟩ := allowed
    cases action with
    | run answers =>
      unfold workLeft SignalingClient.next
      cases here : before.worker with
      | none => simp [here] at waiting
      | some point => exact effort_run (by simpa [here] using waiting) (found answers rfl)
    | _ => cases runs
  have keeps (before : SignalingClient) (action : SignalingClient.Action)
      (allowed : (deciding addresses).allowed before action) (idles : action.isRun = false) :
      workLeft addresses (before.next action) ≤ workLeft addresses before := by
    obtain ⟨-, -, patient, -⟩ := allowed
    cases action with
    | run answers => cases idles
    | proceed => exact absurd rfl patient
    | _ => exact le_refl _
  -- No condition but the rank.
  have bound : True ∧ actions.countP SignalingClient.Action.isRun +
      workLeft addresses ((deciding addresses).run client actions) ≤ workLeft addresses client :=
    @Transition.System.Allows.progress _ _ _ (fun _ => True) _ _
      (fun before action _ allowed =>
        ⟨trivial, lowers before action allowed, keeps before action allowed⟩) _ trivial _ allows
  exact (Nat.le_add_right _ _).trans bound.2

theorem sound_of_reachable (reachable : system.Reachable controls) : controls.Sound :=
  reachable.invariant (fun _ initial => initial ▸ sound_start)
    fun _ _ _ sound allowed => sound.next allowed

/-- Between two handlers the messages that are posted leave the connect button enabled, or the
worker has not reported yet and nobody asks it to stop. Then it takes at most three steps for each
address, and seven more, to its report, and nothing keeps it from a next step before. -/
theorem connect_button_returns (reachable : system.Reachable controls)
    (idle : controls.client.owner = .idle) :
    controls.shown = true ∨
      controls.client.stopRequested = false ∧ controls.client.worker.any undecided = true ∧
      ∀ addresses actions, (deciding addresses).Allows controls.client actions →
        actions.countP SignalingClient.Action.isRun ≤ workLeft addresses controls.client ∧
        ((SignalingClient.system.run controls.client actions).worker.any undecided = true →
          (SignalingClient.system.run controls.client actions).Allowed (.run {})) := by
  obtain ⟨-, unasked, answered⟩ := sound_of_reachable reachable
  rcases answered with shown | waiting | busy
  · exact .inl shown
  · refine .inr ⟨unasked (.inl idle), waiting, fun addresses actions allows =>
      ⟨deciding_bound allows, fun still => ⟨fun finished => ?_, by simp⟩⟩⟩
    rcases finished with none | ended
    · simp [none] at still
    · simp [ended, undecided] at still
  · rw [idle] at busy
    cases busy

/-- A user connects; the server takes the login and closes the connection again. -/
def roundTrip : List Action :=
  .click [49] [50] 8000 :: List.replicate 7 .proceed ++
    [.run {}, .run { addresses := some 1 }, .run { candidate := some 7 },
      .run { connects := true }, .run {}, .run {}, .run { sends := true }, .run {},
      .signalingState, .run {}, .run {}, .run {}, .run {}, .run {}, .run {}]

theorem connect_button_returns_closed :
    (system.run {} roundTrip).connectEnabled = false ∧ (system.run {} roundTrip).shown = true := by
  have reachable : system.Reachable (system.run {} roundTrip) :=
    (Transition.System.Reachable.start rfl).run (by decide)
  refine ⟨by decide, ?_⟩
  rcases connect_button_returns reachable (by decide) with shown | waiting
  · exact shown
  · exact absurd waiting.2.1 (by decide)

end SignalingControls

end RemoteControl

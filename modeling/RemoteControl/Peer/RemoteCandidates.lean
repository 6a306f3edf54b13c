/-
This file follows the remote candidates of one negotiation through two threads. The
UI thread takes them in, the signaling thread hands them over when the remote
description is set. Each decides under the lock who applies which candidates, and
applies them outside of it, so that the two may take turns between any two calls of
`AddCandidate`. A run ends where `Close` begins.
-/

import Mathlib.Data.List.Perm.Basic
import RemoteControl.Peer.LocalCandidates

namespace RemoteControl.Peer

/-! ### The critical sections -/

namespace PeerSession

variable {Callback : Type} (session : PeerSession Callback)

/-- `AddRemoteCandidate` up to the end of its critical section: the candidate either waits or is
for the caller to apply. -/
def admitRemoteCandidate (candidate : IceCandidate) :
    PeerSession Callback × Option IceCandidate :=
  if session.peerConnection = false ∨ candidate.candidate = [] ∨ session.closed then (session, none)
  else if session.remoteDescriptionSet = false then
    ({ session with
        pendingRemoteCandidates := session.pendingRemoteCandidates ++ [candidate] }, none)
  else (session, some candidate)

/-- `AddRemoteCandidate` applies what its critical section leaves to it. -/
theorem addRemoteCandidate_eq (candidate : IceCandidate) :
    session.addRemoteCandidate candidate =
      ((session.admitRemoteCandidate candidate).1,
        (session.admitRemoteCandidate candidate).2.toList.map fun candidate =>
          .request session.peerConnection (.addCandidate candidate)) := by
  rw [addRemoteCandidate, admitRemoteCandidate]
  split
  · rfl
  · split <;> rfl

/-- `MarkRemoteDescriptionSet` up to the end of its critical section: the candidates that waited
are for the caller to apply. -/
def swapRemoteCandidates : PeerSession Callback × List IceCandidate :=
  if session.closed then (session, [])
  else
    ({ session with remoteDescriptionSet := true, pendingRemoteCandidates := [] },
      session.pendingRemoteCandidates)

/-- `MarkRemoteDescriptionSet` applies what its critical section leaves to it. -/
theorem markRemoteDescriptionSet_eq :
    session.markRemoteDescriptionSet =
      (session.swapRemoteCandidates.1,
        if session.peerConnection then
          session.swapRemoteCandidates.2.map fun candidate =>
            .request true (.addCandidate candidate)
        else []) := by
  rw [markRemoteDescriptionSet, swapRemoteCandidates]
  split
  · cases session.peerConnection <;> rfl
  · rfl

/-- What a session knows about the remote side. -/
def remote : Bool × List IceCandidate :=
  (session.remoteDescriptionSet, session.pendingRemoteCandidates)

/-- Only the completion of `SetRemoteDescription` touches it. -/
theorem remote_handle {event : SessionEvent} (other : event ≠ .remoteOfferSet)
    (noAnswer : event ≠ .remoteAnswerSet) : (session.handle event).1.remote = session.remote :=
  session.view_handle remote (fun _ _ => rfl) event
    (fun marks => marks.elim (fun same => absurd same other) fun same => absurd same noAnswer)
    (fun _ _ _ _ => rfl) (fun _ _ => rfl) (fun _ _ _ _ => rfl) (fun _ => rfl) fun _ _ => rfl

end PeerSession

/-! ### The two threads -/

/-- How far the negotiation is: no call yet, an offer made, the remote description being set, set,
or refused. -/
inductive Stage where
  | fresh
  | offered
  | describing
  | described
  | refused
  deriving DecidableEq

/-- The session between its two threads. -/
structure Handover (Callback : Type) where
  session : PeerSession Callback
  stage : Stage := .fresh
  /-- What the UI thread is about to apply. -/
  held : Option IceCandidate := none
  /-- What the signaling thread is about to apply, in order. -/
  swapped : List IceCandidate := []
  /-- The candidates that were passed to `AddCandidate`. -/
  applied : List IceCandidate := []

/-- A call or a critical section of either thread, or one `AddCandidate` outside of it. -/
inductive HandoverAction (Callback : Type) where
  | createOffer (callback : Callback)
  | applyRemoteOffer (sdp : ByteString) (callback : Callback)
  | applyRemoteAnswer (sdp : ByteString)
  | admitRemoteCandidate (candidate : IceCandidate)
  | addHeld
  | swapRemoteCandidates
  | addSwapped
  /-- `SetRemoteDescription` fails. -/
  | refuse
  /-- Any callback but the completion of `SetRemoteDescription`. -/
  | callback (event : SessionEvent)

/-- The non-empty candidate that an action passes to `AddRemoteCandidate`. -/
def HandoverAction.given {Callback : Type} : HandoverAction Callback → Option IceCandidate
  | .admitRemoteCandidate candidate =>
    if candidate.candidate = [] then none else some candidate
  | _ => none

/-- The critical section that the completion of `SetRemoteDescription` runs. -/
def HandoverAction.completes {Callback : Type} : HandoverAction Callback → Bool
  | .swapRemoteCandidates => true
  | _ => false

namespace Handover

variable {Callback : Type}

/-- What an action does. -/
def next (handover : Handover Callback) : HandoverAction Callback → Handover Callback
  | .createOffer callback =>
    { handover with session := (handover.session.createOffer callback).1, stage := .offered }
  | .applyRemoteOffer sdp callback =>
    { handover with
      session := (handover.session.applyRemoteOffer sdp callback).1
      stage := .describing }
  | .applyRemoteAnswer _ => { handover with stage := .describing }
  | .admitRemoteCandidate candidate =>
    let (session, held) := handover.session.admitRemoteCandidate candidate
    { handover with session, held }
  | .addHeld => { handover with held := none, applied := handover.applied ++ handover.held.toList }
  | .swapRemoteCandidates =>
    let (session, swapped) := handover.session.swapRemoteCandidates
    { handover with session, swapped := handover.swapped ++ swapped, stage := .described }
  | .addSwapped =>
    { handover with
      swapped := handover.swapped.tail
      applied := handover.applied ++ handover.swapped.head?.toList }
  | .refuse => { handover with session := handover.session.failNegotiation.1, stage := .refused }
  | .callback event => { handover with session := (handover.session.handle event).1 }

/-- One negotiation on a freshly created session: an offer of the other user, or an own offer
before any remote candidate and then the answer. The UI thread does one thing at a time. -/
def system : Transition.System (Handover Callback) (HandoverAction Callback) where
  initial handover :=
    ∃ session : PeerSession Callback, session.closed = false ∧ session.peerConnection = true ∧
      session.remote = (false, []) ∧ handover = { session }
  allowed handover
    | .createOffer _ =>
      handover.stage = .fresh ∧ handover.session.pendingRemoteCandidates = [] ∧
        handover.held = none
    | .applyRemoteOffer _ _ => handover.stage = .fresh ∧ handover.held = none
    | .applyRemoteAnswer _ => handover.stage = .offered ∧ handover.held = none
    | .admitRemoteCandidate _ => handover.held = none
    | .swapRemoteCandidates | .refuse => handover.stage = .describing
    | .callback event => event ≠ .remoteOfferSet ∧ event ≠ .remoteAnswerSet
    | .addHeld | .addSwapped => True
  next := next

/-- Every candidate that was given is in one place, and on one side of the remote description. -/
structure Sound (given : List IceCandidate) (handover : Handover Callback) : Prop where
  opened : handover.session.closed = false
  connected : handover.session.peerConnection = true
  kept : (handover.session.pendingRemoteCandidates ++ handover.held.toList ++ handover.swapped ++
    handover.applied).Perm given
  early : handover.stage ≠ .described → handover.session.remoteDescriptionSet = false ∧
    handover.held = none ∧ handover.swapped = [] ∧ handover.applied = []
  late : handover.stage = .described → handover.session.remote = (true, [])

section

variable {handover after : Handover Callback} {given : List IceCandidate}

/-- An action that moves no candidate. -/
theorem Sound.still (sound : handover.Sound given) (session : PeerSession Callback)
    (fixtures : session.fixtures = handover.session.fixtures)
    (remote : session.remote = handover.session.remote) {stage : Stage}
    (described : stage = .described ↔ handover.stage = .described) :
    Sound given { handover with session, stage } := by
  have set : session.remoteDescriptionSet = handover.session.remoteDescriptionSet :=
    congrArg Prod.fst remote
  have pending : session.pendingRemoteCandidates = handover.session.pendingRemoteCandidates :=
    congrArg Prod.snd remote
  refine ⟨?_, ?_, ?_, fun early => ?_, fun late => ?_⟩
  · exact (congrArg (fun fixtures => fixtures.1.2.2.2.1) fixtures).trans sound.opened
  · exact (congrArg (fun fixtures => fixtures.1.2.2.2.2) fixtures).trans sound.connected
  · show (session.pendingRemoteCandidates ++ _ ++ _ ++ _).Perm _
    rw [pending]
    exact sound.kept
  · show session.remoteDescriptionSet = false ∧ _
    rw [set]
    exact sound.early (mt described.mpr early)
  · exact remote.trans (sound.late (described.mp late))

/-- `CreateOffer` comes before any candidate, so that it drops none. -/
theorem Sound.createOffer (sound : handover.Sound given) (fresh : handover.stage = .fresh)
    (first : handover.session.pendingRemoteCandidates = []) (callback : Callback) :
    (handover.next (.createOffer callback)).Sound given := by
  have early : handover.stage ≠ .described := by
    rw [fresh]
    decide
  have remote : handover.session.remote = (false, []) := by
    rw [PeerSession.remote, (sound.early early).1, first]
  refine sound.still _ (PeerSession.fixtures_createOffer _ _) ?_ (iff_of_false (by decide) early)
  rw [PeerSession.createOffer]
  split
  · rfl
  · rw [remote]
    exact PeerSession.view_updateState _ PeerSession.remote (fun _ _ => rfl) _

/-- `ApplyRemoteOffer` keeps the candidates that came early. -/
theorem Sound.applyRemoteOffer (sound : handover.Sound given) (fresh : handover.stage = .fresh)
    (sdp : ByteString) (callback : Callback) :
    (handover.next (.applyRemoteOffer sdp callback)).Sound given := by
  have early : handover.stage ≠ .described := by
    rw [fresh]
    decide
  have remote : handover.session.remote = (false, handover.session.pendingRemoteCandidates) := by
    rw [PeerSession.remote, (sound.early early).1]
  refine sound.still _ (PeerSession.fixtures_applyRemoteOffer _ _ _) ?_
    (iff_of_false (by decide) early)
  rw [PeerSession.applyRemoteOffer]
  split
  · rfl
  · rw [remote]
    exact PeerSession.view_updateState _ PeerSession.remote (fun _ _ => rfl) _

/-- A candidate that is taken in waits before the remote description is set, and is held from then
on. -/
theorem Sound.admitRemoteCandidate (sound : handover.Sound given) (idle : handover.held = none)
    (candidate : IceCandidate) :
    (handover.next (.admitRemoteCandidate candidate)).Sound
      (given ++ (@HandoverAction.given Callback (.admitRemoteCandidate candidate)).toList) := by
  obtain ⟨opened, connected, kept, early, late⟩ := sound
  rw [idle] at kept
  have moved : (handover.session.pendingRemoteCandidates ++ [candidate] ++ handover.swapped ++
      handover.applied).Perm (given ++ [candidate]) := by
    refine List.Perm.trans ?_ (kept.append_right _)
    rw [List.perm_iff_count]
    intro counted
    simp only [List.count_append, Option.toList_none, List.count_nil]
    omega
  rw [next, PeerSession.admitRemoteCandidate, HandoverAction.given]
  by_cases empty : candidate.candidate = []
  · rw [if_pos (Or.inr (Or.inl empty)), if_pos empty, Option.toList_none, List.append_nil]
    exact ⟨opened, connected, kept, fun before => ⟨(early before).1, rfl, (early before).2.2⟩, late⟩
  have admitted : ¬ (handover.session.peerConnection = false ∨ candidate.candidate = [] ∨
      handover.session.closed = true) := by
    rw [connected, opened]
    simp only [Bool.true_eq_false, empty, Bool.false_eq_true, or_self, not_false_eq_true]
  rw [if_neg admitted, if_neg empty]
  cases described : handover.session.remoteDescriptionSet with
  | false =>
    rw [if_pos rfl]
    refine ⟨opened, connected, ?_, fun before => ⟨rfl, rfl, (early before).2.2⟩, fun after => ?_⟩
    · show ((_ ++ [candidate]) ++ [] ++ _ ++ _).Perm _
      rw [List.append_nil]
      exact moved
    · cases described.symm.trans (congrArg Prod.fst (late after))
  | true =>
    rw [if_neg Bool.true_eq_false.mp]
    refine ⟨opened, connected, moved, fun before => ?_, late⟩
    cases described.symm.trans (early before).1

theorem Sound.addHeld (sound : handover.Sound given) : (handover.next .addHeld).Sound given := by
  obtain ⟨opened, connected, kept, early, late⟩ := sound
  refine ⟨opened, connected, List.Perm.trans ?_ kept, fun before => ?_, late⟩
  · rw [List.perm_iff_count]
    intro counted
    simp only [next, List.count_append, Option.toList_none, List.count_nil]
    omega
  · obtain ⟨set, idle, swapped, applied⟩ := early before
    refine ⟨set, rfl, swapped, ?_⟩
    show handover.applied ++ handover.held.toList = []
    rw [applied, idle]
    rfl

/-- The swap empties the candidates that waited. -/
theorem Sound.swapRemoteCandidates (sound : handover.Sound given) :
    (handover.next .swapRemoteCandidates).Sound given := by
  obtain ⟨opened, connected, kept, -, -⟩ := sound
  rw [next, PeerSession.swapRemoteCandidates, if_neg (Bool.not_eq_true _ ▸ opened)]
  refine ⟨opened, connected, List.Perm.trans ?_ kept, fun before => absurd rfl before, fun _ => rfl⟩
  rw [List.perm_iff_count]
  intro counted
  simp only [List.count_append, List.count_nil]
  omega

theorem Sound.addSwapped (sound : handover.Sound given) :
    (handover.next .addSwapped).Sound given := by
  obtain ⟨opened, connected, kept, early, late⟩ := sound
  refine ⟨opened, connected, List.Perm.trans ?_ kept, fun before => ?_, late⟩
  · rw [List.perm_iff_count]
    intro counted
    have taken : handover.swapped.count counted =
        handover.swapped.head?.toList.count counted + handover.swapped.tail.count counted := by
      cases handover.swapped with
      | nil => rfl
      | cons first rest =>
        show (first :: rest).count counted = [first].count counted + rest.count counted
        rw [← List.count_append]
        rfl
    simp only [next, List.count_append]
    omega
  · obtain ⟨set, idle, swapped, applied⟩ := early before
    refine ⟨set, idle, ?_, ?_⟩
    · show handover.swapped.tail = []
      rw [swapped]
      rfl
    · show handover.applied ++ handover.swapped.head?.toList = []
      rw [applied, swapped]
      rfl

theorem Sound.next {action : HandoverAction Callback} (sound : handover.Sound given)
    (allowed : system.allowed handover action) :
    (handover.next action).Sound (given ++ action.given.toList) := by
  have same (nothing : action.given = none) (later : (handover.next action).Sound given) :
      (handover.next action).Sound (given ++ action.given.toList) := by
    rw [nothing, Option.toList_none, List.append_nil]
    exact later
  cases action with
  | createOffer callback => exact same rfl (sound.createOffer allowed.1 allowed.2.1 callback)
  | applyRemoteOffer sdp callback => exact same rfl (sound.applyRemoteOffer allowed.1 sdp callback)
  | applyRemoteAnswer sdp =>
    refine same rfl (sound.still handover.session rfl rfl (iff_of_false (by decide) ?_))
    rw [allowed.1]
    decide
  | admitRemoteCandidate candidate => exact sound.admitRemoteCandidate allowed candidate
  | addHeld => exact same rfl sound.addHeld
  | swapRemoteCandidates => exact same rfl sound.swapRemoteCandidates
  | addSwapped => exact same rfl sound.addSwapped
  | refuse =>
    refine same rfl (sound.still _ (handover.session.fixtures_handle .negotiationFailed)
      (handover.session.remote_handle (fun same => by cases same) fun same => by cases same)
      (iff_of_false (by decide) ?_))
    rw [show handover.stage = .describing from allowed]
    decide
  | callback event =>
    exact same rfl (sound.still _ (handover.session.fixtures_handle event)
      (handover.session.remote_handle allowed.1 allowed.2) Iff.rfl)

/-- Along a run the candidates are those its actions have given. -/
theorem Sound.run (sound : handover.Sound given) {actions : List (HandoverAction Callback)}
    (allows : system.Allows handover actions) :
    (system.run handover actions).Sound (given ++ actions.filterMap HandoverAction.given) := by
  induction actions generalizing handover given with
  | nil =>
    rw [List.filterMap_nil, List.append_nil]
    exact sound
  | cons action rest inductionHypothesis =>
    have later := inductionHypothesis (sound.next allows.1) allows.2
    have all : (action :: rest).filterMap HandoverAction.given =
        action.given.toList ++ rest.filterMap HandoverAction.given := by
      cases given : action.given <;> simp [given]
    rw [all, ← List.append_assoc]
    exact later

theorem sound_start (initial : system.initial handover) : handover.Sound [] := by
  obtain ⟨session, opened, connected, remote, rfl⟩ := initial
  refine ⟨opened, connected, ?_, fun _ => ⟨congrArg Prod.fst remote, rfl, rfl, rfl⟩,
    fun late => by cases late⟩
  have none : session.pendingRemoteCandidates = [] := congrArg Prod.snd remote
  show (session.pendingRemoteCandidates ++ [] ++ [] ++ []).Perm []
  rw [none]
  exact List.Perm.refl _

/-- The remote description is set by the completion, and stays. -/
theorem described_next {action : HandoverAction Callback}
    (allowed : system.allowed handover action) :
    (handover.next action).stage = .described ↔
      action.completes = true ∨ handover.stage = .described := by
  cases action with
  | createOffer callback | applyRemoteOffer sdp callback | applyRemoteAnswer sdp =>
    refine iff_of_false (by simp [Handover.next]) ?_
    simp [HandoverAction.completes, allowed.1]
  | swapRemoteCandidates => exact iff_of_true rfl (Or.inl rfl)
  | refuse =>
    refine iff_of_false (by simp [Handover.next]) ?_
    simp [HandoverAction.completes, show handover.stage = .describing from allowed]
  | admitRemoteCandidate candidate | addHeld | addSwapped | callback event =>
    simp [Handover.next, HandoverAction.completes]

theorem described_run {actions : List (HandoverAction Callback)}
    (allows : system.Allows handover actions) :
    (system.run handover actions).stage = .described ↔
      actions.any HandoverAction.completes = true ∨ handover.stage = .described := by
  induction actions generalizing handover with
  | nil => simp [Transition.System.run]
  | cons action rest inductionHypothesis =>
    rw [Transition.System.run_cons, inductionHypothesis allows.2, List.any_cons, Bool.or_eq_true]
    show _ ∨ (handover.next action).stage = .described ↔ _
    rw [described_next allows.1, or_left_comm, or_assoc]

end

end Handover

/-- Whatever turns the two threads take, each non-empty candidate that was given waits, or is held
by a thread that is about to apply it, or was applied, exactly once; none is applied before the
remote description is set, and none waits from then on. -/
theorem remote_candidates_applied_once {Callback : Type} {start : Handover Callback}
    (created : Handover.system.initial start) {actions : List (HandoverAction Callback)}
    (allows : Handover.system.Allows start actions) :
    let handover := Handover.system.run start actions
    (handover.session.pendingRemoteCandidates ++ handover.held.toList ++ handover.swapped ++
      handover.applied).Perm (actions.filterMap HandoverAction.given) ∧
    (actions.any HandoverAction.completes = false → handover.applied = []) ∧
    (actions.any HandoverAction.completes = true →
      handover.session.pendingRemoteCandidates = []) := by
  intro handover
  have sound := (Handover.sound_start created).run allows
  have fresh : start.stage ≠ .described := by
    obtain ⟨_, -, -, -, rfl⟩ := created
    exact Stage.noConfusion
  have described : handover.stage = .described ↔ actions.any HandoverAction.completes = true :=
    (Handover.described_run allows).trans (or_iff_left fresh)
  refine ⟨sound.kept, fun before => (sound.early ?_).2.2.2,
    fun after => congrArg Prod.snd (sound.late (described.mpr after))⟩
  exact fun set => Bool.false_ne_true (before.symm.trans (described.mp set))

/-- A session that was just created, before its first call. -/
def freshHandover : Handover Call := { session := createdSession.session }

/-- One candidate comes before the offer and one after it is set; the threads take turns. -/
def candidatesBetween : List (HandoverAction Call) :=
  [.admitRemoteCandidate hostCandidate, .applyRemoteOffer (bytes "v=0") ⟨0, .applyRemoteOffer⟩,
    .swapRemoteCandidates, .admitRemoteCandidate hostCandidate, .addSwapped, .addHeld]

theorem remote_candidates_applied_once_candidatesBetween :
    (Handover.system.run freshHandover candidatesBetween).session.pendingRemoteCandidates = [] ∧
      ((Handover.system.run freshHandover candidatesBetween).applied).Perm
        [hostCandidate, hostCandidate] := by
  have created : Handover.system.initial freshHandover := ⟨_, rfl, rfl, rfl, rfl⟩
  obtain ⟨kept, -, empty⟩ := remote_candidates_applied_once created
    (show Handover.system.Allows freshHandover candidatesBetween from
      ⟨rfl, ⟨rfl, rfl⟩, rfl, rfl, trivial, trivial, trivial⟩)
  exact ⟨empty rfl, kept⟩

end RemoteControl.Peer

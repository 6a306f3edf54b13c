/-
This file follows one negotiation of a session from the call that starts it. The
requests on the way to the local description form a chain: at most one is
outstanding, each completion makes the next, and the last one announces the
description. So it is announced at most once, and the candidates that are gathered
meanwhile wait for it and follow it in their order.
-/

import Mathlib.Data.List.Perm.Basic
import RemoteControl.Peer.Negotiation

namespace RemoteControl.Peer

section

variable {Callback : Type}

/-- The candidate an output passes to the ICE callback. -/
def Output.emitted : Output Callback → Option IceCandidate
  | .iceCandidate _ candidate => some candidate
  | _ => none

/-- Outputs that invoke neither callback pass on no candidate. -/
theorem emitted_of_quiet {outputs : List (Output Callback)}
    (quiet : outputs.filter Output.isOutgoing = []) : outputs.filterMap Output.emitted = [] := by
  refine filterMap_of_quiet quiet fun output silent => ?_
  cases output with
  | iceCandidate remoteUserId candidate => exact absurd rfl silent
  | _ => rfl

theorem outgoing_iceCandidates (remoteUserId : ByteString) (candidates : List IceCandidate) :
    (candidates.map (.iceCandidate remoteUserId) : List (Output Callback)).filter
        Output.isOutgoing = candidates.map (.iceCandidate remoteUserId) := by
  refine List.filter_eq_self.mpr fun output member => ?_
  obtain ⟨candidate, -, rfl⟩ := List.mem_map.mp member
  rfl

theorem emitted_iceCandidates (remoteUserId : ByteString) (candidates : List IceCandidate) :
    (candidates.map (.iceCandidate remoteUserId) : List (Output Callback)).filterMap
        Output.emitted = candidates := by
  rw [List.filterMap_map]
  exact List.filterMap_some

end

/-! ### What the methods pass on -/

namespace PeerSession

section

variable {Callback : Type} (session : PeerSession Callback)

theorem announced_updateState (state : PeerSessionState) :
    (session.updateState state).1.localDescriptionAnnounced = session.localDescriptionAnnounced :=
  congrArg (fun draft => draft.2.1) (session.draft_updateState state)

/-- `Close` leaves a closed session, with the description as announced as it was. -/
theorem close_announced :
    session.close.1.closed = true ∧
      session.close.1.localDescriptionAnnounced = session.localDescriptionAnnounced := by
  rw [close]
  split
  · rename_i closed
    exact ⟨closed, rfl⟩
  · simp only
    split
    · exact ⟨rfl, rfl⟩
    · exact ⟨closed_updateState _ _, announced_updateState _ _⟩

/-- The completion of the local description passes on the description, then the candidates that
wait. -/
theorem announces_handle (opened : session.closed = false) {callback : Callback}
    (pending : session.pendingSdpCallback = some callback) {remoteUserId : ByteString}
    (ice : session.iceCandidateCallback = some remoteUserId) :
    session.handle .localDescriptionSet =
      ({ session with localDescriptionAnnounced := true, pendingLocalCandidates := [] },
        .sdp callback session.pendingLocalSdp session.pendingLocalSdpType ::
          session.pendingLocalCandidates.map (.iceCandidate remoteUserId)) := by
  rw [handle, announceLocalDescription, opened, pending, ice, if_neg Bool.false_ne_true]
  simp only [Option.toList_some, List.map_cons, List.map_nil, List.flatMap_cons, List.flatMap_nil,
    List.append_nil, List.singleton_append]

end

end PeerSession

namespace Negotiation

/-! ### One call -/

/-- The action is a call that starts a negotiation. -/
inductive Starts : SessionAction → Role → Prop where
  | createOffer : Starts .createOffer .createOffer
  | applyRemoteOffer (sdp : ByteString) : Starts (.applyRemoteOffer sdp) .applyRemoteOffer

/-- A session with its ICE callback on which one call starts a negotiation, and nothing starts
another. -/
def oneCall (session : PeerSession Call) (first : SessionAction) :
    Transition.System Negotiation SessionAction where
  initial negotiation := negotiation = ({ session } : Negotiation).next first
  allowed negotiation action :=
    system.allowed negotiation action ∧ ∀ role, ¬ Starts action role
  next := next

/-- The invocations of the SDP and the ICE callback, in order. -/
def outgoing (negotiation : Negotiation) : List (Output Call) :=
  negotiation.outputs.filter Output.isOutgoing

/-- The candidates that were passed to the ICE callback. -/
def emitted (negotiation : Negotiation) : List IceCandidate :=
  negotiation.outputs.filterMap Output.emitted

/-- The outstanding requests on the way to a local description. -/
def chain (negotiation : Negotiation) : Nat :=
  negotiation.outstanding.countP fun entry => entry.2.isLocal

/-- Where a negotiation stands: the description is still to come, or was announced, or never will
be; and the candidates wait for it. -/
structure Ordered (callback : Call) (remoteUserId : ByteString) (negotiation : Negotiation) :
    Prop where
  once : negotiation.chain + negotiation.session.localDescriptionAnnounced.toNat +
    negotiation.failed.toNat ≤ 1
  bound : negotiation.session.closed = false →
    negotiation.session.iceCandidateCallback = some remoteUserId ∧
      negotiation.session.pendingSdpCallback = some callback
  silent : negotiation.session.localDescriptionAnnounced = false → negotiation.outgoing = []
  spoken : negotiation.session.localDescriptionAnnounced = true → ∃ sdp type,
    negotiation.outgoing =
      .sdp callback sdp type :: negotiation.emitted.map (.iceCandidate remoteUserId)
  gathered : negotiation.emitted <+: negotiation.gathered
  pending : negotiation.session.closed = false →
    negotiation.emitted ++ negotiation.session.pendingLocalCandidates = negotiation.gathered ∧
      (negotiation.session.localDescriptionAnnounced = true →
        negotiation.session.pendingLocalCandidates = [])
  late : negotiation.late.filter Output.isOutgoing = []

/-- What a method leaves to a session that is still open: its callbacks, and the candidates that
wait, joined by those it heard. -/
structure Kept (before after : PeerSession Call) (heard : List IceCandidate) : Prop where
  opened : before.closed = false
  ice : after.iceCandidateCallback = before.iceCandidateCallback
  callback : after.pendingSdpCallback = before.pendingSdpCallback
  waiting : after.pendingLocalCandidates = before.pendingLocalCandidates ++ heard
  flushed : before.localDescriptionAnnounced = true → heard = []

/-- A method that leaves the bindings and the draft alone has heard nothing. -/
theorem Kept.of_same {before after : PeerSession Call} (fixtures : after.fixtures = before.fixtures)
    (draft : after.draft = before.draft) (opened : after.closed = false) :
    Kept before after [] where
  opened := (congrArg (fun fixtures => fixtures.1.2.2.2.1) fixtures).symm.trans opened
  ice := congrArg (fun fixtures => fixtures.1.2.2.1) fixtures
  callback := congrArg Prod.fst draft
  waiting := (congrArg (fun draft => draft.2.2) draft).trans (List.append_nil _).symm
  flushed _ := rfl

/-! ### Actions that pass nothing on -/

section

variable {callback : Call} {remoteUserId : ByteString} {negotiation after : Negotiation}

/-- An action that passes nothing on, makes no more than the next request of the chain and lets
what an open session hears wait keeps the order. -/
theorem Ordered.quiet (ordered : negotiation.Ordered callback remoteUserId)
    {outputs : List (Output Call)} (quiet : outputs.filter Output.isOutgoing = [])
    (told : after.outputs = negotiation.outputs ++ outputs)
    (late : after.late =
      if negotiation.session.closed then negotiation.late ++ outputs else negotiation.late)
    (announced : after.session.localDescriptionAnnounced =
      negotiation.session.localDescriptionAnnounced)
    (heard : List IceCandidate) (gathered : after.gathered = negotiation.gathered ++ heard)
    (kept : after.session.closed = false → Kept negotiation.session after.session heard)
    (once : after.chain + after.failed.toNat ≤ negotiation.chain + negotiation.failed.toNat) :
    after.Ordered callback remoteUserId := by
  have outgoing : after.outgoing = negotiation.outgoing := by
    rw [Negotiation.outgoing, told, List.filter_append, quiet, List.append_nil]
    rfl
  have emitted : after.emitted = negotiation.emitted := by
    rw [Negotiation.emitted, told, List.filterMap_append, emitted_of_quiet quiet, List.append_nil]
    rfl
  refine ⟨?_, fun opened => ?_, ?_, ?_, ?_, fun opened => ⟨?_, fun spoken => ?_⟩, ?_⟩
  · have before := ordered.once
    rw [announced]
    omega
  · rw [(kept opened).ice, (kept opened).callback]
    exact ordered.bound (kept opened).opened
  · rw [announced, outgoing]
    exact ordered.silent
  · rw [announced, outgoing, emitted]
    exact ordered.spoken
  · rw [emitted, gathered]
    exact ordered.gathered.trans (List.prefix_append _ _)
  · rw [emitted, gathered, (kept opened).waiting, ← List.append_assoc,
      (ordered.pending (kept opened).opened).1]
  · rw [announced] at spoken
    rw [(kept opened).waiting, (kept opened).flushed spoken, List.append_nil]
    exact (ordered.pending (kept opened).opened).2 spoken
  · rw [late]
    split
    · rw [List.filter_append, ordered.late, quiet]
      rfl
    · exact ordered.late

/-- The chain after a request was answered. -/
theorem chain_answered {position : Nat} {call : Call} {request : Request}
    (present : negotiation.outstanding[position]? = some (call, request)) (answer : Answer) :
    (negotiation.answered position call request answer).chain + request.isLocal.toNat =
      negotiation.chain := by
  obtain ⟨inside, same⟩ := List.getElem?_eq_some_iff.mp present
  have perm := List.getElem_cons_eraseIdx_perm inside
  rw [same] at perm
  rw [chain, chain, ← perm.countP_eq, List.countP_cons]
  cases request.isLocal <;> rfl

/-- The requests that a callback makes when there is a peer connection. -/
theorem countP_asked_handle (session : PeerSession Call) (event : SessionEvent) (call : Call) :
    (((session.handle event).2.filterMap Output.asked).map (call, ·)).countP
        (fun entry => entry.2.isLocal) ≤
      match event with
      | .localDescriptionCreated _ _ | .remoteOfferSet => 1
      | _ => 0 := by
  rw [PeerSession.asked_handle]
  split
  · cases event <;> exact Nat.le_refl _
  · exact Nat.zero_le _

/-- An answer makes at most the next request of the chain, and a failure none. -/
theorem chain_asked {request : Request} {answer : Answer} {event : SessionEvent}
    (answers : request.event answer = some event) (session : PeerSession Call) (call : Call) :
    (((session.handle event).2.filterMap Output.asked).map (call, ·)).countP
        (fun entry => entry.2.isLocal) + (request.isLocal && answer = .failed).toNat ≤
      request.isLocal.toNat := by
  refine Nat.le_trans (Nat.add_le_add_right (countP_asked_handle session event call) _) ?_
  cases request with
  | addCandidate candidate => cases answers
  | createOffer => cases answer <;> cases answers <;> exact Nat.le_refl _
  | createAnswer => cases answer <;> cases answers <;> exact Nat.le_refl _
  | setLocalDescription sdp type =>
    cases answer <;> cases answers
    · exact Nat.zero_le _
    · exact Nat.le_refl _
  | setRemoteDescription sdp type =>
    by_cases offered : type = bytes "offer"
    · rw [Request.isLocal, decide_eq_true offered]
      cases answer <;> cases answers
      · rw [if_pos offered]
        exact Nat.le_refl _
      · exact Nat.le_refl _
    · rw [Request.isLocal, decide_eq_false offered]
      cases answer <;> cases answers
      · rw [if_neg offered]
        exact Nat.le_refl _
      · exact Nat.le_refl _

/-! ### Every action -/

theorem Ordered.applyRemoteAnswer (ordered : negotiation.Ordered callback remoteUserId)
    (sdp : ByteString) :
    (negotiation.next (.applyRemoteAnswer sdp)).Ordered callback remoteUserId := by
  have quiet := negotiation.session.quiet_applyRemoteAnswer sdp
  refine ordered.quiet quiet rfl rfl rfl [] (List.append_nil _).symm (.of_same rfl rfl) ?_
  have same : (negotiation.next (.applyRemoteAnswer sdp)).chain = negotiation.chain := by
    rw [next, ranFor, chain, chain, List.countP_append, PeerSession.applyRemoteAnswer]
    split <;> rfl
  rw [same]
  exact Nat.le_refl _

theorem Ordered.addRemoteCandidate (ordered : negotiation.Ordered callback remoteUserId)
    (item : IceCandidate) :
    (negotiation.next (.addRemoteCandidate item)).Ordered callback remoteUserId := by
  have draft := negotiation.session.draft_addRemoteCandidate item
  exact ordered.quiet (negotiation.session.quiet_addRemoteCandidate item) rfl rfl
    (congrArg (fun draft => draft.2.1) draft) [] (List.append_nil _).symm
    (.of_same (negotiation.session.fixtures_addRemoteCandidate item) draft) (Nat.le_refl _)

theorem Ordered.close (ordered : negotiation.Ordered callback remoteUserId) :
    (negotiation.next .close).Ordered callback remoteUserId := by
  obtain ⟨closed, announced⟩ := negotiation.session.close_announced
  refine ordered.quiet negotiation.session.quiet_close rfl rfl announced []
    (List.append_nil _).symm (fun opened => ?_) (Nat.le_refl _)
  cases closed.symm.trans opened

/-- A completion that is not that of the local description keeps the order. -/
theorem Ordered.answered (ordered : negotiation.Ordered callback remoteUserId) {position : Nat}
    {call : Call} {request : Request} {answer : Answer} {event : SessionEvent}
    (present : negotiation.outstanding[position]? = some (call, request))
    (answers : request.event answer = some event) (other : event ≠ .localDescriptionSet) :
    ((negotiation.answered position call request answer).ranFor call
      (negotiation.session.handle event)).Ordered callback remoteUserId := by
  have noCandidate (candidate : IceCandidate) : event ≠ .iceCandidate candidate := by
    rintro rfl
    exact Request.not_observed answers trivial
  have draft := negotiation.session.draft_handle other noCandidate
  refine ordered.quiet (negotiation.session.quiet_handle other noCandidate) rfl rfl
    (congrArg (fun draft => draft.2.1) draft) [] (List.append_nil _).symm
    (.of_same (negotiation.session.fixtures_handle event) draft) ?_
  have shorter := chain_answered present answer
  have asked := chain_asked answers negotiation.session call
  show List.countP _ (_ ++ _) + (negotiation.failed || _).toNat ≤ _
  rw [List.countP_append]
  have fails : (negotiation.failed || (request.isLocal && answer = .failed)).toNat ≤
      negotiation.failed.toNat + (request.isLocal && answer = .failed).toNat := by
    cases negotiation.failed <;> cases (request.isLocal && answer = .failed) <;> decide
  rw [chain] at shorter
  omega

/-- The first announcement passes on the description and everything that was gathered. -/
theorem Ordered.announce (ordered : negotiation.Ordered callback remoteUserId)
    (unannounced : negotiation.session.localDescriptionAnnounced = false)
    (opened : negotiation.session.closed = false) {sdp type : ByteString}
    (session : after.session = { negotiation.session with
      localDescriptionAnnounced := true, pendingLocalCandidates := [] })
    (told : after.outputs = negotiation.outputs ++ .sdp callback sdp type ::
      negotiation.session.pendingLocalCandidates.map (.iceCandidate remoteUserId))
    (late : after.late = negotiation.late) (gathered : after.gathered = negotiation.gathered)
    (once : after.chain + after.failed.toNat = 0) : after.Ordered callback remoteUserId := by
  have silent := ordered.silent unannounced
  have noneEmitted : negotiation.emitted = [] := emitted_of_quiet silent
  obtain ⟨waiting, -⟩ := ordered.pending opened
  rw [noneEmitted, List.nil_append] at waiting
  rw [waiting, ← gathered] at told
  have outgoing : after.outgoing =
      .sdp callback sdp type :: after.gathered.map (.iceCandidate remoteUserId) := by
    rw [Negotiation.outgoing, told, List.filter_append, List.filter_cons_of_pos rfl,
      outgoing_iceCandidates]
    exact congrArg (· ++ _) silent
  have emitted : after.emitted = after.gathered := by
    rw [Negotiation.emitted, told, List.filterMap_append, List.filterMap_cons_none rfl,
      emitted_iceCandidates]
    exact congrArg (· ++ _) noneEmitted
  refine ⟨?_, fun _ => ?_, fun hidden => ?_, fun _ => ⟨sdp, type, ?_⟩, ?_,
    fun _ => ⟨?_, fun _ => ?_⟩, ?_⟩
  · rw [session]
    show after.chain + 1 + after.failed.toNat ≤ 1
    omega
  · rw [session]
    exact ordered.bound opened
  · rw [session] at hidden
    cases hidden
  · rw [outgoing, emitted]
  · rw [emitted]
  · rw [session, emitted]
    exact List.append_nil _
  · rw [session]
  · rw [late]
    exact ordered.late

/-- The completion of the local description comes last: the chain ends, and the description is
announced unless the session is closed. -/
theorem Ordered.completed (ordered : negotiation.Ordered callback remoteUserId) {position : Nat}
    {call : Call} {sdp type : ByteString}
    (present : negotiation.outstanding[position]? = some (call, .setLocalDescription sdp type)) :
    ((negotiation.answered position call (.setLocalDescription sdp type) .done).ranFor call
      (negotiation.session.handle .localDescriptionSet)).Ordered callback remoteUserId := by
  have shorter : (negotiation.answered position call (.setLocalDescription sdp type) .done).chain +
      1 = negotiation.chain := chain_answered present .done
  have before := ordered.once
  have unannounced : negotiation.session.localDescriptionAnnounced = false :=
    Bool.toNat_eq_zero.mp (by omega)
  have succeeded : negotiation.failed = false := Bool.toNat_eq_zero.mp (by omega)
  have once : ((negotiation.answered position call (.setLocalDescription sdp type) .done).ranFor
      call (negotiation.session.handle .localDescriptionSet)).chain +
        (negotiation.failed || false).toNat = 0 := by
    have asked : List.countP _ _ ≤ 0 :=
      countP_asked_handle negotiation.session .localDescriptionSet call
    rw [chain] at shorter
    show List.countP _ (_ ++ _) + _ = 0
    rw [List.countP_append, succeeded]
    show _ + 0 = 0
    omega
  cases closed : negotiation.session.closed with
  | true =>
    have inert : negotiation.session.handle .localDescriptionSet = (negotiation.session, []) := by
      rw [PeerSession.handle, PeerSession.announceLocalDescription, if_pos closed]
    rw [inert] at once ⊢
    refine ordered.quiet rfl rfl rfl rfl [] (List.append_nil _).symm (.of_same rfl rfl) ?_
    exact Nat.le_trans (Nat.le_of_eq once) (Nat.zero_le _)
  | false =>
    obtain ⟨ice, pending⟩ := ordered.bound closed
    have announces := negotiation.session.announces_handle closed pending ice
    rw [announces] at once ⊢
    refine ordered.announce unannounced closed rfl rfl ?_ rfl once
    exact if_neg (Bool.not_eq_true _ ▸ closed)

/-- A candidate that is passed on at once follows those before it. -/
theorem Ordered.follow (ordered : negotiation.Ordered callback remoteUserId)
    (spoken : negotiation.session.localDescriptionAnnounced = true)
    (opened : negotiation.session.closed = false) {candidate : IceCandidate}
    (session : after.session = negotiation.session)
    (told : after.outputs = negotiation.outputs ++ [.iceCandidate remoteUserId candidate])
    (late : after.late = negotiation.late)
    (gathered : after.gathered = negotiation.gathered ++ [candidate])
    (once : after.chain + after.failed.toNat ≤ negotiation.chain + negotiation.failed.toNat) :
    after.Ordered callback remoteUserId := by
  obtain ⟨complete, flushed⟩ := ordered.pending opened
  have nothing := flushed spoken
  rw [nothing, List.append_nil] at complete
  have emitted : after.emitted = after.gathered := by
    rw [Negotiation.emitted, told, List.filterMap_append, gathered, ← complete]
    rfl
  refine ⟨?_, fun _ => ?_, fun hidden => ?_, fun _ => ?_, ?_, fun _ => ⟨?_, fun _ => ?_⟩, ?_⟩
  · have before := ordered.once
    rw [session]
    omega
  · rw [session]
    exact ordered.bound opened
  · rw [session, spoken] at hidden
    cases hidden
  · obtain ⟨sdp, type, first⟩ := ordered.spoken spoken
    refine ⟨sdp, type, ?_⟩
    rw [emitted, gathered, ← complete, List.map_append, ← List.cons_append, ← first]
    rw [Negotiation.outgoing, told, List.filter_append]
    rfl
  · rw [emitted]
  · rw [session, nothing, emitted, List.append_nil]
  · rw [session, nothing]
  · rw [late]
    exact ordered.late

/-- A candidate waits until the description is announced, and follows it from then on. -/
theorem Ordered.iceCandidate (ordered : negotiation.Ordered callback remoteUserId)
    (candidate : IceCandidate) :
    (negotiation.next (.report (.iceCandidate candidate))).Ordered callback remoteUserId := by
  obtain ⟨session, told, late⟩ := negotiation.next_spec (.report (.iceCandidate candidate))
  rw [result, PeerSession.handle, PeerSession.onIceCandidate] at session told late
  by_cases closed : negotiation.session.closed = true
  · rw [if_pos closed] at session told
    rw [if_pos closed, if_pos closed] at late
    refine ordered.quiet rfl told (late.trans (if_pos closed).symm) (by rw [session]) [candidate]
      rfl (fun opened => ?_) (Nat.le_refl _)
    rw [session, closed] at opened
    cases opened
  · have opened : negotiation.session.closed = false := Bool.not_eq_true _ ▸ closed
    by_cases hidden : negotiation.session.localDescriptionAnnounced = false
    · rw [if_neg closed, if_pos hidden] at session told
      rw [if_neg closed] at late
      refine ordered.quiet rfl told (late.trans (if_neg closed).symm) (by rw [session])
        [candidate] rfl (fun _ => ?_) (Nat.le_refl _)
      rw [session]
      exact ⟨opened, rfl, rfl, rfl, fun spoken => by cases hidden.symm.trans spoken⟩
    · rw [if_neg closed, if_neg hidden] at session told
      rw [if_neg closed] at late
      have spoken : negotiation.session.localDescriptionAnnounced = true :=
        Bool.not_eq_false _ ▸ hidden
      refine ordered.follow spoken opened session ?_ late rfl (Nat.le_refl _)
      rw [told, (ordered.bound opened).1]
      rfl

/-- A report of an observer. -/
theorem Ordered.report (ordered : negotiation.Ordered callback remoteUserId)
    {event : SessionEvent} (observed : event.Observed) :
    (negotiation.next (.report event)).Ordered callback remoteUserId := by
  by_cases gathers : ∃ candidate, event = .iceCandidate candidate
  · obtain ⟨candidate, rfl⟩ := gathers
    exact ordered.iceCandidate candidate
  have noCandidate (candidate : IceCandidate) : event ≠ .iceCandidate candidate :=
    fun same => gathers ⟨candidate, same⟩
  have other : event ≠ .localDescriptionSet := by
    rintro rfl
    exact observed
  have draft := negotiation.session.draft_handle other noCandidate
  refine ordered.quiet (negotiation.session.quiet_handle other noCandidate) rfl rfl
    (congrArg (fun draft => draft.2.1) draft) [] ?_
    (.of_same (negotiation.session.fixtures_handle event) draft) (Nat.le_refl _)
  show negotiation.gathered ++ event.candidate.toList = _
  cases event with
  | iceCandidate candidate => exact absurd rfl (noCandidate candidate)
  | _ => rfl

end

/-! ### The run -/

/-- The first call binds its callback and makes the first request of the chain. -/
theorem starts_spec {session : PeerSession Call} (connected : session.peerConnection = true)
    {first : SessionAction} {role : Role} (starts : Starts first role) :
    (({ session } : Negotiation).next first).session.fixtures = session.fixtures ∧
      (({ session } : Negotiation).next first).session.draft = (some ⟨0, role⟩, false, []) ∧
      (({ session } : Negotiation).next first).outgoing = [] ∧
      (({ session } : Negotiation).next first).chain ≤ 1 := by
  have one (call : Call) (outputs : List (Output Call)) :
      ((outputs.filterMap Output.asked).map (call, ·)).countP (fun entry => entry.2.isLocal) ≤
        (outputs.filterMap Output.asked).length := by
    refine Nat.le_trans List.countP_le_length ?_
    rw [List.length_map]
  cases starts with
  | createOffer =>
    refine ⟨PeerSession.fixtures_createOffer _ _, session.draft_createOffer connected _,
      session.quiet_createOffer _, Nat.le_trans (one _ _) ?_⟩
    rw [PeerSession.asked_createOffer, connected]
    exact Nat.le_refl _
  | applyRemoteOffer sdp =>
    refine ⟨PeerSession.fixtures_applyRemoteOffer _ _ _,
      session.draft_applyRemoteOffer connected _ _, session.quiet_applyRemoteOffer sdp _,
      Nat.le_trans (one _ _) ?_⟩
    rw [PeerSession.asked_applyRemoteOffer, connected]
    exact Nat.le_refl _

section

variable {session : PeerSession Call} {remoteUserId : ByteString} {first : SessionAction}
  {role : Role}

theorem ordered_start (opened : session.closed = false) (connected : session.peerConnection = true)
    (bound : session.iceCandidateCallback = some remoteUserId) (starts : Starts first role) :
    (({ session } : Negotiation).next first).Ordered ⟨0, role⟩ remoteUserId := by
  obtain ⟨fixtures, draft, outgoing, chain⟩ := starts_spec connected starts
  obtain ⟨-, -, late⟩ := ({ session } : Negotiation).next_spec first
  rw [if_neg (Bool.not_eq_true _ ▸ opened)] at late
  have fresh : (({ session } : Negotiation).next first).gathered = [] ∧
      (({ session } : Negotiation).next first).failed = false := by
    cases starts <;> exact ⟨rfl, rfl⟩
  have callback := congrArg Prod.fst draft
  have hidden := congrArg (fun draft => draft.2.1) draft
  have waiting := congrArg (fun draft => draft.2.2) draft
  have emitted := emitted_of_quiet outgoing
  refine ⟨?_, fun _ => ⟨?_, callback⟩, fun _ => outgoing, fun spoken => ?_, ?_, fun _ =>
    ⟨?_, fun _ => waiting⟩, ?_⟩
  · rw [fresh.2]
    exact Nat.le_trans (Nat.le_of_eq (congrArg (_ + Bool.toNat · + 0) hidden)) chain
  · exact (congrArg (fun fixtures => fixtures.1.2.2.1) fixtures).trans bound
  · cases hidden.symm.trans spoken
  · rw [fresh.1]
    exact List.prefix_nil.mpr emitted
  · rw [fresh.1]
    exact List.append_eq_nil_iff.mpr ⟨emitted, waiting⟩
  · rw [late]
    rfl

theorem ordered_next {callback : Call} {negotiation : Negotiation} {action : SessionAction}
    (ordered : negotiation.Ordered callback remoteUserId)
    (allowed : (oneCall session first).allowed negotiation action) :
    (negotiation.next action).Ordered callback remoteUserId := by
  cases action with
  | createOffer => exact absurd .createOffer (allowed.2 _)
  | applyRemoteOffer sdp => exact absurd (.applyRemoteOffer sdp) (allowed.2 _)
  | applyRemoteAnswer sdp => exact ordered.applyRemoteAnswer sdp
  | addRemoteCandidate candidate => exact ordered.addRemoteCandidate candidate
  | completion position answer =>
    rcases negotiation.completion_cases position answer with
      ⟨-, same⟩ | ⟨call, request, event, present, answers, -, same⟩
    · rw [same]
      exact ordered
    rw [same]
    by_cases announces : event = .localDescriptionSet
    · subst announces
      obtain ⟨⟨sdp, type, rfl⟩, rfl⟩ := Request.eq_of_announced answers
      exact ordered.completed present
    · exact ordered.answered present answers announces
  | report event => exact ordered.report allowed.1
  | close => exact ordered.close

end

end Negotiation

/-- On a session with one call, the description comes once and first, and every candidate follows
it once, in the order gathered; until then it waits. -/
theorem local_candidates_follow_description {session : PeerSession Call}
    (opened : session.closed = false) (connected : session.peerConnection = true)
    {remoteUserId : ByteString} (bound : session.iceCandidateCallback = some remoteUserId)
    {first : SessionAction} {role : Role} (starts : Negotiation.Starts first role)
    {negotiation : Negotiation}
    (reachable : (Negotiation.oneCall session first).Reachable negotiation) :
    (negotiation.outgoing = [] ∨ ∃ sdp type, negotiation.outgoing =
      .sdp ⟨0, role⟩ sdp type :: negotiation.emitted.map (.iceCandidate remoteUserId)) ∧
    negotiation.emitted <+: negotiation.gathered ∧
    (negotiation.session.closed = false →
      negotiation.emitted ++ negotiation.session.pendingLocalCandidates = negotiation.gathered ∧
        (negotiation.outgoing ≠ [] → negotiation.session.pendingLocalCandidates = [])) ∧
    (negotiation.failed = true → negotiation.outgoing = []) ∧
    ∀ output ∈ negotiation.late, output.isOutgoing = false := by
  have ordered : negotiation.Ordered ⟨0, role⟩ remoteUserId := by
    refine reachable.invariant ?_ fun _ _ _ ordered allowed =>
      Negotiation.ordered_next ordered allowed
    rintro negotiation rfl
    exact Negotiation.ordered_start opened connected bound starts
  refine ⟨?_, ordered.gathered, fun before => ⟨(ordered.pending before).1, fun outgoing => ?_⟩,
    fun failed => ordered.silent (Bool.toNat_eq_zero.mp ?_), fun output member => ?_⟩
  · cases announced : negotiation.session.localDescriptionAnnounced with
    | false => exact Or.inl (ordered.silent announced)
    | true => exact Or.inr (ordered.spoken announced)
  · refine (ordered.pending before).2 (Bool.not_eq_false _ ▸ fun hidden => ?_)
    exact outgoing (ordered.silent hidden)
  · have once := ordered.once
    rw [failed, Bool.toNat_true] at once
    omega
  · exact Bool.not_eq_true _ ▸ List.filter_eq_nil_iff.mp ordered.late output member

/-- A session for Bob, as the dialog sets it up. -/
def sessionForBob : PeerSession Call :=
  { remoteUserId := bytes "bob", options := {}, peerConnection := true,
    iceCandidateCallback := some (bytes "bob") }

def hostCandidate : IceCandidate := ⟨bytes "0", 0, bytes "candidate:1"⟩

/-- One candidate is gathered before the description is set, and one after it. -/
def candidatesAround : List SessionAction :=
  [.report (.iceCandidate hostCandidate),
    .completion 0 (.created (bytes "v=0") (bytes "offer")), .completion 0 .done,
    .report (.iceCandidate hostCandidate)]

theorem local_candidates_follow_description_candidatesAround :
    ((Negotiation.oneCall sessionForBob .createOffer).run
      (({ session := sessionForBob } : Negotiation).next .createOffer)
      candidatesAround).session.pendingLocalCandidates = [] := by
  have start : (Negotiation.oneCall sessionForBob .createOffer).Reachable
      (({ session := sessionForBob } : Negotiation).next .createOffer) := .start rfl
  have other {action : SessionAction} (other : ∀ role, ¬ Negotiation.Starts action role)
      (negotiation : Negotiation) (allowed : Negotiation.system.allowed negotiation action) :
      (Negotiation.oneCall sessionForBob .createOffer).allowed negotiation action :=
    ⟨allowed, other⟩
  have reachable : (Negotiation.oneCall sessionForBob .createOffer).Reachable
      ((Negotiation.oneCall sessionForBob .createOffer).run
        (({ session := sessionForBob } : Negotiation).next .createOffer) candidatesAround) :=
    start.run
    ⟨other (fun _ starts => by cases starts) _ trivial,
      other (fun _ starts => by cases starts) _ trivial,
      other (fun _ starts => by cases starts) _ trivial,
      other (fun _ starts => by cases starts) _ trivial, trivial⟩
  exact ((local_candidates_follow_description rfl rfl rfl .createOffer reachable).2.2.1 rfl).2
    (List.cons_ne_nil _ _)

end RemoteControl.Peer

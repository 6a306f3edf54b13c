/-
This file follows the descriptions and the remote candidates through a session on
which one call negotiates and which is not closed. The description that is created
is the one that is set and announced; what the other side sends is set, or handed
to libwebrtc, once and in its order; and while no request fails, each one leads to
the next.
-/

import RemoteControl.Peer.RemoteCandidates
import RemoteControl.Peer.Roles

namespace RemoteControl.Peer

/-! ### What the requests ask for -/

/-- The description that a request sets as the local one. -/
def Request.localDescription : Request → Option ByteString
  | .setLocalDescription sdp _ => some sdp
  | _ => none

/-- The description that a request sets as the remote one. -/
def Request.remoteDescription : Request → Option ByteString
  | .setRemoteDescription sdp _ => some sdp
  | _ => none

/-- The requests that come before there is a local description. -/
def Request.isDraft : Request → Bool
  | .createOffer | .createAnswer => true
  | .setRemoteDescription _ type => type = bytes "offer"
  | _ => false

/-- The candidate that an output hands to libwebrtc. -/
def Output.added {Callback : Type} : Output Callback → Option IceCandidate
  | .request _ (.addCandidate candidate) => some candidate
  | _ => none

/-- The candidates that `AddRemoteCandidate` does not drop. -/
def proper (candidates : List IceCandidate) : List IceCandidate :=
  candidates.filter fun candidate => candidate.candidate ≠ []

/-- Only the completion of `SetRemoteDescription` marks the remote description as set. -/
theorem Request.eq_of_remoteSet {request : Request} {answer : Answer} {event : SessionEvent}
    (answers : request.event answer = some event)
    (marks : event = .remoteOfferSet ∨ event = .remoteAnswerSet) :
    request.remoteDescription.isSome := by
  cases request with
  | setRemoteDescription sdp type => rfl
  | _ => cases answer <;> cases answers <;> rcases marks with same | same <;> cases same

/-- Only that of an answer is no step towards a local description. -/
theorem Request.not_isLocal_of_remoteAnswer {request : Request} {answer : Answer}
    (answers : request.event answer = some .remoteAnswerSet) : request.isLocal = false := by
  cases request with
  | setRemoteDescription sdp type =>
    cases answer with
    | created sdp type => cases answers
    | done =>
      have event := Option.some_inj.mp answers
      split at event
      · cases event
      · rename_i other
        exact decide_eq_false other
    | failed => cases answers
  | _ => cases answer <;> cases answers

/-- A request fails by the answer that says so. -/
theorem Request.failed_of_event {request : Request} {answer : Answer}
    (answers : request.event answer = some .negotiationFailed) : answer = .failed := by
  cases answer with
  | failed => rfl
  | created sdp type => cases Request.created_of_event answers
  | done =>
    cases request with
    | setRemoteDescription sdp type =>
      have event := Option.some_inj.mp answers
      split at event <;> cases event
    | _ => cases answers

theorem Request.isLocal_of_isDraft {request : Request} (draft : request.isDraft = true) :
    request.isLocal = true := by
  cases request with
  | setRemoteDescription sdp type => exact draft
  | setLocalDescription sdp type => cases draft
  | addCandidate candidate => cases draft
  | _ => rfl

namespace PeerSession

variable {Callback : Type} (session : PeerSession Callback)

theorem added_markRemoteDescriptionSet (opened : session.closed = false)
    (connected : session.peerConnection = true) :
    session.markRemoteDescriptionSet.2.filterMap Output.added =
      session.pendingRemoteCandidates := by
  rw [markRemoteDescriptionSet, if_neg (Bool.not_eq_true _ ▸ opened)]
  simp only [connected, if_true]
  rw [List.filterMap_map]
  exact List.filterMap_some

theorem added_updateState (state : PeerSessionState) :
    (session.updateState state).2.filterMap Output.added = [] := by
  refine List.filterMap_eq_nil_iff.mpr fun output member => ?_
  rw [(session.mem_updateState member).2]
  rfl

theorem added_notifyMediaEvent (event : PeerMediaEvent) (width height : Nat) :
    (session.notifyMediaEvent event width height).filterMap Output.added = [] := by
  refine List.filterMap_eq_nil_iff.mpr fun output member => ?_
  rw [(session.mem_notifyMediaEvent member).2]
  rfl

theorem added_notifyControlEvent (event : ControlEvent) :
    (session.notifyControlEvent event).filterMap Output.added = [] := by
  refine List.filterMap_eq_nil_iff.mpr fun output member => ?_
  rw [(session.mem_notifyControlEvent member).2]
  rfl

/-- The completion of `SetRemoteDescription` hands over the candidates that waited, and nothing
else hands over any. -/
theorem added_handle (opened : session.closed = false) (connected : session.peerConnection = true)
    (event : SessionEvent) :
    (session.handle event).2.filterMap Output.added =
      match event with
      | .remoteOfferSet | .remoteAnswerSet => session.pendingRemoteCandidates
      | _ => [] := by
  cases event with
  | remoteOfferSet =>
    rw [handle, remoteOfferSet]
    simp only
    rw [List.filterMap_append, session.added_markRemoteDescriptionSet opened connected]
    exact List.append_nil _
  | remoteAnswerSet => exact session.added_markRemoteDescriptionSet opened connected
  | localDescriptionSet =>
    rw [handle, announceLocalDescription, if_neg (Bool.not_eq_true _ ▸ opened)]
    refine List.filterMap_eq_nil_iff.mpr fun output member => ?_
    rcases List.mem_append.mp member with description | candidates
    · obtain ⟨callback, -, rfl⟩ := List.mem_map.mp description
      rfl
    · obtain ⟨remoteUserId, -, gathered⟩ := List.mem_flatMap.mp candidates
      obtain ⟨candidate, -, rfl⟩ := List.mem_map.mp gathered
      rfl
  | negotiationFailed =>
    rw [handle, failNegotiation, if_neg (Bool.not_eq_true _ ▸ opened)]
    exact session.added_updateState _
  | iceCandidate candidate =>
    rw [handle, onIceCandidate, if_neg (Bool.not_eq_true _ ▸ opened)]
    split
    · rfl
    · cases session.iceCandidateCallback <;> rfl
  | peerConnectionState state =>
    cases state with
    | new => rfl
    | _ => exact session.added_updateState _
  | track kind =>
    rw [handle, onTrack]
    split
    · rfl
    · exact session.added_notifyMediaEvent _ _ _
  | channelState opened => exact session.added_notifyControlEvent _
  | message moment buffer binary =>
    rw [handle, onMessage]
    split
    · rfl
    · refine List.filterMap_eq_nil_iff.mpr fun output member => ?_
      simp only at member
      rcases List.mem_append.mp member with acted | reported
      · rcases List.mem_append.mp acted with injected | sent
        · obtain ⟨call, -, rfl⟩ := List.mem_map.mp injected
          rfl
        · obtain ⟨packet, -, rfl⟩ := List.mem_map.mp sent
          rfl
      · obtain ⟨event, -, reports⟩ := List.mem_flatMap.mp reported
        rw [(session.mem_notifyControlEvent reports).2]
        rfl
  | frameStatus success width height => exact session.added_notifyMediaEvent _ _ _
  | _ => rfl

/-- A description that was announced stays so. -/
theorem announced_handle (announced : session.localDescriptionAnnounced = true)
    (event : SessionEvent) : (session.handle event).1.localDescriptionAnnounced = true := by
  by_cases last : event = .localDescriptionSet
  · rw [last, handle, announceLocalDescription]
    split
    · exact announced
    · rfl
  · rw [← announced]
    exact session.view_handle (fun session => session.localDescriptionAnnounced) (fun _ _ => rfl)
      event (fun _ _ => rfl) (fun _ _ _ _ => rfl) (fun same => absurd same last)
      (fun _ _ _ _ => rfl) (fun _ => rfl) fun _ _ => rfl

/-- The completion of `SetRemoteDescription` leaves no candidate waiting. -/
theorem remote_marked (opened : session.closed = false) {event : SessionEvent}
    (marks : event = .remoteOfferSet ∨ event = .remoteAnswerSet) :
    (session.handle event).1.remote = (true, []) := by
  have marked : session.markRemoteDescriptionSet.1.remote = (true, []) := by
    rw [markRemoteDescriptionSet, if_neg (Bool.not_eq_true _ ▸ opened)]
    rfl
  rcases marks with rfl | rfl <;> exact marked

end PeerSession

namespace Negotiation

variable (negotiation : Negotiation)

/-- The requests that are not answered yet. -/
def requests : List Request := negotiation.outstanding.map Prod.snd

/-- The requests that were made and will be answered. -/
def asked : List Request := negotiation.outputs.filterMap Output.asked

def localDescriptions : List ByteString := negotiation.asked.filterMap Request.localDescription

def remoteDescriptions : List ByteString := negotiation.asked.filterMap Request.remoteDescription

/-- The candidates that were handed to libwebrtc. -/
def added : List IceCandidate := negotiation.outputs.filterMap Output.added

/-- What a step does with the requests: it answers some and makes others. -/
structure Asks (before after : Negotiation) (answered made : List Request) : Prop where
  requests : ∃ rest, before.requests.Perm (answered ++ rest) ∧ after.requests = rest ++ made
  asked : after.asked = before.asked ++ made

/-- At most one description is created; it is the one that is set, held and announced. -/
structure Drafting : Prop where
  once : negotiation.localDescriptions.length + negotiation.requests.countP Request.isDraft ≤ 1
  current : ∀ sdp ∈ negotiation.localDescriptions, negotiation.session.pendingLocalSdp = sdp
  setting : ∀ request ∈ negotiation.requests, ∀ sdp ∈ request.localDescription,
    sdp ∈ negotiation.localDescriptions
  spoken : ∀ call sdp type, .sdp call sdp type ∈ negotiation.outputs →
    negotiation.localDescriptions = [sdp]

/-- What was heard of the other side: the descriptions, each of which was asked to be set, and the
proper candidates, which wait for that or were handed to libwebrtc in their order. -/
structure Hearing (descriptions : List ByteString) (candidates : List IceCandidate) : Prop where
  opened : negotiation.session.closed = false
  connected : negotiation.session.peerConnection = true
  described : negotiation.remoteDescriptions = descriptions
  setting : ∀ request ∈ negotiation.requests, request.remoteDescription.isSome → descriptions ≠ []
  set : negotiation.session.remoteDescriptionSet = true → descriptions ≠ []
  kept : negotiation.added ++ negotiation.session.pendingRemoteCandidates = candidates
  early : negotiation.session.remoteDescriptionSet = false → negotiation.added = []
  late : negotiation.session.remoteDescriptionSet = true →
    negotiation.session.pendingRemoteCandidates = []

/-- While nothing fails, each description is set or on its way. -/
structure Underway (failed : Bool) : Prop where
  own : failed = false → negotiation.session.localDescriptionAnnounced = true ∨
    ∃ request ∈ negotiation.requests, request.isLocal = true
  other : failed = false → negotiation.remoteDescriptions ≠ [] →
    negotiation.session.remoteDescriptionSet = true ∨
      ∃ request ∈ negotiation.requests, request.remoteDescription.isSome

variable {negotiation}

/-! ### One step -/

section

variable {after : Negotiation} {answered made : List Request}

theorem Asks.localDescriptions_eq (asks : Asks negotiation after answered made) :
    after.localDescriptions =
      negotiation.localDescriptions ++ made.filterMap Request.localDescription := by
  rw [localDescriptions, asks.asked, List.filterMap_append]
  rfl

theorem Asks.remoteDescriptions_eq (asks : Asks negotiation after answered made) :
    after.remoteDescriptions =
      negotiation.remoteDescriptions ++ made.filterMap Request.remoteDescription := by
  rw [remoteDescriptions, asks.asked, List.filterMap_append]
  rfl

theorem Asks.countP_eq (asks : Asks negotiation after answered made) (counts : Request → Bool) :
    answered.countP counts + after.requests.countP counts =
      negotiation.requests.countP counts + made.countP counts := by
  obtain ⟨rest, perm, same⟩ := asks.requests
  rw [perm.countP_eq, same, List.countP_append, List.countP_append, Nat.add_assoc]

theorem Asks.mem (asks : Asks negotiation after answered made) {request : Request}
    (member : request ∈ after.requests) : request ∈ negotiation.requests ∨ request ∈ made := by
  obtain ⟨rest, perm, same⟩ := asks.requests
  rw [same] at member
  exact (List.mem_append.mp member).imp_left fun kept =>
    perm.symm.subset (List.mem_append_right _ kept)

theorem Asks.mem_before (asks : Asks negotiation after answered made) {request : Request}
    (member : request ∈ negotiation.requests) : request ∈ answered ∨ request ∈ after.requests := by
  obtain ⟨rest, perm, same⟩ := asks.requests
  rw [same]
  exact (List.mem_append.mp (perm.subset member)).imp_right (List.mem_append_left _)

theorem Asks.mem_made (asks : Asks negotiation after answered made) {request : Request}
    (member : request ∈ made) : request ∈ after.requests := by
  obtain ⟨rest, -, same⟩ := asks.requests
  rw [same]
  exact List.mem_append_right _ member

/-- A completion takes its request away and leaves what its callback asks for. -/
theorem asks_completion {position : Nat} {call : Call} {request : Request}
    (present : negotiation.outstanding[position]? = some (call, request)) (answer : Answer)
    (result : PeerSession Call × List (Output Call)) :
    Asks negotiation ((negotiation.answered position call request answer).ranFor call result)
      [request] (result.2.filterMap Output.asked) := by
  obtain ⟨inside, same⟩ := List.getElem?_eq_some_iff.mp present
  have perm := (List.getElem_cons_eraseIdx_perm inside).map Prod.snd
  rw [same, List.map_cons] at perm
  refine ⟨⟨(negotiation.outstanding.eraseIdx position).map Prod.snd, perm.symm, ?_⟩,
    List.filterMap_append⟩
  show List.map Prod.snd (_ ++ _) = _
  rw [List.map_append, List.map_map]
  exact congrArg _ (List.map_id _)

/-- Everything else answers nothing. -/
theorem asks_ran {result : PeerSession Call × List (Output Call)}
    (silent : result.2.filterMap Output.asked = []) (gathered : List IceCandidate) :
    Asks negotiation ({ negotiation with gathered }.ran result) [] [] := by
  refine ⟨⟨negotiation.requests, .refl _, (List.append_nil _).symm⟩, ?_⟩
  rw [asked, ran, List.filterMap_append, silent]
  rfl

/-! ### The own description -/

theorem Drafting.still (drafting : negotiation.Drafting)
    (asks : Asks negotiation after answered made)
    (nothing : made.filterMap Request.localDescription = [])
    (fewer : made.countP Request.isDraft ≤ answered.countP Request.isDraft)
    (same : after.session.pendingLocalSdp = negotiation.session.pendingLocalSdp)
    (silent : ∀ call sdp type, .sdp call sdp type ∈ after.outputs →
      .sdp call sdp type ∈ negotiation.outputs) : after.Drafting := by
  have descriptions := asks.localDescriptions_eq
  rw [nothing, List.append_nil] at descriptions
  refine ⟨?_, ?_, fun request member sdp sets => ?_, fun call sdp type member => ?_⟩
  · have once := drafting.once
    have counted := asks.countP_eq Request.isDraft
    rw [descriptions]
    omega
  · rw [descriptions, same]
    exact drafting.current
  · rw [descriptions]
    rcases asks.mem member with before | new
    · exact drafting.setting request before sdp sets
    · rw [List.filterMap_eq_nil_iff.mp nothing request new] at sets
      cases sets
  · rw [descriptions]
    exact drafting.spoken call sdp type (silent call sdp type member)

/-- A draft leads to the description that is held from then on, and to no other. -/
theorem Drafting.created (drafting : negotiation.Drafting) {request : Request}
    {sdp type : ByteString}
    (asks : Asks negotiation after [request] [.setLocalDescription sdp type])
    (draft : request.isDraft = true) (holds : after.session.pendingLocalSdp = sdp)
    (silent : ∀ call sdp type, .sdp call sdp type ∈ after.outputs →
      .sdp call sdp type ∈ negotiation.outputs) : after.Drafting := by
  have counted := asks.countP_eq Request.isDraft
  rw [List.countP_singleton, if_pos draft] at counted
  have noDraft : [Request.setLocalDescription sdp type].countP Request.isDraft = 0 := rfl
  have once := drafting.once
  have first : negotiation.localDescriptions = [] := List.length_eq_zero_iff.mp (by omega)
  have descriptions := asks.localDescriptions_eq
  rw [first] at descriptions
  refine ⟨?_, fun own member => ?_, fun other member own sets => ?_,
    fun call own type' member => ?_⟩
  · rw [descriptions]
    show 1 + _ ≤ 1
    omega
  · rw [descriptions] at member
    rw [holds, List.mem_singleton.mp member]
  · rcases asks.mem member with before | new
    · have there := drafting.setting other before own sets
      rw [first] at there
      cases there
    · rw [List.mem_singleton.mp new] at sets
      cases sets
      rw [descriptions]
      exact .head _
  · have spoken := drafting.spoken call own type' (silent call own type' member)
    rw [first] at spoken
    cases spoken

/-- The description that was set is the one that is announced. -/
theorem Drafting.announced (drafting : negotiation.Drafting) {sdp type : ByteString}
    (setting : .setLocalDescription sdp type ∈ negotiation.requests)
    (asks : Asks negotiation after [.setLocalDescription sdp type] [])
    (same : after.session.pendingLocalSdp = negotiation.session.pendingLocalSdp)
    (told : ∀ call own type, .sdp call own type ∈ after.outputs →
      .sdp call own type ∈ negotiation.outputs ∨ own = negotiation.session.pendingLocalSdp) :
    after.Drafting := by
  have descriptions := asks.localDescriptions_eq
  rw [List.filterMap_nil, List.append_nil] at descriptions
  have there := drafting.setting _ setting sdp rfl
  have once := drafting.once
  have alone : negotiation.localDescriptions = [sdp] := by
    obtain ⟨first, rest⟩ := List.length_eq_one_iff.mp
      (Nat.le_antisymm (by omega) (List.length_pos_of_mem there))
    rw [rest] at there ⊢
    rw [List.mem_singleton.mp there]
  refine ⟨?_, ?_, fun request member own sets => ?_, fun call own type' member => ?_⟩
  · have counted := asks.countP_eq Request.isDraft
    have nothing : [Request.setLocalDescription sdp type].countP Request.isDraft = 0 := rfl
    rw [List.countP_nil] at counted
    rw [descriptions]
    omega
  · rw [descriptions, same]
    exact drafting.current
  · rw [descriptions]
    exact drafting.setting request ((asks.mem member).resolve_right List.not_mem_nil) own sets
  · rw [descriptions]
    rcases told call own type' member with before | new
    · exact drafting.spoken call own type' before
    · rw [alone, new, drafting.current sdp there]

/-! ### The other side's description and candidates -/

section

variable {descriptions : List ByteString} {candidates : List IceCandidate}

theorem Hearing.still (hearing : negotiation.Hearing descriptions candidates)
    (asks : Asks negotiation after answered made)
    (nothing : made.filterMap Request.remoteDescription = [])
    (fixtures : after.session.fixtures = negotiation.session.fixtures)
    (remote : after.session.remote = negotiation.session.remote)
    (added : after.added = negotiation.added) : after.Hearing descriptions candidates := by
  have described := asks.remoteDescriptions_eq
  rw [nothing, List.append_nil] at described
  have set : after.session.remoteDescriptionSet = negotiation.session.remoteDescriptionSet :=
    congrArg Prod.fst remote
  have pending : after.session.pendingRemoteCandidates =
      negotiation.session.pendingRemoteCandidates := congrArg Prod.snd remote
  refine ⟨?_, ?_, described.trans hearing.described, fun request member sets => ?_, ?_, ?_, ?_, ?_⟩
  · exact (congrArg (fun fixtures => fixtures.1.2.2.2.1) fixtures).trans hearing.opened
  · exact (congrArg (fun fixtures => fixtures.1.2.2.2.2) fixtures).trans hearing.connected
  · rcases asks.mem member with before | new
    · exact hearing.setting request before sets
    · rw [List.filterMap_eq_nil_iff.mp nothing request new] at sets
      cases sets
  · rw [set]
    exact hearing.set
  · rw [added, pending]
    exact hearing.kept
  · rw [set, added]
    exact hearing.early
  · rw [set, pending]
    exact hearing.late

/-- When the description is set, the candidates that waited are handed over. -/
theorem Hearing.marked (hearing : negotiation.Hearing descriptions candidates) {request : Request}
    (asks : Asks negotiation after [request] made) (was : request ∈ negotiation.requests)
    (sets : request.remoteDescription.isSome)
    (nothing : made.filterMap Request.remoteDescription = [])
    (fixtures : after.session.fixtures = negotiation.session.fixtures)
    (remote : after.session.remote = (true, []))
    (added : after.added = negotiation.added ++ negotiation.session.pendingRemoteCandidates) :
    after.Hearing descriptions candidates := by
  have described := asks.remoteDescriptions_eq
  rw [nothing, List.append_nil] at described
  have heard := hearing.setting request was sets
  have set : after.session.remoteDescriptionSet = true := congrArg Prod.fst remote
  have pending : after.session.pendingRemoteCandidates = [] := congrArg Prod.snd remote
  refine ⟨?_, ?_, described.trans hearing.described, fun _ _ _ => heard, fun _ => heard, ?_,
    fun unset => ?_, fun _ => pending⟩
  · exact (congrArg (fun fixtures => fixtures.1.2.2.2.1) fixtures).trans hearing.opened
  · exact (congrArg (fun fixtures => fixtures.1.2.2.2.2) fixtures).trans hearing.connected
  · rw [added, pending, List.append_nil]
    exact hearing.kept
  · cases set.symm.trans unset

theorem added_ran (result : PeerSession Call × List (Output Call)) (gathered : List IceCandidate) :
    ({ negotiation with gathered }.ran result).added =
      negotiation.added ++ result.2.filterMap Output.added := List.filterMap_append

/-- A candidate waits, is handed over at once, or is dropped since it is empty. -/
theorem Hearing.addRemoteCandidate (hearing : negotiation.Hearing descriptions candidates)
    (candidate : IceCandidate) :
    (negotiation.next (.addRemoteCandidate candidate)).Hearing descriptions
      (candidates ++ proper [candidate]) := by
  show (negotiation.ran (negotiation.session.addRemoteCandidate candidate)).Hearing _ _
  by_cases empty : candidate.candidate = []
  · have dropped : proper [candidate] = [] := List.filter_cons_of_neg (by rw [empty]; decide)
    rw [PeerSession.addRemoteCandidate, if_pos (Or.inr (Or.inl empty)), dropped, List.append_nil]
    exact hearing.still (asks_ran rfl negotiation.gathered) rfl rfl rfl
      ((added_ran _ negotiation.gathered).trans (List.append_nil _))
  obtain ⟨opened, connected, described, setting, set, kept, early, late⟩ := hearing
  have proper_ : proper [candidate] = [candidate] :=
    List.filter_cons_of_pos (decide_eq_true empty)
  have admitted : ¬ (negotiation.session.peerConnection = false ∨ candidate.candidate = [] ∨
      negotiation.session.closed = true) := by
    rw [connected, opened]
    simp only [Bool.true_eq_false, empty, Bool.false_eq_true, or_self, not_false_eq_true]
  rw [PeerSession.addRemoteCandidate, if_neg admitted, proper_, ← kept]
  cases marked : negotiation.session.remoteDescriptionSet with
  | false =>
    rw [if_pos rfl]
    have same (session : PeerSession Call) :
        (negotiation.ran (session, [])).added = negotiation.added :=
      (added_ran _ negotiation.gathered).trans (List.append_nil _)
    refine ⟨opened, connected, ?_, setting, fun set => ?_, ?_, fun _ => ?_, fun set => ?_⟩
    · exact (asks_ran rfl negotiation.gathered).remoteDescriptions_eq.trans
        ((List.append_nil _).trans described)
    · exact absurd set Bool.false_ne_true
    · rw [same]
      exact (List.append_assoc _ _ _).symm
    · rw [same]
      exact early marked
    · exact absurd set Bool.false_ne_true
  | true =>
    rw [if_neg Bool.true_eq_false.mp]
    have grown : (negotiation.ran (negotiation.session, [.request negotiation.session.peerConnection
        (.addCandidate candidate)])).added = negotiation.added ++ [candidate] :=
      added_ran _ negotiation.gathered
    have waiting := late marked
    refine ⟨opened, connected, ?_, setting, set, ?_, fun unset => ?_, fun _ => waiting⟩
    · refine (asks_ran ?_ negotiation.gathered).remoteDescriptions_eq.trans
        ((List.append_nil _).trans described)
      rw [connected]
      rfl
    · show _ ++ negotiation.session.pendingRemoteCandidates = _
      rw [grown, waiting, List.append_nil, List.append_nil]
    · cases marked.symm.trans unset

/-- An answer is asked to be set. -/
theorem asks_applyRemoteAnswer (connected : negotiation.session.peerConnection = true)
    (sdp : ByteString) :
    Asks negotiation (negotiation.next (.applyRemoteAnswer sdp)) []
      [.setRemoteDescription sdp (bytes "answer")] := by
  have asked : (negotiation.session.applyRemoteAnswer sdp).filterMap Output.asked =
      [.setRemoteDescription sdp (bytes "answer")] := by
    rw [PeerSession.asked_applyRemoteAnswer, if_pos connected]
  refine ⟨⟨negotiation.requests, .refl _, ?_⟩, List.filterMap_append.trans (congrArg _ asked)⟩
  show List.map Prod.snd (_ ++ List.map _ (List.filterMap _ _)) = _
  rw [asked, List.map_append]
  rfl

theorem Hearing.applyRemoteAnswer (hearing : negotiation.Hearing descriptions candidates)
    (sdp : ByteString) :
    (negotiation.next (.applyRemoteAnswer sdp)).Hearing (descriptions ++ [sdp]) candidates := by
  have asks := asks_applyRemoteAnswer hearing.connected sdp
  have heard : descriptions ++ [sdp] ≠ [] :=
    List.append_ne_nil_of_right_ne_nil _ (List.cons_ne_nil _ _)
  have added : (negotiation.next (.applyRemoteAnswer sdp)).added = negotiation.added := by
    show List.filterMap _ (_ ++ negotiation.session.applyRemoteAnswer sdp) = _
    rw [List.filterMap_append, PeerSession.applyRemoteAnswer, if_pos hearing.connected]
    exact List.append_nil _
  refine ⟨hearing.opened, hearing.connected, ?_, fun _ _ _ => heard, fun _ => heard, ?_, ?_,
    hearing.late⟩
  · rw [asks.remoteDescriptions_eq, hearing.described]
    rfl
  · rw [added]
    exact hearing.kept
  · rw [added]
    exact hearing.early

end

/-! ### What is on its way -/

/-- What is on its way stays so until it is answered, and leads on then. -/
theorem Underway.step {failed failed' : Bool} (underway : negotiation.Underway failed)
    (asks : Asks negotiation after answered made) (worse : failed' = false → failed = false)
    (announced : negotiation.session.localDescriptionAnnounced = true →
      after.session.localDescriptionAnnounced = true)
    (own : failed' = false → ∀ request ∈ answered, request.isLocal = true →
      after.session.localDescriptionAnnounced = true ∨ ∃ next ∈ made, next.isLocal = true)
    (set : negotiation.session.remoteDescriptionSet = true →
      after.session.remoteDescriptionSet = true)
    (other : failed' = false → ∀ request ∈ answered, request.remoteDescription.isSome →
      after.session.remoteDescriptionSet = true) : after.Underway failed' := by
  constructor
  · intro unfailed
    rcases underway.own (worse unfailed) with done | ⟨request, member, mine⟩
    · exact Or.inl (announced done)
    · rcases asks.mem_before member with taken | kept
      · refine (own unfailed request taken mine).imp_right fun ⟨next, new, mine⟩ => ?_
        exact ⟨next, asks.mem_made new, mine⟩
      · exact Or.inr ⟨request, kept, mine⟩
  · intro unfailed heard
    by_cases before : negotiation.remoteDescriptions = []
    · rw [asks.remoteDescriptions_eq, before, List.nil_append] at heard
      obtain ⟨sdp, member⟩ := List.exists_mem_of_ne_nil _ heard
      obtain ⟨request, new, sets⟩ := List.mem_filterMap.mp member
      exact Or.inr ⟨request, asks.mem_made new, Option.isSome_of_eq_some sets⟩
    · rcases underway.other (worse unfailed) before with done | ⟨request, member, sets⟩
      · exact Or.inl (set done)
      · exact (asks.mem_before member).imp (fun taken => other unfailed request taken sets)
          fun kept => ⟨request, kept, sets⟩

/-! ### Every step -/

/-- What holds of a session in a call, given what it heard and whether a request has failed. -/
structure Negotiates (negotiation : Negotiation) (failed : Bool) (descriptions : List ByteString)
    (candidates : List IceCandidate) : Prop where
  drafting : negotiation.Drafting
  hearing : negotiation.Hearing descriptions candidates
  underway : negotiation.Underway failed

section

variable {failed : Bool} {descriptions : List ByteString} {candidates : List IceCandidate}

/-- A callback that is not a completion. -/
theorem Negotiates.report (negotiates : negotiation.Negotiates failed descriptions candidates)
    {event : SessionEvent} (observed : event.Observed) :
    (negotiation.next (.report event)).Negotiates failed descriptions candidates := by
  obtain ⟨drafting, hearing, underway⟩ := negotiates
  have noOffer : event ≠ .remoteOfferSet := by
    rintro rfl
    exact observed
  have noAnswer : event ≠ .remoteAnswerSet := by
    rintro rfl
    exact observed
  have noDraft (sdp type : ByteString) : event ≠ .localDescriptionCreated sdp type := by
    rintro rfl
    exact observed
  have noLocal : event ≠ .localDescriptionSet := by
    rintro rfl
    exact observed
  have remote := negotiation.session.remote_handle noOffer noAnswer
  have silent : (negotiation.session.handle event).2.filterMap Output.asked = [] := by
    rw [PeerSession.asked_handle]
    split
    · cases event with
      | localDescriptionCreated sdp type => exact absurd rfl (noDraft sdp type)
      | remoteOfferSet => exact absurd rfl noOffer
      | _ => rfl
    · rfl
  have nothing : (negotiation.session.handle event).2.filterMap Output.added = [] := by
    rw [PeerSession.added_handle _ hearing.opened hearing.connected]
    cases event with
    | remoteOfferSet => exact absurd rfl noOffer
    | remoteAnswerSet => exact absurd rfl noAnswer
    | _ => rfl
  have asks : Asks negotiation (negotiation.next (.report event)) [] [] := asks_ran silent _
  refine ⟨drafting.still asks rfl (Nat.le_refl _) ?_ fun call sdp type member => ?_,
    hearing.still asks rfl (negotiation.session.fixtures_handle event) remote ?_,
    underway.step asks id (fun announced => ?_) (fun _ _ none => absurd none List.not_mem_nil)
      (fun set => ?_) fun _ _ none => absurd none List.not_mem_nil⟩
  · exact congrArg Prod.fst (negotiation.session.description_handle noDraft)
  · rcases List.mem_append.mp member with before | new
    · exact before
    · cases negotiation.session.emits_of_mem new with
      | announced opened pending => exact absurd rfl noLocal
  · exact (added_ran _ _).trans (by rw [nothing, List.append_nil])
  · exact PeerSession.announced_handle _ announced _
  · exact (congrArg Prod.fst remote).trans set

theorem Negotiates.addRemoteCandidate
    (negotiates : negotiation.Negotiates failed descriptions candidates)
    (candidate : IceCandidate) :
    (negotiation.next (.addRemoteCandidate candidate)).Negotiates failed descriptions
      (candidates ++ proper [candidate]) := by
  obtain ⟨drafting, hearing, underway⟩ := negotiates
  have silent :
      (negotiation.session.addRemoteCandidate candidate).2.filterMap Output.asked = [] := by
    rw [PeerSession.addRemoteCandidate, hearing.connected]
    split
    · rfl
    · split <;> rfl
  have asks : Asks negotiation (negotiation.next (.addRemoteCandidate candidate)) [] [] :=
    asks_ran silent negotiation.gathered
  have set : (negotiation.session.addRemoteCandidate candidate).1.remoteDescriptionSet =
      negotiation.session.remoteDescriptionSet := by
    rw [PeerSession.addRemoteCandidate]
    split
    · rfl
    · split <;> rfl
  have draft := negotiation.session.draft_addRemoteCandidate candidate
  refine ⟨drafting.still asks rfl (Nat.le_refl _) ?_ fun call sdp type member => ?_,
    hearing.addRemoteCandidate candidate,
    underway.step asks id (congrArg (fun draft => draft.2.1) draft).trans
      (fun _ _ none => absurd none List.not_mem_nil) set.trans
      fun _ _ none => absurd none List.not_mem_nil⟩
  · exact congrArg Prod.fst (negotiation.session.description_addRemoteCandidate candidate)
  · rcases List.mem_append.mp member with before | new
    · exact before
    · exact (PeerSession.not_mem_of_quiet (PeerSession.quiet_addRemoteCandidate _ _) new).elim

theorem Negotiates.applyRemoteAnswer
    (negotiates : negotiation.Negotiates failed descriptions candidates) (sdp : ByteString) :
    (negotiation.next (.applyRemoteAnswer sdp)).Negotiates failed (descriptions ++ [sdp])
      candidates := by
  obtain ⟨drafting, hearing, underway⟩ := negotiates
  have asks := asks_applyRemoteAnswer hearing.connected sdp
  refine ⟨drafting.still asks rfl ?_ rfl fun call own type member => ?_,
    hearing.applyRemoteAnswer sdp,
    underway.step asks id id (fun _ _ none => absurd none List.not_mem_nil) id
      fun _ _ none => absurd none List.not_mem_nil⟩
  · exact Nat.le_of_eq (by rfl)
  · rcases List.mem_append.mp member with before | new
    · exact before
    · exact (PeerSession.not_mem_of_quiet (PeerSession.quiet_applyRemoteAnswer _ _) new).elim

/-- The completion of an outstanding request. -/
theorem Negotiates.completed (negotiates : negotiation.Negotiates failed descriptions candidates)
    {position : Nat} {call : Call} {request : Request} {answer : Answer} {event : SessionEvent}
    (present : negotiation.outstanding[position]? = some (call, request))
    (answers : request.event answer = some event) :
    ((negotiation.answered position call request answer).ranFor call
      (negotiation.session.handle event)).Negotiates (failed || answer = .failed) descriptions
        candidates := by
  obtain ⟨drafting, hearing, underway⟩ := negotiates
  have was : request ∈ negotiation.requests :=
    List.mem_map_of_mem (f := Prod.snd) (List.mem_of_getElem? present)
  have asks := asks_completion present answer (negotiation.session.handle event)
  rw [PeerSession.asked_handle, if_pos hearing.connected] at asks
  have added : ((negotiation.answered position call request answer).ranFor call
      (negotiation.session.handle event)).added =
        negotiation.added ++ (negotiation.session.handle event).2.filterMap Output.added :=
    List.filterMap_append
  rw [PeerSession.added_handle _ hearing.opened hearing.connected] at added
  have fixtures := negotiation.session.fixtures_handle event
  have silent (other : event ≠ .localDescriptionSet) (call' : Call) (sdp type : ByteString)
      (member : .sdp call' sdp type ∈ negotiation.outputs ++ (negotiation.session.handle event).2) :
      .sdp call' sdp type ∈ negotiation.outputs := by
    rcases List.mem_append.mp member with before | new
    · exact before
    · cases negotiation.session.emits_of_mem new with
      | announced opened pending => exact absurd rfl other
  have worse : (failed || decide (answer = .failed)) = false → failed = false := fun unfailed =>
    (Bool.or_eq_false_iff.mp unfailed).1
  have announced := fun set => negotiation.session.announced_handle set event
  have remote (noOffer : event ≠ .remoteOfferSet) (noAnswer : event ≠ .remoteAnswerSet) :=
    negotiation.session.remote_handle noOffer noAnswer
  have marked (marks : event = .remoteOfferSet ∨ event = .remoteAnswerSet) :=
    negotiation.session.remote_marked hearing.opened marks
  have same (other : ∀ sdp type, event ≠ .localDescriptionCreated sdp type) :=
    congrArg Prod.fst (negotiation.session.description_handle other)
  cases event with
  | localDescriptionCreated sdp type =>
    obtain ⟨creates, rfl⟩ := Request.eq_of_created answers
    have remote := remote (by simp) (by simp)
    refine ⟨drafting.created asks ?_ rfl (silent (by simp)),
      hearing.still asks rfl fixtures remote (added.trans (List.append_nil _)),
      underway.step asks worse announced (fun _ _ _ _ => Or.inr ⟨_, .head _, rfl⟩)
        (congrArg Prod.fst remote).trans fun _ other member sets => ?_⟩
    · rcases creates with rfl | rfl <;> rfl
    · rw [List.mem_singleton.mp member] at sets
      rcases creates with rfl | rfl <;> cases sets
  | localDescriptionSet =>
    obtain ⟨⟨sdp, type, rfl⟩, rfl⟩ := Request.eq_of_announced answers
    have remote := remote (by simp) (by simp)
    refine ⟨drafting.announced was asks (same (by simp)) fun call' own type' member => ?_,
      hearing.still asks rfl fixtures remote (added.trans (List.append_nil _)),
      underway.step asks worse announced (fun _ _ _ _ => Or.inl ?_)
        (congrArg Prod.fst remote).trans fun _ other member sets => ?_⟩
    · refine (List.mem_append.mp member).imp_right fun new => ?_
      cases negotiation.session.emits_of_mem new with
      | announced opened pending => rfl
    · show (negotiation.session.handle .localDescriptionSet).1.localDescriptionAnnounced = true
      rw [PeerSession.handle, PeerSession.announceLocalDescription,
        if_neg (Bool.not_eq_true _ ▸ hearing.opened)]
    · rw [List.mem_singleton.mp member] at sets
      cases sets
  | remoteOfferSet =>
    have sets := Request.eq_of_remoteSet answers (Or.inl rfl)
    have marked := marked (Or.inl rfl)
    refine ⟨drafting.still asks rfl ?_ (same (by simp)) (silent (by simp)),
      hearing.marked asks was sets rfl fixtures marked added,
      underway.step asks worse announced (fun _ _ _ _ => Or.inr ⟨_, .head _, rfl⟩)
        (fun _ => congrArg Prod.fst marked) fun _ _ _ _ => congrArg Prod.fst marked⟩
    obtain ⟨sdp, rfl⟩ := Request.eq_of_remoteOffer answers
    exact Nat.le_refl 1
  | remoteAnswerSet =>
    have sets := Request.eq_of_remoteSet answers (Or.inr rfl)
    have marked := marked (Or.inr rfl)
    refine ⟨drafting.still asks rfl (Nat.zero_le _) (same (by simp)) (silent (by simp)),
      hearing.marked asks was sets rfl fixtures marked added,
      underway.step asks worse announced (fun _ other member mine => ?_)
        (fun _ => congrArg Prod.fst marked) fun _ _ _ _ => congrArg Prod.fst marked⟩
    rw [List.mem_singleton.mp member, Request.not_isLocal_of_remoteAnswer answers] at mine
    cases mine
  | negotiationFailed =>
    have fails := Request.failed_of_event answers
    have remote := remote (by simp) (by simp)
    have never : ¬ (failed || decide (answer = .failed)) = false := by
      rw [fails]
      simp
    exact ⟨drafting.still asks rfl (Nat.zero_le _) (same (by simp)) (silent (by simp)),
      hearing.still asks rfl fixtures remote (added.trans (List.append_nil _)),
      ⟨fun unfailed => absurd unfailed never, fun unfailed => absurd unfailed never⟩⟩
  | _ => exact absurd trivial (Request.not_observed answers)

end

end

/-! ### The first call -/

/-- A session that was created and heard nothing yet. -/
structure Fresh (session : PeerSession Call) : Prop where
  opened : session.closed = false
  connected : session.peerConnection = true
  remote : session.remote = (false, [])

/-- A call that starts a negotiation asks for the first step towards a local description. -/
theorem negotiates_first {session : PeerSession Call} (fresh : Fresh session)
    {result : PeerSession Call × List (Output Call)} {call : Call} {first : Request}
    (fixtures : result.1.fixtures = session.fixtures) (remote : result.1.remote = (false, []))
    (quiet : result.2.filter Output.isOutgoing = [])
    (asked : result.2.filterMap Output.asked = [first])
    (added : result.2.filterMap Output.added = []) (draft : first.isDraft = true) :
    (({ session, calls := 1 } : Negotiation).ranFor call result).Negotiates false
      first.remoteDescription.toList [] := by
  have requests :
      (({ session, calls := 1 } : Negotiation).ranFor call result).requests = [first] := by
    show List.map Prod.snd ([] ++ List.map _ (List.filterMap _ _)) = _
    rw [asked]
    rfl
  have own :
      (({ session, calls := 1 } : Negotiation).ranFor call result).localDescriptions = [] := by
    show List.filterMap _ (List.filterMap _ result.2) = []
    rw [asked]
    cases first with
    | setLocalDescription sdp type => cases draft
    | _ => rfl
  have other : (({ session, calls := 1 } : Negotiation).ranFor call result).remoteDescriptions =
      first.remoteDescription.toList := by
    show List.filterMap _ (List.filterMap _ result.2) = _
    rw [asked]
    cases first <;> rfl
  have heard (sets : first.remoteDescription.isSome) : first.remoteDescription.toList ≠ [] := by
    obtain ⟨sdp, same⟩ := Option.isSome_iff_exists.mp sets
    rw [same]
    exact List.cons_ne_nil _ _
  have unset : result.1.remoteDescriptionSet = false := congrArg Prod.fst remote
  have waiting : result.1.pendingRemoteCandidates = [] := congrArg Prod.snd remote
  refine ⟨⟨?_, ?_, ?_, fun call sdp type member => ?_⟩, ⟨?_, ?_, other, ?_, fun set => ?_, ?_,
    fun _ => added, fun _ => waiting⟩, ⟨fun _ => Or.inr ?_, fun _ described => Or.inr ?_⟩⟩
  · rw [own, requests, List.length_nil, Nat.zero_add]
    exact List.countP_le_length
  · rw [own]
    nofun
  · rw [requests]
    intro request member sdp sets
    rw [List.mem_singleton.mp member] at sets
    cases first with
    | setLocalDescription sdp type => cases draft
    | _ => cases sets
  · exact (PeerSession.not_mem_of_quiet quiet member).elim
  · exact (congrArg (fun fixtures => fixtures.1.2.2.2.1) fixtures).trans fresh.opened
  · exact (congrArg (fun fixtures => fixtures.1.2.2.2.2) fixtures).trans fresh.connected
  · rw [requests]
    intro request member sets
    rw [List.mem_singleton.mp member] at sets
    exact heard sets
  · cases unset.symm.trans set
  · show List.filterMap _ result.2 ++ result.1.pendingRemoteCandidates = []
    rw [added, waiting]
    rfl
  · rw [requests]
    exact ⟨first, .head _, Request.isLocal_of_isDraft draft⟩
  · rw [other] at described
    rw [requests]
    refine ⟨first, .head _, ?_⟩
    cases sets : first.remoteDescription with
    | none =>
      rw [sets] at described
      exact absurd rfl described
    | some sdp => rfl

theorem negotiates_createOffer {session : PeerSession Call} (fresh : Fresh session) :
    (({ session } : Negotiation).next .createOffer).Negotiates false [] [] := by
  have asked := session.asked_createOffer ⟨0, .createOffer⟩
  rw [if_pos fresh.connected] at asked
  refine negotiates_first fresh (PeerSession.fixtures_createOffer _ _) ?_
    (PeerSession.quiet_createOffer _ _) asked ?_ rfl
  · rw [PeerSession.createOffer, if_neg (by rw [fresh.connected]; exact Bool.false_ne_true.symm)]
    exact PeerSession.view_updateState _ PeerSession.remote (fun _ _ => rfl) _
  · rw [PeerSession.createOffer, if_neg (by rw [fresh.connected]; exact Bool.false_ne_true.symm)]
    show List.filterMap _ (_ ++ _) = _
    rw [List.filterMap_append, PeerSession.added_updateState]
    rfl

theorem negotiates_applyRemoteOffer {session : PeerSession Call} (fresh : Fresh session)
    (sdp : ByteString) :
    (({ session } : Negotiation).next (.applyRemoteOffer sdp)).Negotiates false [sdp] [] := by
  have asked := session.asked_applyRemoteOffer sdp ⟨0, .applyRemoteOffer⟩
  rw [if_pos fresh.connected] at asked
  refine negotiates_first fresh (PeerSession.fixtures_applyRemoteOffer _ _ _) ?_
    (PeerSession.quiet_applyRemoteOffer _ _ _) asked ?_ rfl
  · rw [PeerSession.applyRemoteOffer,
      if_neg (by rw [fresh.connected]; exact Bool.false_ne_true.symm)]
    refine (PeerSession.view_updateState _ PeerSession.remote (fun _ _ => rfl) _).trans ?_
    exact congrArg (fun pending => (false, pending)) (congrArg Prod.snd fresh.remote)
  · rw [PeerSession.applyRemoteOffer,
      if_neg (by rw [fresh.connected]; exact Bool.false_ne_true.symm)]
    show List.filterMap _ (_ ++ _) = _
    rw [List.filterMap_append, PeerSession.added_updateState]
    rfl

end Negotiation

end RemoteControl.Peer

/-
This file puts one session among the calls made on it and what libwebrtc calls
back. A request that is answered later stays outstanding until its completion
arrives, in any order; observer callbacks, remote candidates and `Close` come in
between. The SDP callback passed to a call is the call itself, so that a callback
that is invoked says whose it was.

Beside the session the state keeps a history that nothing reads: the descriptions
that were created, the candidates that were gathered, and what the session did.
-/

import RemoteControl.Peer.Callbacks

namespace RemoteControl.Peer

/-! ### Calls, requests and their completions -/

/-- The calls that negotiate. -/
inductive Role where
  | createOffer
  | applyRemoteOffer
  | applyRemoteAnswer
  deriving DecidableEq

/-- One such call. -/
structure Call where
  number : Nat
  role : Role
  deriving DecidableEq

/-- How a request ends: with a description, without one, or with a failure. -/
inductive Answer where
  | created (sdp type : ByteString)
  | done
  | failed
  deriving DecidableEq

/-- The callback that an answer to the request runs, if it can be answered so. -/
def Request.event : Request → Answer → Option SessionEvent
  | .addCandidate _, _ => none
  | _, .failed => some .negotiationFailed
  | .createOffer, .created sdp type | .createAnswer, .created sdp type =>
    some (.localDescriptionCreated sdp type)
  | .setLocalDescription _ _, .done => some .localDescriptionSet
  | .setRemoteDescription _ type, .done =>
    some (if type = bytes "offer" then .remoteOfferSet else .remoteAnswerSet)
  | _, _ => none

/-- The requests on the way to a local description. -/
def Request.isLocal : Request → Bool
  | .createOffer | .createAnswer | .setLocalDescription _ _ => true
  | .setRemoteDescription _ type => type = bytes "offer"
  | .addCandidate _ => false

/-- The callbacks of the observers, as opposed to completions. -/
def SessionEvent.Observed : SessionEvent → Prop
  | .localDescriptionCreated _ _ | .localDescriptionSet | .remoteOfferSet | .remoteAnswerSet
  | .negotiationFailed => False
  | _ => True

/-- The candidate that a callback reports. -/
def SessionEvent.candidate : SessionEvent → Option IceCandidate
  | .iceCandidate candidate => some candidate
  | _ => none

/-- No completion runs the callback of an observer. -/
theorem Request.not_observed {request : Request} {answer : Answer} {event : SessionEvent}
    (answers : request.event answer = some event) : ¬ event.Observed := by
  cases request with
  | setRemoteDescription sdp type =>
    cases answer with
    | created sdp type => cases answers
    | done =>
      rw [← Option.some_inj.mp answers]
      split <;> exact id
    | failed =>
      cases answers
      exact id
  | _ => cases answer <;> cases answers <;> exact id

/-- Only the success of `SetLocalDescription` announces a description. -/
theorem Request.eq_of_announced {request : Request} {answer : Answer}
    (answers : request.event answer = some .localDescriptionSet) :
    (∃ sdp type, request = .setLocalDescription sdp type) ∧ answer = .done := by
  cases request with
  | setLocalDescription sdp type =>
    cases answer with
    | done => exact ⟨⟨sdp, type, rfl⟩, rfl⟩
    | _ => cases answers
  | setRemoteDescription sdp type =>
    cases answer with
    | done =>
      have event := Option.some_inj.mp answers
      split at event <;> cases event
    | _ => cases answers
  | _ => cases answer <;> cases answers

/-- Only `CreateOffer` and `CreateAnswer` create a description. -/
theorem Request.eq_of_created {request : Request} {answer : Answer} {sdp type : ByteString}
    (answers : request.event answer = some (.localDescriptionCreated sdp type)) :
    (request = .createOffer ∨ request = .createAnswer) ∧ answer = .created sdp type := by
  cases request with
  | createOffer =>
    cases answer <;> cases answers
    exact ⟨Or.inl rfl, rfl⟩
  | createAnswer =>
    cases answer <;> cases answers
    exact ⟨Or.inr rfl, rfl⟩
  | setRemoteDescription sdp type =>
    cases answer with
    | done =>
      have event := Option.some_inj.mp answers
      split at event <;> cases event
    | _ => cases answers
  | _ => cases answer <;> cases answers

/-- An answer that is a description creates one. -/
theorem Request.created_of_event {request : Request} {sdp type : ByteString} {event : SessionEvent}
    (answers : request.event (.created sdp type) = some event) :
    event = .localDescriptionCreated sdp type := by
  cases request <;> cases answers <;> rfl

/-- Only the success of `SetRemoteDescription` on an offer sets a remote offer. -/
theorem Request.eq_of_remoteOffer {request : Request} {answer : Answer}
    (answers : request.event answer = some .remoteOfferSet) :
    ∃ sdp, request = .setRemoteDescription sdp (bytes "offer") := by
  cases request with
  | setRemoteDescription sdp type =>
    cases answer with
    | done =>
      have event := Option.some_inj.mp answers
      split at event
      · rename_i offered
        exact ⟨sdp, offered ▸ rfl⟩
      · cases event
    | _ => cases answers
  | _ => cases answer <;> cases answers

section

variable {Callback : Type}

/-- The request an output makes that will be answered. -/
def Output.asked : Output Callback → Option Request
  | .request true (.addCandidate _) => none
  | .request true asked => some asked
  | _ => none

/-- The output invokes the SDP or the ICE callback. -/
def Output.isOutgoing : Output Callback → Bool
  | .sdp _ _ _ | .iceCandidate _ _ => true
  | _ => false

/-- What is read off outputs that invoke neither callback, when it is only read off those. -/
theorem filterMap_of_quiet {β : Type} {outputs : List (Output Callback)}
    {read : Output Callback → Option β} (quiet : outputs.filter Output.isOutgoing = [])
    (silent : ∀ output, ¬ output.isOutgoing → read output = none) :
    outputs.filterMap read = [] :=
  List.filterMap_eq_nil_iff.mpr fun output member =>
    silent output (List.filter_eq_nil_iff.mp quiet output member)

end

/-! ### The session and its environment -/

/-- A session, the requests that are not answered yet, and the history. -/
structure Negotiation where
  session : PeerSession Call
  calls : Nat := 0
  outstanding : List (Call × Request) := []
  /-- Every description that was created: for which call, by which request. -/
  produced : List (Call × Request × ByteString × ByteString) := []
  gathered : List IceCandidate := []
  /-- A request on the way to a local description failed. -/
  failed : Bool := false
  outputs : List (Output Call) := []
  /-- What the session did after it was closed. -/
  late : List (Output Call) := []
  /-- `Close` has set the state to `Closed`. -/
  sealed : Bool := false

/-- A call on the session, the completion of an outstanding request, a report of an observer, or
`Close`. -/
inductive SessionAction where
  | createOffer
  | applyRemoteOffer (sdp : ByteString)
  | applyRemoteAnswer (sdp : ByteString)
  | addRemoteCandidate (candidate : IceCandidate)
  | completion (position : Nat) (answer : Answer)
  | report (event : SessionEvent)
  | close

namespace Negotiation

variable (negotiation : Negotiation)

/-- A method of the session ran. -/
def ran (result : PeerSession Call × List (Output Call)) : Negotiation :=
  { negotiation with
    session := result.1
    outputs := negotiation.outputs ++ result.2
    late := if negotiation.session.closed then negotiation.late ++ result.2
      else negotiation.late }

/-- A method ran for a call, which owns the requests it made. -/
def ranFor (call : Call) (result : PeerSession Call × List (Output Call)) : Negotiation :=
  { negotiation.ran result with
    outstanding := negotiation.outstanding ++ (result.2.filterMap Output.asked).map (call, ·) }

/-- The call that is made next. -/
def nextCall (role : Role) : Call := ⟨negotiation.calls, role⟩

/-- An outstanding request is answered. -/
def answered (position : Nat) (call : Call) (request : Request) (answer : Answer) : Negotiation :=
  { negotiation with
    outstanding := negotiation.outstanding.eraseIdx position
    produced := negotiation.produced ++
      match answer with
      | .created sdp type => [(call, request, sdp, type)]
      | _ => []
    failed := negotiation.failed || request.isLocal && answer = .failed }

/-- What an action does. -/
def next : SessionAction → Negotiation
  | .createOffer =>
    let call := negotiation.nextCall .createOffer
    { negotiation with calls := negotiation.calls + 1 }.ranFor call
      (negotiation.session.createOffer call)
  | .applyRemoteOffer sdp =>
    let call := negotiation.nextCall .applyRemoteOffer
    { negotiation with calls := negotiation.calls + 1 }.ranFor call
      (negotiation.session.applyRemoteOffer sdp call)
  | .applyRemoteAnswer sdp =>
    { negotiation with calls := negotiation.calls + 1 }.ranFor
      (negotiation.nextCall .applyRemoteAnswer)
      (negotiation.session, negotiation.session.applyRemoteAnswer sdp)
  | .addRemoteCandidate candidate =>
    negotiation.ran (negotiation.session.addRemoteCandidate candidate)
  | .completion position answer =>
    match negotiation.outstanding[position]? with
    | none => negotiation
    | some (call, request) =>
      match request.event answer with
      | none => negotiation
      | some event =>
        (negotiation.answered position call request answer).ranFor call
          (negotiation.session.handle event)
  | .report event =>
    { negotiation with gathered := negotiation.gathered ++ event.candidate.toList }.ran
      (negotiation.session.handle event)
  | .close =>
    { negotiation with
      sealed := negotiation.sealed ||
        (!negotiation.session.closed && negotiation.session.peerConnection) }.ran
      negotiation.session.close

/-- Calls, completions, reports and `Close` in any order, on a session that `Create` has made. -/
def system : Transition.System Negotiation SessionAction where
  initial negotiation :=
    ∃ session : PeerSession Call, session.closed = false ∧ negotiation = { session }
  allowed _
    | .report event => event.Observed
    | _ => True
  next := next

/-! ### The method an action runs -/

/-- The callback an action delivers, if it does. -/
def callback : SessionAction → Option SessionEvent
  | .completion position answer =>
    negotiation.outstanding[position]?.bind fun entry => entry.2.event answer
  | .report event => some event
  | _ => none

/-- What the method returns that the action runs. -/
def result : SessionAction → PeerSession Call × List (Output Call)
  | .createOffer => negotiation.session.createOffer (negotiation.nextCall .createOffer)
  | .applyRemoteOffer sdp =>
    negotiation.session.applyRemoteOffer sdp (negotiation.nextCall .applyRemoteOffer)
  | .applyRemoteAnswer sdp => (negotiation.session, negotiation.session.applyRemoteAnswer sdp)
  | .addRemoteCandidate candidate => negotiation.session.addRemoteCandidate candidate
  | .completion position answer =>
    match negotiation.callback (.completion position answer) with
    | none => (negotiation.session, [])
    | some event => negotiation.session.handle event
  | .report event => negotiation.session.handle event
  | .close => negotiation.session.close

/-- An action that delivers a callback runs it. -/
theorem result_of_callback {action : SessionAction} {event : SessionEvent}
    (delivered : negotiation.callback action = some event) :
    negotiation.result action = negotiation.session.handle event := by
  cases action with
  | completion position answer => rw [result, delivered]
  | report reported =>
    cases delivered
    rfl
  | _ => cases delivered

/-- The two kinds of completions: it answers no outstanding request, or it runs a callback. -/
theorem completion_cases (position : Nat) (answer : Answer) :
    negotiation.callback (.completion position answer) = none ∧
        negotiation.next (.completion position answer) = negotiation ∨
      ∃ call request event, negotiation.outstanding[position]? = some (call, request) ∧
        request.event answer = some event ∧
        negotiation.callback (.completion position answer) = some event ∧
        negotiation.next (.completion position answer) =
          (negotiation.answered position call request answer).ranFor call
            (negotiation.session.handle event) := by
  rw [next, callback]
  cases present : negotiation.outstanding[position]? with
  | none => exact Or.inl ⟨rfl, rfl⟩
  | some entry =>
    obtain ⟨call, request⟩ := entry
    rw [Option.bind_some]
    simp only
    cases answers : request.event answer with
    | none => exact Or.inl ⟨rfl, rfl⟩
    | some event => exact Or.inr ⟨call, request, event, rfl, answers, rfl, rfl⟩

/-- An action runs its method and records what it did. -/
theorem next_spec (action : SessionAction) :
    (negotiation.next action).session = (negotiation.result action).1 ∧
      (negotiation.next action).outputs = negotiation.outputs ++ (negotiation.result action).2 ∧
      (negotiation.next action).late =
        if negotiation.session.closed then negotiation.late ++ (negotiation.result action).2
        else negotiation.late := by
  cases action with
  | completion position answer =>
    rcases negotiation.completion_cases position answer with
      ⟨silent, same⟩ | ⟨call, request, event, -, -, delivered, same⟩
    · rw [same, result, silent, List.append_nil, List.append_nil, ite_self]
      exact ⟨rfl, rfl, rfl⟩
    · rw [same, result, delivered]
      exact ⟨rfl, rfl, rfl⟩
  | createOffer => exact ⟨rfl, rfl, rfl⟩
  | applyRemoteOffer sdp => exact ⟨rfl, rfl, rfl⟩
  | applyRemoteAnswer sdp => exact ⟨rfl, rfl, rfl⟩
  | addRemoteCandidate candidate => exact ⟨rfl, rfl, rfl⟩
  | report event => exact ⟨rfl, rfl, rfl⟩
  | close => exact ⟨rfl, rfl, rfl⟩

end Negotiation

/-- A session that was just created. -/
def createdSession : Negotiation :=
  { session := { remoteUserId := bytes "bob", options := {}, peerConnection := true } }

/-! ### The requests the methods make -/

namespace PeerSession

section

variable {Callback : Type} (session : PeerSession Callback)

theorem asked_markRemoteDescriptionSet :
    session.markRemoteDescriptionSet.2.filterMap Output.asked = [] := by
  rw [List.filterMap_eq_nil_iff]
  intro output member
  obtain ⟨-, candidate, rfl⟩ := session.mem_markRemoteDescriptionSet member
  rfl

theorem asked_updateState (state : PeerSessionState) :
    (session.updateState state).2.filterMap Output.asked = [] := by
  refine List.filterMap_eq_nil_iff.mpr fun output member => ?_
  rw [(session.mem_updateState member).2]
  rfl

theorem asked_createOffer (callback : Callback) :
    (session.createOffer callback).2.filterMap Output.asked =
      if session.peerConnection then [.createOffer] else [] := by
  rw [createOffer]
  cases connected : session.peerConnection with
  | false => rfl
  | true =>
    rw [if_neg Bool.false_ne_true.symm]
    show List.filterMap _ (_ ++ [Output.request (updateState _ _).1.peerConnection _]) = _
    rw [List.filterMap_append, asked_updateState, peerConnection_updateState]
    rfl

theorem asked_applyRemoteOffer (sdp : ByteString) (callback : Callback) :
    (session.applyRemoteOffer sdp callback).2.filterMap Output.asked =
      if session.peerConnection then [.setRemoteDescription sdp (bytes "offer")] else [] := by
  rw [applyRemoteOffer]
  cases connected : session.peerConnection with
  | false => rfl
  | true =>
    rw [if_neg Bool.false_ne_true.symm]
    show List.filterMap _ (_ ++ [Output.request (updateState _ _).1.peerConnection _]) = _
    rw [List.filterMap_append, asked_updateState, peerConnection_updateState]
    rfl

theorem asked_applyRemoteAnswer (sdp : ByteString) :
    (session.applyRemoteAnswer sdp).filterMap Output.asked =
      if session.peerConnection then [.setRemoteDescription sdp (bytes "answer")] else [] := by
  rw [applyRemoteAnswer]
  split <;> rfl

/-- The requests that a callback makes and that will be answered. -/
theorem asked_handle (event : SessionEvent) :
    (session.handle event).2.filterMap Output.asked =
      if session.peerConnection then
        match event with
        | .localDescriptionCreated sdp type => [.setLocalDescription sdp type]
        | .remoteOfferSet => [.createAnswer]
        | _ => []
      else [] := by
  have silent (quiet : ∀ output, session.Emits event output → output.asked = none) :
      (session.handle event).2.filterMap Output.asked = [] :=
    List.filterMap_eq_nil_iff.mpr fun output member => quiet output (session.emits_of_mem member)
  cases event with
  | localDescriptionCreated sdp type =>
    rw [handle, localDescriptionCreated]
    cases session.peerConnection <;> rfl
  | remoteOfferSet =>
    have kept : session.markRemoteDescriptionSet.1.peerConnection = session.peerConnection :=
      congrArg (fun fixtures => fixtures.1.2.2.2.2) session.fixtures_markRemoteDescriptionSet
    rw [handle, remoteOfferSet]
    simp only
    rw [List.filterMap_append, asked_markRemoteDescriptionSet, kept]
    cases session.peerConnection <;> rfl
  | _ =>
    rw [silent]
    · split <;> rfl
    · intro output emits
      cases emits <;> rfl

/-! ### What the methods pass on -/

/-- A callback other than the completion of the local description and a local candidate invokes
neither the SDP nor the ICE callback. -/
theorem quiet_handle {event : SessionEvent} (other : event ≠ .localDescriptionSet)
    (noCandidate : ∀ candidate, event ≠ .iceCandidate candidate) :
    (session.handle event).2.filter Output.isOutgoing = [] := by
  refine List.filter_eq_nil_iff.mpr fun output member => ?_
  have emits := session.emits_of_mem member
  cases emits with
  | announced opened pending => exact absurd rfl other
  | gathered opened bound candidate => exact absurd rfl other
  | reported opened bound candidate => exact absurd rfl (noCandidate candidate)
  | _ => exact Bool.false_ne_true

theorem quiet_updateState (state : PeerSessionState) :
    (session.updateState state).2.filter Output.isOutgoing = [] := by
  refine List.filter_eq_nil_iff.mpr fun output member => ?_
  rw [(session.mem_updateState member).2]
  exact Bool.false_ne_true

theorem quiet_applyRemoteAnswer (sdp : ByteString) :
    (session.applyRemoteAnswer sdp).filter Output.isOutgoing = [] := by
  rw [applyRemoteAnswer]
  split <;> rfl

theorem quiet_addRemoteCandidate (item : IceCandidate) :
    (session.addRemoteCandidate item).2.filter Output.isOutgoing = [] := by
  rw [addRemoteCandidate]
  split
  · rfl
  · split <;> rfl

theorem quiet_close : session.close.2.filter Output.isOutgoing = [] := by
  rw [close]
  split
  · rfl
  · simp only
    split
    · rfl
    · exact quiet_updateState _ _

theorem quiet_createOffer (callback : Callback) :
    (session.createOffer callback).2.filter Output.isOutgoing = [] := by
  rw [createOffer]
  split
  · rfl
  · show List.filter _ (_ ++ _) = _
    rw [List.filter_append, quiet_updateState]
    rfl

theorem quiet_applyRemoteOffer (sdp : ByteString) (callback : Callback) :
    (session.applyRemoteOffer sdp callback).2.filter Output.isOutgoing = [] := by
  rw [applyRemoteOffer]
  split
  · rfl
  · show List.filter _ (_ ++ _) = _
    rw [List.filter_append, quiet_updateState]
    rfl

end

end PeerSession

end RemoteControl.Peer

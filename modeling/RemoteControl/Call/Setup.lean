/-
This file follows one call from the offer to the last candidate. The description and
the candidates of the caller cross the server and reach the session of the callee;
the answer and the callee's candidates come back. libwebrtc answers its requests in
any order, the lines of either side are dispatched in theirs, and two threads of each
program hand candidates to libwebrtc. A run ends where one of the two hangs up.
-/

import RemoteControl.Call.Relay
import RemoteControl.Peer.Descriptions

namespace RemoteControl

open Peer (SessionAction IceCandidate)

namespace CallMessage

/-- What a message calls on the session with its sender. -/
def action : CallMessage → Option SessionAction
  | .offer sdp => some (.applyRemoteOffer sdp)
  | .answer sdp => some (.applyRemoteAnswer sdp)
  | .candidate mid mlineIndex text => some (.addRemoteCandidate ⟨mid, mlineIndex, text⟩)
  | .hangup => none

def description : CallMessage → Option ByteString
  | .offer sdp | .answer sdp => some sdp
  | _ => none

def iceCandidate : CallMessage → Option IceCandidate
  | .candidate mid mlineIndex text => some ⟨mid, mlineIndex, text⟩
  | _ => none

end CallMessage

namespace Call

open Peer (Negotiation PeerSession Role Answer SessionEvent Output proper)
open SignalingServer (Registrable Undisturbed addSender)

/-! ### The two programs -/

/-- Caller and callee, by name, with the session each dialog sets up for the other. The caller is
on the left. Nobody is called as the field of the sender. -/
structure CallParties where
  userId : Side → ByteString
  registrable : ∀ side, Registrable (userId side)
  addressable : ∀ side, userId side ≠ bytes "fromUserId"
  session : Side → PeerSession Peer.Call
  fresh : ∀ side, Negotiation.Fresh (session side)
  bound : ∀ side, (session side).iceCandidateCallback = some (userId side.other)

/-- The call a session is set up with. -/
def Side.role : Side → Role
  | .left => .createOffer
  | .right => .applyRemoteOffer

/-- The threads that hand candidates to libwebrtc. -/
inductive Thread where
  | userInterface
  | signaling
  deriving DecidableEq

/-- One of the two programs, as far as the call goes: the session with its requests, whether one of
them has failed, the candidates that each thread is about to hand to libwebrtc, and those that were
handed over. -/
structure Participant where
  negotiation : Negotiation
  failed : Bool := false
  pending : Thread → List IceCandidate := fun _ => []
  applied : List IceCandidate := []

/-- A thread runs a method of the session and is left with the candidates to hand over. -/
def Participant.act (participant : Participant) (thread : Thread) (action : SessionAction) :
    Participant :=
  { participant with
    negotiation := participant.negotiation.next action
    pending := Function.update participant.pending thread (participant.pending thread ++
      (participant.negotiation.result action).2.filterMap Output.added) }

/-- One `AddCandidate`. -/
def Participant.addCandidate (participant : Participant) (thread : Thread) : Participant :=
  { participant with
    pending := Function.update participant.pending thread (participant.pending thread).tail
    applied := participant.applied ++ (participant.pending thread).head?.toList }

/-- The message of the ICE callback. -/
def candidateMessage (candidate : IceCandidate) : CallMessage :=
  .candidate candidate.mid candidate.mlineIndex candidate.candidate

/-- The message that the SDP callback of a call sends. -/
def describe (sdp : ByteString) : Role → CallMessage
  | .createOffer => .offer sdp
  | .applyRemoteOffer | .applyRemoteAnswer => .answer sdp

/-- The message an output sends to the user of the session. -/
def message : Output Peer.Call → Option CallMessage
  | .sdp call sdp _ => some (describe sdp call.role)
  | .iceCandidate _ candidate => some (candidateMessage candidate)
  | _ => none

/-- What `DispatchSignalingMessage` calls on the session with a user. -/
def heard (userId json : ByteString) : Option SessionAction :=
  let type := SignalingProtocol.stringField json (bytes "type")
  if SignalingProtocol.stringField json (bytes "fromUserId") ≠ userId then none
  else if type = bytes "offer" then
    some (.applyRemoteOffer (SignalingProtocol.stringField json (bytes "sdp")))
  else if type = bytes "answer" then
    some (.applyRemoteAnswer (SignalingProtocol.stringField json (bytes "sdp")))
  else if type = bytes "ice-candidate" then
    some (.addRemoteCandidate
      { mid := SignalingProtocol.stringField json (bytes "mid")
        mlineIndex := SignalingProtocol.intField json (bytes "mlineIndex") 0
        candidate := SignalingProtocol.stringField json (bytes "candidate") })
  else none

/-- The two programs, as far as they take part, and how many lines of the other each of them has
dispatched. -/
structure Setup where
  participant : Side → Option Participant
  dispatched : Side → Nat := fun _ => 0

inductive SetupAction where
  /-- libwebrtc answers a request. -/
  | completion (position : Nat) (answer : Answer)
  /-- An observer is called. -/
  | report (event : SessionEvent)
  | addCandidate (thread : Thread)
  /-- `DispatchSignalingMessage` on the next line of the other side. -/
  | dispatch

namespace Setup

variable (parties : CallParties) (setup : Setup)

/-- What a side has sent. -/
def sent (side : Side) : List CallMessage :=
  ((setup.participant side).map fun participant =>
    participant.negotiation.outputs.filterMap message).getD []

/-- What a side has dispatched. -/
def received (side : Side) : List CallMessage :=
  (setup.sent side.other).take (setup.dispatched side)

def change (side : Side) (change : Participant → Participant) : Setup :=
  { setup with
    participant :=
      Function.update setup.participant side ((setup.participant side).map change) }

/-- The next line of the other side, as the server has routed it. -/
def hear (side : Side) (line : ByteString) : Setup where
  dispatched := Function.update setup.dispatched side (setup.dispatched side + 1)
  participant := Function.update setup.participant side
    (match heard (parties.userId side.other) line, setup.participant side with
    | some (.applyRemoteOffer sdp), none =>
      some { negotiation :=
        ({ session := parties.session side } : Negotiation).next (.applyRemoteOffer sdp) }
    | some action, some participant => some (participant.act .userInterface action)
    | _, participant => participant)

def next : Side × SetupAction → Setup
  | (side, .completion position answer) =>
    setup.change side fun participant =>
      { participant.act .signaling (.completion position answer) with
        failed := participant.failed || answer = Answer.failed }
  | (side, .report event) =>
    setup.change side fun participant => participant.act .signaling (.report event)
  | (side, .addCandidate thread) =>
    setup.change side fun participant => participant.addCandidate thread
  | (side, .dispatch) =>
    match (setup.sent side.other)[setup.dispatched side]? with
    | none => setup
    | some message =>
      setup.hear parties side
        (addSender (message.line (parties.userId side)) (parties.userId side.other))

/-- Outstanding requests are answered, and the candidates that are reported can be told. A thread is
not kept from its next call while it still has candidates to hand over, which only adds runs. -/
def Allowed : Side × SetupAction → Prop
  | (side, .completion position answer) => ∀ participant ∈ setup.participant side,
    (participant.negotiation.callback (.completion position answer)).isSome
  | (side, .report event) => event.Observed ∧
    ∀ candidate ∈ event.candidate,
      Undisturbed (parties.userId side.other) (candidateMessage candidate)
  | _ => True

instance decidableObserved : ∀ event : SessionEvent, Decidable event.Observed
  | .localDescriptionCreated _ _ | .localDescriptionSet | .remoteOfferSet | .remoteAnswerSet
  | .negotiationFailed => isFalse id
  | .iceCandidate _ | .peerConnectionState _ | .track _ | .dataChannel _ | .channelState _
  | .message _ _ _ | .frameStatus _ _ _ => isTrue trivial

instance (action : Side × SetupAction) : Decidable (setup.Allowed parties action) :=
  match action with
  | (_, .completion _ _) => inferInstanceAs (Decidable (∀ participant ∈ _, _ = true))
  | (_, .report event) => inferInstanceAs (Decidable (event.Observed ∧ ∀ candidate ∈ _, _))
  | (_, .addCandidate _) | (_, .dispatch) => isTrue trivial

/-- The caller has called `CreateOffer`. -/
def start : Setup where
  participant
    | .left => some { negotiation :=
      ({ session := parties.session .left } : Negotiation).next .createOffer }
    | .right => none

def system : Transition.System Setup (Side × SetupAction) where
  initial setup := setup = start parties
  allowed := Allowed parties
  next := next parties

instance (action : Side × SetupAction) : Decidable ((system parties).allowed setup action) :=
  inferInstanceAs (Decidable (setup.Allowed parties action))

end Setup

/-! ### What a line does -/

/-- A message that is not disturbed does on the other side what it is meant to do. -/
theorem heard_addSender {senderId toUser : ByteString} (sender : Registrable senderId)
    (target : Registrable toUser) {message : CallMessage}
    (undisturbed : Undisturbed toUser message) :
    heard senderId (addSender (message.line toUser) senderId) = message.action := by
  obtain ⟨-, type, from_, content⟩ :=
    (SignalingServer.transparent_iff sender target message).mpr undisturbed
  rw [heard, type, from_, if_neg (not_not.mpr rfl)]
  cases message with
  | offer sdp =>
    rw [content]
    exact if_pos rfl
  | answer sdp =>
    rw [content]
    exact (if_neg (show bytes "answer" ≠ bytes "offer" by decide)).trans (if_pos rfl)
  | candidate mid mlineIndex text =>
    obtain ⟨mid_, index, text_⟩ := content
    rw [mid_, index, text_]
    exact (if_neg (show bytes "ice-candidate" ≠ bytes "offer" by decide)).trans
      ((if_neg (show bytes "ice-candidate" ≠ bytes "answer" by decide)).trans (if_pos rfl))
  | hangup =>
    exact (if_neg (show bytes "hangup" ≠ bytes "offer" by decide)).trans
      ((if_neg (show bytes "hangup" ≠ bytes "answer" by decide)).trans
        (if_neg (show bytes "hangup" ≠ bytes "ice-candidate" by decide)))

/-! ### What a participant has sent and heard -/

theorem message_eq_none {output : Output Peer.Call} (quiet : ¬ output.isOutgoing) :
    message output = none := by
  cases output with
  | sdp call sdp type => exact absurd rfl quiet
  | iceCandidate remoteUserId candidate => exact absurd rfl quiet
  | _ => rfl

/-- A description and the candidates behind it. -/
def introduction (role : Role) (sdp : ByteString) (candidates : List IceCandidate) :
    List CallMessage :=
  describe sdp role :: candidates.map candidateMessage

theorem description_introduction (role : Role) (sdp : ByteString)
    (candidates : List IceCandidate) :
    (introduction role sdp candidates).filterMap CallMessage.description = [sdp] := by
  have first : (describe sdp role).description = some sdp := by
    cases role <;> rfl
  rw [introduction, List.filterMap_cons_some first, List.filterMap_map]
  exact congrArg _ (List.filterMap_eq_nil_iff.mpr fun _ _ => rfl)

theorem iceCandidate_introduction (role : Role) (sdp : ByteString)
    (candidates : List IceCandidate) :
    (introduction role sdp candidates).filterMap CallMessage.iceCandidate = candidates := by
  have first : (describe sdp role).iceCandidate = none := by
    cases role <;> rfl
  rw [introduction, List.filterMap_cons_none first, List.filterMap_map]
  exact List.filterMap_some

/-- A participant that has heard these messages. -/
structure Engaged (parties : CallParties) (side : Side) (received : List CallMessage)
    (participant : Participant) : Prop where
  ordered : participant.negotiation.Ordered ⟨0, side.role⟩ (parties.userId side.other)
  negotiates : participant.negotiation.Negotiates participant.failed
    (received.filterMap CallMessage.description)
    (proper (received.filterMap CallMessage.iceCandidate))
  threads : (participant.applied ++
    (participant.pending .userInterface ++ participant.pending .signaling)).Perm
      participant.negotiation.added
  undisturbed : ∀ candidate ∈ participant.negotiation.gathered,
    Undisturbed (parties.userId side.other) (candidateMessage candidate)

section

variable {parties : CallParties} {side : Side} {received : List CallMessage}
  {participant : Participant}

/-- What is sent is what the two callbacks were invoked with. -/
theorem filterMap_message (negotiation : Negotiation) :
    negotiation.outputs.filterMap message = negotiation.outgoing.filterMap message := by
  rw [Negotiation.outgoing, List.filterMap_filter]
  refine List.filterMap_congr fun output _ => ?_
  by_cases told : output.isOutgoing
  · rw [if_pos told]
  · rw [if_neg told, message_eq_none told]

theorem Engaged.sent_of_silent (engaged : Engaged parties side received participant)
    (silent : participant.negotiation.session.localDescriptionAnnounced = false) :
    participant.negotiation.outputs.filterMap message = [] := by
  rw [filterMap_message, engaged.ordered.silent silent]
  rfl

/-- Once it is announced, a participant has sent its description and then candidates. -/
theorem Engaged.sent_of_announced (engaged : Engaged parties side received participant)
    (announced : participant.negotiation.session.localDescriptionAnnounced = true) :
    ∃ sdp, participant.negotiation.localDescriptions = [sdp] ∧
      participant.negotiation.outputs.filterMap message =
        introduction side.role sdp participant.negotiation.emitted := by
  obtain ⟨sdp, type, spoken⟩ := engaged.ordered.spoken announced
  refine ⟨sdp, engaged.negotiates.drafting.spoken ⟨0, side.role⟩ sdp type ?_, ?_⟩
  · have first : Output.sdp ⟨0, side.role⟩ sdp type ∈ participant.negotiation.outgoing := by
      rw [spoken]
      exact .head _
    exact (List.mem_filter.mp first).1
  · rw [filterMap_message, spoken]
    show describe sdp side.role :: List.filterMap message (List.map _ _) = _
    rw [List.filterMap_map]
    exact congrArg _ (congrFun List.filterMap_eq_map _)

/-- A participant has sent nothing, or its description and then candidates. -/
theorem Engaged.sent (engaged : Engaged parties side received participant) :
    participant.negotiation.outputs.filterMap message = [] ∨
      ∃ sdp, participant.negotiation.localDescriptions = [sdp] ∧
        participant.negotiation.outputs.filterMap message =
          introduction side.role sdp participant.negotiation.emitted := by
  cases announced : participant.negotiation.session.localDescriptionAnnounced with
  | false => exact Or.inl (engaged.sent_of_silent announced)
  | true => exact Or.inr (engaged.sent_of_announced announced)

/-- The candidates that were passed on are among those that were gathered. -/
theorem Engaged.undisturbed_sent (engaged : Engaged parties side received participant)
    {sent : CallMessage} (member : sent ∈ participant.negotiation.outputs.filterMap message) :
    Undisturbed (parties.userId side.other) sent := by
  rcases engaged.sent with none | ⟨sdp, -, shape⟩
  · rw [none] at member
    cases member
  · rw [shape] at member
    rcases List.mem_cons.mp member with rfl | candidates
    · cases side <;> exact parties.addressable _
    · obtain ⟨candidate, emitted, rfl⟩ := List.mem_map.mp candidates
      exact engaged.undisturbed candidate (engaged.ordered.gathered.subset emitted)

/-- The candidates a thread is left with are those its method handed over. -/
theorem Engaged.threads_act (engaged : Engaged parties side received participant) (thread : Thread)
    (action : SessionAction) :
    let after := participant.act thread action
    (after.applied ++ (after.pending .userInterface ++ after.pending .signaling)).Perm
      after.negotiation.added := by
  have added : (participant.negotiation.next action).added = participant.negotiation.added ++
      (participant.negotiation.result action).2.filterMap Output.added := by
    rw [Negotiation.added, (participant.negotiation.next_spec action).2.1, List.filterMap_append]
    rfl
  have threads := engaged.threads
  simp only [Participant.act]
  rw [added]
  refine List.Perm.trans ?_ (threads.append_right _)
  rw [List.perm_iff_count]
  intro counted
  cases thread with
  | userInterface =>
    simp [Function.update]
    omega
  | signaling => simp [Function.update]

theorem Engaged.completion (engaged : Engaged parties side received participant) {position : Nat}
    {answer : Answer}
    (answers : (participant.negotiation.callback (.completion position answer)).isSome) :
    Engaged parties side received { participant.act .signaling (.completion position answer) with
      failed := participant.failed || answer = Answer.failed } := by
  have allowed : (Negotiation.oneCall (parties.session side) .createOffer).allowed
      participant.negotiation (.completion position answer) := ⟨trivial, fun _ => nofun⟩
  refine ⟨Negotiation.ordered_next engaged.ordered allowed, ?_,
    engaged.threads_act .signaling (.completion position answer), ?_⟩
  · show Negotiation.Negotiates (participant.negotiation.next (.completion position answer)) _ _ _
    rcases participant.negotiation.completion_cases position answer with
      ⟨silent, -⟩ | ⟨call, request, event, present, event_, -, same⟩
    · rw [silent] at answers
      cases answers
    · rw [same]
      exact engaged.negotiates.completed present event_
  · show ∀ candidate ∈ (participant.negotiation.next (.completion position answer)).gathered, _
    rcases participant.negotiation.completion_cases position answer with
      ⟨silent, -⟩ | ⟨call, request, event, -, -, -, same⟩
    · rw [silent] at answers
      cases answers
    · rw [same]
      exact engaged.undisturbed

theorem Engaged.report (engaged : Engaged parties side received participant) {event : SessionEvent}
    (observed : event.Observed) (undisturbed : ∀ candidate ∈ event.candidate,
      Undisturbed (parties.userId side.other) (candidateMessage candidate)) :
    Engaged parties side received (participant.act .signaling (.report event)) := by
  refine ⟨engaged.ordered.report observed, engaged.negotiates.report observed,
    engaged.threads_act _ _, fun candidate member => ?_⟩
  rcases List.mem_append.mp member with before | new
  · exact engaged.undisturbed candidate before
  · exact undisturbed candidate (Option.mem_toList.mp new)

/-- A thread goes on to its next candidate. -/
theorem Engaged.addCandidate (engaged : Engaged parties side received participant)
    (thread : Thread) : Engaged parties side received (participant.addCandidate thread) := by
  refine ⟨engaged.ordered, engaged.negotiates, List.Perm.trans ?_ engaged.threads,
    engaged.undisturbed⟩
  have taken : participant.pending thread = (participant.pending thread).head?.toList ++
      (participant.pending thread).tail := by
    cases participant.pending thread <;> rfl
  rw [List.perm_iff_count]
  intro counted
  have split := congrArg (List.count counted) taken
  rw [List.count_append] at split
  cases thread <;> (simp [Participant.addCandidate, Function.update]; omega)

theorem Engaged.answer (engaged : Engaged parties side received participant) (sdp : ByteString) :
    Engaged parties side (received ++ [.answer sdp])
      (participant.act .userInterface (.applyRemoteAnswer sdp)) := by
  refine ⟨engaged.ordered.applyRemoteAnswer sdp, ?_, engaged.threads_act _ _, engaged.undisturbed⟩
  rw [List.filterMap_append, List.filterMap_append]
  show Negotiation.Negotiates _ _ (_ ++ [sdp]) (proper (_ ++ []))
  rw [List.append_nil]
  exact engaged.negotiates.applyRemoteAnswer sdp

theorem Engaged.candidate (engaged : Engaged parties side received participant)
    (candidate : IceCandidate) :
    Engaged parties side (received ++ [candidateMessage candidate])
      (participant.act .userInterface (.addRemoteCandidate candidate)) := by
  refine ⟨engaged.ordered.addRemoteCandidate candidate, ?_, engaged.threads_act _ _,
    engaged.undisturbed⟩
  rw [List.filterMap_append, List.filterMap_append]
  show Negotiation.Negotiates _ _ (_ ++ []) (proper (_ ++ [candidate]))
  rw [List.append_nil, proper, List.filter_append]
  exact engaged.negotiates.addRemoteCandidate candidate

end

/-! ### Both sides -/

namespace Setup

/-- The caller takes part from the start, the callee from its first line on. -/
structure Sound (parties : CallParties) (setup : Setup) : Prop where
  engaged : ∀ side, ∀ participant ∈ setup.participant side,
    Engaged parties side (setup.received side) participant
  caller : (setup.participant .left).isSome
  callee : setup.participant .right = none ↔ setup.dispatched .right = 0
  within : ∀ side, setup.dispatched side ≤ (setup.sent side.other).length

section

variable {parties : CallParties} {setup after : Setup} {side : Side}

theorem sent_of_some {participant : Participant}
    (present : setup.participant side = some participant) :
    setup.sent side = participant.negotiation.outputs.filterMap message := by
  rw [sent, present]
  rfl

theorem sent_of_none (absent : setup.participant side = none) : setup.sent side = [] := by
  rw [sent, absent]
  rfl

/-- A step of one side that takes nothing back. -/
theorem Sound.step (sound : setup.Sound parties)
    (grows : ∀ place, setup.sent place <+: after.sent place)
    (elsewhere : after.participant side.other = setup.participant side.other)
    (still : after.dispatched side.other = setup.dispatched side.other)
    (here : ∀ participant ∈ after.participant side,
      Engaged parties side (after.received side) participant)
    (caller : (after.participant .left).isSome)
    (callee : after.participant .right = none ↔ after.dispatched .right = 0)
    (within : after.dispatched side ≤ (setup.sent side.other).length) : after.Sound parties := by
  have inside (place : Side) : after.dispatched place ≤ (setup.sent place.other).length := by
    rcases Side.eq_or_other side place with rfl | rfl
    · exact within
    · rw [still]
      exact sound.within side.other
  refine ⟨fun place participant present => ?_, caller, callee,
    fun place => (inside place).trans (grows place.other).length_le⟩
  rcases Side.eq_or_other side place with rfl | rfl
  · exact here participant present
  · rw [elsewhere] at present
    have same : after.received side.other = setup.received side.other := by
      obtain ⟨more, longer⟩ := grows side.other.other
      rw [received, received, still, ← longer,
        List.take_append_of_le_length (sound.within side.other)]
    rw [same]
    exact sound.engaged _ participant present

/-- A side runs a method that is not called by a line. -/
theorem Sound.change (sound : setup.Sound parties) {act : Participant → Participant}
    (engaged : ∀ participant ∈ setup.participant side,
      Engaged parties side (setup.received side) (act participant))
    (grows : ∀ participant : Participant, participant.negotiation.outputs <+:
      (act participant).negotiation.outputs) : (setup.change side act).Sound parties := by
  have here : (setup.change side act).participant side = (setup.participant side).map act :=
    Function.update_self _ _ _
  have elsewhere : (setup.change side act).participant side.other = setup.participant side.other :=
    Function.update_of_ne side.other_ne _ _
  have longer (place : Side) : setup.sent place <+: (setup.change side act).sent place := by
    rcases Side.eq_or_other side place with rfl | rfl
    · rw [sent, sent, here]
      cases setup.participant place with
      | none => exact List.prefix_rfl
      | some participant => exact (grows participant).filterMap _
    · rw [sent, sent, elsewhere]
  have taken (place : Side) :
      (setup.change side act).participant place = none ↔ setup.participant place = none := by
    rcases Side.eq_or_other side place with rfl | rfl
    · rw [here, Option.map_eq_none_iff]
    · rw [elsewhere]
  have still : (setup.change side act).dispatched = setup.dispatched := rfl
  refine sound.step longer elsewhere rfl (fun participant present => ?_) ?_ ?_ (sound.within side)
  · rw [here] at present
    obtain ⟨before, there, rfl⟩ := Option.map_eq_some_iff.mp present
    have same : (setup.change side act).received side = setup.received side := by
      rw [received, received, sent, sent, elsewhere, still]
    rw [same]
    exact engaged before there
  · rw [← Option.ne_none_iff_isSome]
    exact (taken .left).not.mpr (Option.ne_none_iff_isSome.mpr sound.caller)
  · rw [taken, still]
    exact sound.callee

/-- Of the lines of a side the first holds its description, and each later one a candidate. -/
theorem told_cases {received : List CallMessage} {participant : Participant}
    (engaged : Engaged parties side received participant) {position : Nat} {told : CallMessage}
    (next : (participant.negotiation.outputs.filterMap message)[position]? = some told) :
    (position = 0 ∧ ∃ sdp, told = describe sdp side.role) ∨
      position ≠ 0 ∧ ∃ candidate, told = candidateMessage candidate := by
  rcases engaged.sent with none | ⟨sdp, -, shape⟩
  · rw [none] at next
    cases next
  · rw [shape] at next
    cases position with
    | zero =>
      cases next
      exact Or.inl ⟨rfl, sdp, rfl⟩
    | succ position =>
      obtain ⟨candidate, -, rfl⟩ := List.mem_map.mp (List.mem_of_getElem? next)
      exact Or.inr ⟨Nat.succ_ne_zero _, candidate, rfl⟩

/-- The session that an offer sets up. -/
theorem engaged_offer (parties : CallParties) (sdp : ByteString) :
    Engaged parties .right [.offer sdp] { negotiation :=
      ({ session := parties.session .right } : Negotiation).next (.applyRemoteOffer sdp) } := by
  have fresh := parties.fresh .right
  have negotiates := Negotiation.negotiates_applyRemoteOffer fresh sdp
  have nothing := (List.append_eq_nil_iff.mp negotiates.hearing.kept).1
  refine ⟨Negotiation.ordered_start fresh.opened fresh.connected (parties.bound .right)
    (.applyRemoteOffer sdp), negotiates, ?_, nofun⟩
  rw [nothing]
  exact .refl _

/-- A side that takes part hears an answer or a candidate. -/
theorem engaged_hear {received : List CallMessage} {participant : Participant}
    (engaged : Engaged parties side received participant) {told : CallMessage}
    (follows : (∃ sdp, told = .answer sdp) ∨ ∃ candidate, told = candidateMessage candidate) :
    ∃ action, told.action = some action ∧
      Engaged parties side (received ++ [told]) (participant.act .userInterface action) := by
  rcases follows with ⟨sdp, rfl⟩ | ⟨candidate, rfl⟩
  · exact ⟨_, rfl, engaged.answer sdp⟩
  · exact ⟨_, rfl, engaged.candidate candidate⟩

/-- A side has dispatched the next line of the other, which leaves it with this participant. -/
theorem Sound.hear (sound : setup.Sound parties) {told : CallMessage}
    (next : (setup.sent side.other)[setup.dispatched side]? = some told) {line : ByteString}
    {participant : Participant}
    (here : (setup.hear parties side line).participant side = some participant)
    (engaged : Engaged parties side (setup.received side ++ [told]) participant)
    (longer : setup.sent side <+: participant.negotiation.outputs.filterMap message) :
    (setup.hear parties side line).Sound parties := by
  have dispatched : (setup.hear parties side line).dispatched side = setup.dispatched side + 1 :=
    Function.update_self _ _ _
  have still : (setup.hear parties side line).dispatched side.other = setup.dispatched side.other :=
    Function.update_of_ne side.other_ne _ _
  have elsewhere : (setup.hear parties side line).participant side.other =
      setup.participant side.other := Function.update_of_ne side.other_ne _ _
  have received : (setup.hear parties side line).received side = setup.received side ++ [told] := by
    have same : (setup.hear parties side line).sent side.other = setup.sent side.other := by
      rw [sent, sent, elsewhere]
    rw [Setup.received, Setup.received, dispatched, same, List.take_add_one, next]
    rfl
  refine sound.step (fun place => ?_) elsewhere still (fun other present => ?_) ?_ ?_ ?_
  · rcases Side.eq_or_other side place with rfl | rfl
    · rw [sent_of_some here]
      exact longer
    · rw [sent, sent, elsewhere]
  · cases here.symm.trans present
    rw [received]
    exact engaged
  · cases side with
    | left => exact here ▸ rfl
    | right =>
      rw [show Side.left = Side.right.other from rfl, elsewhere]
      exact sound.caller
  · cases side with
    | left =>
      rw [show Side.right = Side.left.other from rfl, elsewhere, still]
      exact sound.callee
    | right =>
      rw [here, dispatched]
      exact iff_of_false nofun (Nat.succ_ne_zero _)
  · rw [dispatched]
    exact (List.getElem?_eq_some_iff.mp next).1

/-- A line for a session that is there. -/
theorem participant_hear {participant : Participant}
    (present : setup.participant side = some participant) {line : ByteString}
    {action : SessionAction}
    (means : heard (parties.userId side.other) line = some action) :
    (setup.hear parties side line).participant side =
      some (participant.act .userInterface action) := by
  rw [hear]
  simp only [Function.update_self, means, present]

theorem participant_hear_offer (absent : setup.participant side = none) {line sdp : ByteString}
    (means : heard (parties.userId side.other) line = some (.applyRemoteOffer sdp)) :
    (setup.hear parties side line).participant side = some { negotiation :=
      ({ session := parties.session side } : Negotiation).next (.applyRemoteOffer sdp) } := by
  rw [hear]
  simp only [Function.update_self, means, absent]

theorem Sound.dispatch (sound : setup.Sound parties) :
    (setup.next parties (side, .dispatch)).Sound parties := by
  cases next : (setup.sent side.other)[setup.dispatched side]? with
  | none =>
    rw [Setup.next, next]
    exact sound
  | some told =>
    obtain ⟨teller, tells⟩ : ∃ teller, setup.participant side.other = some teller := by
      rcases absent : setup.participant side.other with _ | teller
      · rw [sent_of_none absent] at next
        cases next
      · exact ⟨teller, rfl⟩
    have engaged := sound.engaged _ _ tells
    have order := next
    rw [sent_of_some tells] at order
    have means : heard (parties.userId side.other)
        (addSender (told.line (parties.userId side)) (parties.userId side.other)) =
          told.action := by
      have undisturbed := engaged.undisturbed_sent (List.mem_of_getElem? order)
      rw [Side.other_other] at undisturbed
      exact heard_addSender (parties.registrable _) (parties.registrable _) undisturbed
    rw [Setup.next, next]
    simp only
    -- The first line of the caller sets up the callee's session; all others find theirs.
    cases known : setup.participant side with
    | none =>
      have first : side = .right := by
        cases side with
        | left =>
          have caller := sound.caller
          rw [known] at caller
          cases caller
        | right => rfl
      subst first
      have zero := sound.callee.mp known
      obtain ⟨-, sdp, rfl⟩ :
          setup.dispatched .right = 0 ∧ ∃ sdp, told = describe sdp .createOffer :=
        (told_cases engaged order).resolve_right fun later => later.1 zero
      refine sound.hear next (participant_hear_offer known means) ?_ ?_
      · rw [Setup.received, zero]
        exact engaged_offer parties sdp
      · rw [sent_of_none known]
        exact List.nil_prefix
    | some participant =>
      have follows : (∃ sdp, told = .answer sdp) ∨
          ∃ candidate, told = candidateMessage candidate := by
        rcases told_cases engaged order with ⟨zero, sdp, same⟩ | ⟨-, candidate, same⟩
        · cases side with
          | left => exact Or.inl ⟨sdp, same⟩
          | right =>
            rw [sound.callee.mpr zero] at known
            cases known
        · exact Or.inr ⟨candidate, same⟩
      obtain ⟨action, acts, engaged⟩ := engaged_hear (sound.engaged _ _ known) follows
      refine sound.hear next (participant_hear known (means.trans acts)) engaged ?_
      rw [sent_of_some known]
      show List.filterMap _ _ <+: List.filterMap _ (participant.negotiation.next action).outputs
      rw [(participant.negotiation.next_spec action).2.1, List.filterMap_append]
      exact List.prefix_append _ _

theorem Sound.next {action : Side × SetupAction} (sound : setup.Sound parties)
    (allowed : setup.Allowed parties action) : (setup.next parties action).Sound parties := by
  obtain ⟨side, action⟩ := action
  have grows (action : SessionAction) (negotiation : Negotiation) :
      negotiation.outputs <+: (negotiation.next action).outputs := by
    rw [(negotiation.next_spec action).2.1]
    exact List.prefix_append _ _
  cases action with
  | completion position answer =>
    exact sound.change (fun participant present =>
      (sound.engaged side participant present).completion (allowed participant present))
        fun participant => grows _ _
  | report event =>
    exact sound.change (fun participant present =>
      (sound.engaged side participant present).report allowed.1 allowed.2)
        fun participant => grows _ _
  | addCandidate thread =>
    exact sound.change (fun participant present =>
      (sound.engaged side participant present).addCandidate thread) fun _ => List.prefix_rfl
  | dispatch => exact sound.dispatch

theorem sound_of_reachable (reachable : (system parties).Reachable setup) :
    setup.Sound parties := by
  refine reachable.invariant ?_ fun setup action _ sound allowed => sound.next allowed
  rintro setup rfl
  have fresh := parties.fresh .left
  have negotiates := Negotiation.negotiates_createOffer fresh
  have nothing := (List.append_eq_nil_iff.mp negotiates.hearing.kept).1
  refine ⟨fun side participant present => ?_, rfl, iff_of_true rfl rfl, fun _ => Nat.zero_le _⟩
  cases side with
  | left =>
    cases present
    refine ⟨Negotiation.ordered_start fresh.opened fresh.connected (parties.bound .left)
      .createOffer, negotiates, ?_, nofun⟩
    rw [nothing]
    exact .refl _
  | right => cases present

/-! ### What the two have of each other -/

variable (setup)

def read {α : Type} (view : Participant → List α) (side : Side) : List α :=
  ((setup.participant side).map view).getD []

/-- The descriptions a side has set as its own, and those it has set as the other's. -/
def localDescriptions : Side → List ByteString :=
  setup.read fun participant => participant.negotiation.localDescriptions

def remoteDescriptions : Side → List ByteString :=
  setup.read fun participant => participant.negotiation.remoteDescriptions

/-- The candidates libwebrtc has reported to a side, and those the side has handed to it. -/
def gathered : Side → List IceCandidate :=
  setup.read fun participant => participant.negotiation.gathered

def applied : Side → List IceCandidate := setup.read Participant.applied

/-- Nothing has failed and nothing is under way: no request, no line and no candidate. -/
structure Settled : Prop where
  succeeded : ∀ side, ∀ participant ∈ setup.participant side, participant.failed = false
  answered : ∀ side, ∀ participant ∈ setup.participant side,
    participant.negotiation.outstanding = []
  delivered : ∀ side, setup.dispatched side = (setup.sent side.other).length
  idle : ∀ side thread, ∀ participant ∈ setup.participant side, participant.pending thread = []

variable {setup}

theorem read_of_some {α : Type} {view : Participant → List α} {participant : Participant}
    (present : setup.participant side = some participant) :
    setup.read view side = view participant := by
  rw [read, present]
  rfl

theorem read_of_none {α : Type} {view : Participant → List α}
    (absent : setup.participant side = none) : setup.read view side = [] := by
  rw [read, absent]
  rfl

/-- A side has sent the description it has set as its own, and candidates it was reported. -/
theorem Sound.sent_prefix (sound : setup.Sound parties) (side : Side) :
    (setup.sent side).filterMap CallMessage.description <+: setup.localDescriptions side ∧
      (setup.localDescriptions side).length ≤ 1 ∧
      (setup.sent side).filterMap CallMessage.iceCandidate <+: setup.gathered side := by
  rcases present : setup.participant side with _ | participant
  · rw [sent_of_none present, localDescriptions, read_of_none present]
    exact ⟨List.nil_prefix, Nat.zero_le _, List.nil_prefix⟩
  · have engaged := sound.engaged side participant present
    rw [sent_of_some present, localDescriptions, gathered, read_of_some present,
      read_of_some present]
    refine ⟨?_, Nat.le_of_add_right_le engaged.negotiates.drafting.once, ?_⟩
    · rcases engaged.sent with none | ⟨sdp, own, sent⟩
      · rw [none]
        exact List.nil_prefix
      · rw [sent, description_introduction, own]
    · rcases engaged.sent with none | ⟨sdp, -, sent⟩
      · rw [none]
        exact List.nil_prefix
      · rw [sent, iceCandidate_introduction]
        exact engaged.ordered.gathered

/-- What a side has set as the other's description, and handed to libwebrtc, is what it received. -/
theorem Sound.received (sound : setup.Sound parties) (side : Side) :
    setup.remoteDescriptions side = (setup.received side).filterMap CallMessage.description ∧
      (setup.applied side).Subperm
        (proper ((setup.received side).filterMap CallMessage.iceCandidate)) ∧
      (setup.applied side ≠ [] → setup.remoteDescriptions side ≠ []) := by
  rcases present : setup.participant side with _ | participant
  · have nothing : setup.received side = [] := by
      cases side with
      | left =>
        have caller := sound.caller
        rw [present] at caller
        cases caller
      | right =>
        rw [Setup.received, sound.callee.mp present]
        rfl
    rw [nothing, remoteDescriptions, applied, read_of_none present, read_of_none present]
    exact ⟨rfl, List.Subperm.refl _, fun some => absurd rfl some⟩
  · obtain ⟨-, ⟨-, hearing, -⟩, threads, -⟩ := sound.engaged side participant present
    rw [remoteDescriptions, applied, read_of_some present, read_of_some present]
    have handed : participant.applied.Subperm participant.negotiation.added :=
      (List.sublist_append_left _ _).subperm.trans threads.subperm
    refine ⟨hearing.described, handed.trans ?_, fun some none => some ?_⟩
    · rw [← hearing.kept]
      exact (List.sublist_append_left _ _).subperm
    · cases set : participant.negotiation.session.remoteDescriptionSet with
      | true =>
        have heard := hearing.set set
        rw [hearing.described] at none
        exact absurd none heard
      | false =>
        have nothing := hearing.early set
        rw [nothing] at handed
        exact List.subperm_nil.mp handed

/-- In a settled call everyone who takes part has announced its description. -/
theorem Sound.announced (sound : setup.Sound parties) (settled : setup.Settled)
    {participant : Participant} (present : setup.participant side = some participant) :
    ∃ sdp, setup.localDescriptions side = [sdp] ∧
      setup.sent side = introduction side.role sdp (setup.gathered side) := by
  have engaged := sound.engaged side participant present
  have announced : participant.negotiation.session.localDescriptionAnnounced = true := by
    rcases engaged.negotiates.underway.own (settled.succeeded side participant present) with
      done | ⟨request, member, -⟩
    · exact done
    · rw [Negotiation.requests, settled.answered side participant present] at member
      cases member
  obtain ⟨all, flushed⟩ := engaged.ordered.pending engaged.negotiates.hearing.opened
  rw [flushed announced, List.append_nil] at all
  obtain ⟨sdp, own, sent⟩ := engaged.sent_of_announced announced
  rw [sent_of_some present, localDescriptions, gathered, read_of_some present,
    read_of_some present, ← all]
  exact ⟨sdp, own, sent⟩

/-- In a settled call both take part. -/
theorem Sound.present (sound : setup.Sound parties) (settled : setup.Settled) (side : Side) :
    ∃ participant, setup.participant side = some participant := by
  obtain ⟨caller, calls⟩ := Option.isSome_iff_exists.mp sound.caller
  cases side with
  | left => exact ⟨caller, calls⟩
  | right =>
    obtain ⟨sdp, -, sent⟩ := sound.announced settled calls
    refine Option.ne_none_iff_exists'.mp fun absent => ?_
    have nothing := settled.delivered .right
    rw [sound.callee.mp absent, show Side.right.other = .left from rfl, sent] at nothing
    cases nothing

/-- In a settled call each side has handed over everything it received. -/
theorem Sound.handedOver (sound : setup.Sound parties) (settled : setup.Settled)
    (heard : setup.remoteDescriptions side ≠ []) :
    (setup.applied side).Perm
      (proper ((setup.received side).filterMap CallMessage.iceCandidate)) := by
  obtain ⟨participant, present⟩ := sound.present settled side
  obtain ⟨-, ⟨-, hearing, underway⟩, threads, -⟩ := sound.engaged side participant present
  rw [remoteDescriptions, read_of_some present] at heard
  rw [applied, read_of_some present]
  have idle (thread : Thread) := settled.idle side thread participant present
  rw [idle, idle, List.append_nil, List.append_nil] at threads
  have set : participant.negotiation.session.remoteDescriptionSet = true := by
    rcases underway.other (settled.succeeded side participant present) heard with
      done | ⟨request, member, -⟩
    · exact done
    · rw [Negotiation.requests, settled.answered side participant present] at member
      cases member
  have kept := hearing.kept
  rw [hearing.late set, List.append_nil] at kept
  rw [← kept]
  exact threads

end

end Setup

/-- One call, from the offer to the last candidate. Whatever the order in which requests are
answered, candidates are reported, lines are dispatched and threads go on: the description that a
side sets as the other's is the one the other has set as its own, and each candidate that it hands
to libwebrtc was reported to the other, is handed over once, and not before there is a description
to set. When nothing has failed and nothing is under way, both have each other's description and all
candidates that are not empty. -/
theorem call_is_set_up {parties : CallParties} {setup : Setup}
    (reachable : (Setup.system parties).Reachable setup) (side : Side) :
    setup.remoteDescriptions side <+: setup.localDescriptions side.other ∧
      (setup.localDescriptions side.other).length ≤ 1 ∧
      (setup.applied side).Subperm (proper (setup.gathered side.other)) ∧
      (setup.applied side ≠ [] → setup.remoteDescriptions side ≠ []) ∧
      (setup.Settled → (∃ sdp, setup.localDescriptions side.other = [sdp] ∧
          setup.remoteDescriptions side = [sdp]) ∧
        (setup.applied side).Perm (proper (setup.gathered side.other))) := by
  have sound := Setup.sound_of_reachable reachable
  obtain ⟨own, once, reported⟩ := sound.sent_prefix side.other
  obtain ⟨described, handed, after⟩ := sound.received side
  have some_ : setup.received side <+: setup.sent side.other := List.take_prefix _ _
  refine ⟨?_, once, handed.trans ?_, after, fun settled => ?_⟩
  · rw [described]
    exact (some_.filterMap _).trans own
  · exact (((some_.filterMap _).trans reported).sublist.filter _).subperm
  · obtain ⟨participant, present⟩ := sound.present settled side.other
    obtain ⟨sdp, sets, sent⟩ := sound.announced settled present
    have all : setup.received side =
        introduction side.other.role sdp (setup.gathered side.other) := by
      rw [Setup.received, settled.delivered side, List.take_length, sent]
    rw [all, description_introduction] at described
    have heard : setup.remoteDescriptions side ≠ [] := described ▸ List.cons_ne_nil _ _
    have handedOver := sound.handedOver settled heard
    rw [all, iceCandidate_introduction] at handedOver
    exact ⟨⟨sdp, sets, described⟩, handedOver⟩

/-- A session that a dialog has set up for a user. -/
def boundSession (remoteUserId : ByteString) : PeerSession Peer.Call :=
  { remoteUserId, options := {}, peerConnection := true,
    iceCandidateCallback := some remoteUserId }

def aliceWithBob : CallParties where
  userId
    | .left => bytes "alice"
    | .right => bytes "bob"
  registrable side := by cases side <;> decide
  addressable side := by cases side <;> decide
  session
    | .left => boundSession (bytes "bob")
    | .right => boundSession (bytes "alice")
  fresh side := by cases side <;> exact ⟨rfl, rfl, rfl⟩
  bound side := by cases side <;> rfl

/-- Alice calls Bob. A candidate of hers is reported before her offer is set, and reaches him before
he has set it. -/
def aliceCallsBob : List (Side × SetupAction) :=
  [(.left, .completion 0 (.created (bytes "v=0") (bytes "offer"))),
    (.left, .report (.iceCandidate Peer.hostCandidate)), (.left, .completion 0 .done),
    (.right, .dispatch), (.right, .dispatch), (.right, .completion 0 .done),
    (.right, .addCandidate .signaling),
    (.right, .completion 0 (.created (bytes "v=1") (bytes "answer"))),
    (.right, .completion 0 .done), (.left, .dispatch), (.left, .completion 0 .done)]

theorem call_is_set_up_aliceCallsBob :
    let setup := (Setup.system aliceWithBob).run (Setup.start aliceWithBob) aliceCallsBob
    (∃ sdp, setup.localDescriptions .left = [sdp] ∧ setup.remoteDescriptions .right = [sdp]) ∧
      (setup.applied .right).Perm (proper [Peer.hostCandidate]) := by
  have start : (Setup.system aliceWithBob).Reachable (Setup.start aliceWithBob) := .start rfl
  have reachable := start.run (show (Setup.system aliceWithBob).Allows (Setup.start aliceWithBob)
    aliceCallsBob by decide +kernel)
  have each (side : Side) : let setup :=
      (Setup.system aliceWithBob).run (Setup.start aliceWithBob) aliceCallsBob
      (∀ participant ∈ setup.participant side, participant.failed = false ∧
        participant.negotiation.outstanding = [] ∧ participant.pending .userInterface = [] ∧
        participant.pending .signaling = []) ∧
      setup.dispatched side = (setup.sent side.other).length := by
    cases side <;> decide +kernel
  have settled : Setup.Settled
      ((Setup.system aliceWithBob).run (Setup.start aliceWithBob) aliceCallsBob) := by
    refine ⟨fun side participant present => ((each side).1 participant present).1,
      fun side participant present => ((each side).1 participant present).2.1,
      fun side => (each side).2, fun side thread participant present => ?_⟩
    cases thread with
    | userInterface => exact ((each side).1 participant present).2.2.1
    | signaling => exact ((each side).1 participant present).2.2.2
  have reported : Setup.gathered
      ((Setup.system aliceWithBob).run (Setup.start aliceWithBob) aliceCallsBob) .left =
        [Peer.hostCandidate] := by decide +kernel
  have both := (call_is_set_up reachable .right).2.2.2.2 settled
  rw [show Side.right.other = .left from rfl, reported] at both
  exact both

end Call

end RemoteControl

/-
This file asks whose description a callback is given when negotiations overlap. A
session keeps one callback and one description; a later call replaces the callback,
a later description the description. They belong together exactly when the call
made last is also the one whose description was created last.
-/

import RemoteControl.Peer.Negotiation

namespace RemoteControl.Peer

/-- A call of this kind leads to this request. -/
def Role.Makes : Role → Request → Prop
  | .createOffer, .createOffer => True
  | .applyRemoteOffer, .createAnswer => True
  | .createOffer, .setLocalDescription _ _ | .applyRemoteOffer, .setLocalDescription _ _ => True
  | .applyRemoteOffer, .setRemoteDescription _ type => type = bytes "offer"
  | .applyRemoteAnswer, .setRemoteDescription _ type => type = bytes "answer"
  | _, _ => False

namespace PeerSession

section

variable {Callback : Type} (session : PeerSession Callback)

theorem description_createOffer (callback : Callback) :
    (session.createOffer callback).1.description = session.description := by
  rw [createOffer]
  split
  · rfl
  · exact view_updateState _ description (fun _ _ => rfl) _

theorem description_applyRemoteOffer (sdp : ByteString) (callback : Callback) :
    (session.applyRemoteOffer sdp callback).1.description = session.description := by
  rw [applyRemoteOffer]
  split
  · rfl
  · exact view_updateState _ description (fun _ _ => rfl) _

theorem description_addRemoteCandidate (item : IceCandidate) :
    (session.addRemoteCandidate item).1.description = session.description := by
  rw [addRemoteCandidate]
  split
  · rfl
  · split <;> rfl

theorem description_close : session.close.1.description = session.description := by
  rw [close]
  split
  · rfl
  · simp only
    split
    · rfl
    · exact view_updateState _ description (fun _ _ => rfl) _

/-- Nothing but an open session's callback passes on a description. -/
theorem not_mem_of_quiet {outputs : List (Output Callback)}
    (quiet : outputs.filter Output.isOutgoing = []) {callback : Callback} {sdp type : ByteString}
    (member : .sdp callback sdp type ∈ outputs) : False :=
  List.filter_eq_nil_iff.mp quiet _ member rfl

end

end PeerSession

namespace Negotiation

/-! ### Whose description it is -/

/-- A callback is only ever invoked with the description that its own call produced: an offer for
`CreateOffer`, an answer for `ApplyRemoteOffer`. -/
def OwnDescriptions (negotiation : Negotiation) : Prop :=
  ∀ call sdp type, .sdp call sdp type ∈ negotiation.outputs →
    ∃ request, (call, request, sdp, type) ∈ negotiation.produced ∧
      (call.role = .createOffer ∧ request = .createOffer ∨
        call.role = .applyRemoteOffer ∧ request = .createAnswer)

/-- When a local description has been set, the description created last is that of the call whose
callback waits. -/
def InTurn (negotiation : Negotiation) (action : SessionAction) : Prop :=
  negotiation.callback action = some .localDescriptionSet → negotiation.session.closed = false →
    ∀ call, negotiation.session.pendingSdpCallback = some call →
      negotiation.produced.getLast?.map Prod.fst = some call

/-- What the history says about the session and about the requests under way. -/
structure Traced (negotiation : Negotiation) : Prop where
  /-- The session holds the description created last. -/
  held : ∀ call request sdp type, negotiation.produced.getLast? = some (call, request, sdp, type) →
    negotiation.session.description = (sdp, type)
  asked : ∀ entry ∈ negotiation.outstanding, entry.1.role.Makes entry.2
  made : ∀ call request sdp type, (call, request, sdp, type) ∈ negotiation.produced →
    call.role = .createOffer ∧ request = .createOffer ∨
      call.role = .applyRemoteOffer ∧ request = .createAnswer
  begun : ∀ call sdp type, (call, .setLocalDescription sdp type) ∈ negotiation.outstanding →
    negotiation.produced ≠ []

section

variable {negotiation : Negotiation}

/-- An action that creates no description and asks for what its call leads to. -/
theorem Traced.ask {after : Negotiation} (traced : negotiation.Traced)
    (produced : after.produced = negotiation.produced)
    (description : after.session.description = negotiation.session.description)
    (asked : ∀ entry ∈ after.outstanding, entry ∈ negotiation.outstanding ∨
      entry.1.role.Makes entry.2 ∧ ∀ sdp type, entry.2 ≠ .setLocalDescription sdp type) :
    after.Traced := by
  refine ⟨?_, fun entry member => ?_, ?_, fun call sdp type member => ?_⟩
  · rw [produced, description]
    exact traced.held
  · exact (asked entry member).elim (traced.asked entry) And.left
  · rw [produced]
    exact traced.made
  · rw [produced]
    exact (asked _ member).elim (traced.begun call sdp type) fun new => absurd rfl (new.2 sdp type)

theorem mem_ranFor {call : Call} {result : PeerSession Call × List (Output Call)}
    {entry : Call × Request} (member : entry ∈ (negotiation.ranFor call result).outstanding) :
    entry ∈ negotiation.outstanding ∨
      entry.1 = call ∧ entry.2 ∈ result.2.filterMap Output.asked := by
  rcases List.mem_append.mp member with earlier | asked
  · exact Or.inl earlier
  · obtain ⟨request, made, rfl⟩ := List.mem_map.mp asked
    exact Or.inr ⟨rfl, made⟩

/-- What a completion that creates no description asks for belongs to its call. -/
theorem makes_asked {role : Role} {request : Request} (makes : role.Makes request) {answer : Answer}
    {event : SessionEvent} (answers : request.event answer = some event)
    (other : ∀ sdp type, event ≠ .localDescriptionCreated sdp type) {session : PeerSession Call}
    {next : Request} (member : next ∈ (session.handle event).2.filterMap Output.asked) :
    role.Makes next ∧ ∀ sdp type, next ≠ .setLocalDescription sdp type := by
  rw [PeerSession.asked_handle] at member
  split at member
  · cases event with
    | localDescriptionCreated sdp type => exact absurd rfl (other sdp type)
    | remoteOfferSet =>
      obtain ⟨sdp, rfl⟩ := Request.eq_of_remoteOffer answers
      cases List.mem_singleton.mp member
      refine ⟨?_, fun sdp type same => by cases same⟩
      cases role with
      | applyRemoteOffer => trivial
      | createOffer => cases makes
      | applyRemoteAnswer => exact absurd makes (show bytes "offer" ≠ bytes "answer" by decide)
    | _ => cases member
  · cases member

/-- A completion that creates no description. -/
theorem Traced.answered (traced : negotiation.Traced) {position : Nat} {call : Call}
    {request : Request} {answer : Answer} {event : SessionEvent}
    (present : negotiation.outstanding[position]? = some (call, request))
    (answers : request.event answer = some event)
    (other : ∀ sdp type, event ≠ .localDescriptionCreated sdp type) :
    ((negotiation.answered position call request answer).ranFor call
      (negotiation.session.handle event)).Traced := by
  refine traced.ask ?_ (negotiation.session.description_handle other) fun entry member => ?_
  · cases answer with
    | created sdp type => exact absurd (Request.created_of_event answers) (other sdp type)
    | _ => exact List.append_nil _
  · rcases mem_ranFor member with earlier | ⟨rfl, asked⟩
    · exact Or.inl (List.mem_of_mem_eraseIdx earlier)
    · exact Or.inr (makes_asked (traced.asked _ (List.mem_of_getElem? present)) answers other asked)

/-- The completion that creates a description. -/
theorem Traced.created (traced : negotiation.Traced) {position : Nat} {call : Call}
    {request : Request} {answer : Answer} {sdp type : ByteString}
    (present : negotiation.outstanding[position]? = some (call, request))
    (answers : request.event answer = some (.localDescriptionCreated sdp type)) :
    ((negotiation.answered position call request answer).ranFor call
      (negotiation.session.handle (.localDescriptionCreated sdp type))).Traced := by
  have makes := traced.asked _ (List.mem_of_getElem? present)
  obtain ⟨creates, rfl⟩ := Request.eq_of_created answers
  have role : call.role = .createOffer ∧ request = .createOffer ∨
      call.role = .applyRemoteOffer ∧ request = .createAnswer := by
    rcases creates with rfl | rfl
    · cases kind : call.role with
      | createOffer => exact Or.inl ⟨rfl, rfl⟩
      | _ =>
        rw [kind] at makes
        cases makes
    · cases kind : call.role with
      | applyRemoteOffer => exact Or.inr ⟨rfl, rfl⟩
      | _ =>
        rw [kind] at makes
        cases makes
  have produced : ((negotiation.answered position call request (.created sdp type)).ranFor call
      (negotiation.session.handle (.localDescriptionCreated sdp type))).produced =
        negotiation.produced ++ [(call, request, sdp, type)] := rfl
  refine ⟨fun _ _ _ _ last => ?_, fun entry member => ?_, fun _ _ _ _ member => ?_,
    fun _ _ _ _ => ?_⟩
  · rw [produced, List.getLast?_concat] at last
    cases last
    rfl
  · rcases mem_ranFor member with earlier | ⟨rfl, asked⟩
    · exact traced.asked entry (List.mem_of_mem_eraseIdx earlier)
    · rw [PeerSession.asked_handle] at asked
      split at asked
      · rw [List.mem_singleton.mp asked]
        rcases role with ⟨role, -⟩ | ⟨role, -⟩ <;> rw [role] <;> trivial
      · cases asked
  · rw [produced] at member
    rcases List.mem_append.mp member with earlier | new
    · exact traced.made _ _ _ _ earlier
    · cases List.mem_singleton.mp new
      exact role
  · rw [produced]
    exact List.append_ne_nil_of_right_ne_nil _ (List.cons_ne_nil _ _)

theorem Traced.next (traced : negotiation.Traced) {action : SessionAction}
    (allowed : system.allowed negotiation action) : (negotiation.next action).Traced := by
  cases action with
  | createOffer =>
    refine traced.ask rfl (PeerSession.description_createOffer _ _) fun entry member => ?_
    refine (mem_ranFor member).imp id fun ⟨call, asked⟩ => ?_
    rw [PeerSession.asked_createOffer] at asked
    split at asked
    · rw [call, List.mem_singleton.mp asked]
      exact ⟨trivial, fun _ _ same => by cases same⟩
    · cases asked
  | applyRemoteOffer sdp =>
    refine traced.ask rfl (PeerSession.description_applyRemoteOffer _ _ _) fun entry member => ?_
    refine (mem_ranFor member).imp id fun ⟨call, asked⟩ => ?_
    rw [PeerSession.asked_applyRemoteOffer] at asked
    split at asked
    · rw [call, List.mem_singleton.mp asked]
      exact ⟨rfl, fun _ _ same => by cases same⟩
    · cases asked
  | applyRemoteAnswer sdp =>
    refine traced.ask rfl rfl fun entry member => ?_
    refine (mem_ranFor member).imp id fun ⟨call, asked⟩ => ?_
    rw [PeerSession.asked_applyRemoteAnswer] at asked
    split at asked
    · rw [call, List.mem_singleton.mp asked]
      exact ⟨rfl, fun _ _ same => by cases same⟩
    · cases asked
  | addRemoteCandidate candidate =>
    exact traced.ask rfl (PeerSession.description_addRemoteCandidate _ _) fun _ => Or.inl
  | completion position answer =>
    rcases negotiation.completion_cases position answer with
      ⟨-, same⟩ | ⟨call, request, event, present, answers, -, same⟩
    · rw [same]
      exact traced
    rw [same]
    by_cases creates : ∃ sdp type, event = .localDescriptionCreated sdp type
    · obtain ⟨sdp, type, rfl⟩ := creates
      exact traced.created present answers
    · exact traced.answered present answers fun sdp type same => creates ⟨sdp, type, same⟩
  | report event =>
    have other (sdp type : ByteString) : event ≠ .localDescriptionCreated sdp type := by
      rintro rfl
      exact allowed
    exact traced.ask rfl (negotiation.session.description_handle other) fun _ => Or.inl
  | close => exact traced.ask rfl (PeerSession.description_close _) fun _ => Or.inl

theorem traced_of_reachable (reachable : system.Reachable negotiation) : negotiation.Traced := by
  refine reachable.invariant ?_ fun negotiation action _ traced allowed => traced.next allowed
  rintro negotiation ⟨session, -, rfl⟩
  exact ⟨fun _ _ _ _ last => (by cases last), fun _ member => absurd member List.not_mem_nil,
    fun _ _ _ _ member => absurd member List.not_mem_nil,
    fun _ _ _ member => absurd member List.not_mem_nil⟩

/-! ### When a callback is invoked -/

/-- A description is passed on by the completion of `SetLocalDescription` on an open session: the
one the session holds, to the callback that waits. -/
theorem sdp_of_result {action : SessionAction} {call : Call} {sdp type : ByteString}
    (member : .sdp call sdp type ∈ (negotiation.result action).2) :
    negotiation.callback action = some .localDescriptionSet ∧
      negotiation.session.closed = false ∧ negotiation.session.pendingSdpCallback = some call ∧
      negotiation.session.description = (sdp, type) := by
  have announced {event : SessionEvent}
      (member : .sdp call sdp type ∈ (negotiation.session.handle event).2) :
      event = .localDescriptionSet ∧ negotiation.session.closed = false ∧
        negotiation.session.pendingSdpCallback = some call ∧
        negotiation.session.description = (sdp, type) := by
    cases negotiation.session.emits_of_mem member with
    | announced opened pending => exact ⟨rfl, opened, pending, rfl⟩
  cases action with
  | createOffer =>
    exact (PeerSession.not_mem_of_quiet (PeerSession.quiet_createOffer _ _) member).elim
  | applyRemoteOffer sdp =>
    exact (PeerSession.not_mem_of_quiet (PeerSession.quiet_applyRemoteOffer _ _ _) member).elim
  | applyRemoteAnswer sdp =>
    exact (PeerSession.not_mem_of_quiet (PeerSession.quiet_applyRemoteAnswer _ _) member).elim
  | addRemoteCandidate candidate =>
    exact (PeerSession.not_mem_of_quiet (PeerSession.quiet_addRemoteCandidate _ _) member).elim
  | completion position answer =>
    rw [result] at member
    split at member
    · cases member
    · rename_i event delivered
      obtain ⟨rfl, rest⟩ := announced member
      exact ⟨delivered, rest⟩
  | report event =>
    obtain ⟨rfl, rest⟩ := announced member
    exact ⟨rfl, rest⟩
  | close => exact (PeerSession.not_mem_of_quiet (PeerSession.quiet_close _) member).elim

/-- What was produced stays in the history. -/
theorem produced_next (action : SessionAction) :
    negotiation.produced ⊆ (negotiation.next action).produced := by
  cases action with
  | completion position answer =>
    rcases negotiation.completion_cases position answer with
      ⟨-, same⟩ | ⟨call, request, event, -, -, -, same⟩
    · rw [same]
      exact List.Subset.refl _
    · rw [same]
      exact List.subset_append_left _ _
  | _ => exact List.Subset.refl _

/-- A step in turn keeps the callbacks to their own descriptions. -/
theorem OwnDescriptions.next (own : negotiation.OwnDescriptions) (traced : negotiation.Traced)
    {action : SessionAction} (inTurn : negotiation.InTurn action) :
    (negotiation.next action).OwnDescriptions := by
  intro call sdp type member
  rw [(negotiation.next_spec action).2.1] at member
  rcases List.mem_append.mp member with earlier | passed
  · obtain ⟨request, made, kind⟩ := own call sdp type earlier
    exact ⟨request, produced_next action made, kind⟩
  · obtain ⟨delivered, opened, pending, holds⟩ := sdp_of_result passed
    obtain ⟨⟨_, request, sdp', type'⟩, last, rfl⟩ :=
      Option.map_eq_some_iff.mp (inTurn delivered opened call pending)
    have same := (traced.held _ _ _ _ last).symm.trans holds
    cases same
    have made := List.mem_of_getLast? last
    exact ⟨request, produced_next action made, traced.made _ _ _ _ made⟩

/-- A step out of turn passes a description to the callback of another call. -/
theorem misdirected_of_not_inTurn (traced : negotiation.Traced) {action : SessionAction}
    (allowed : system.allowed negotiation action) (outOfTurn : ¬ negotiation.InTurn action) :
    ∃ call other request sdp type, other ≠ call ∧
      negotiation.produced.getLast? = some (other, request, sdp, type) ∧
      .sdp call sdp type ∈ (negotiation.next action).outputs := by
  simp only [InTurn, not_forall] at outOfTurn
  obtain ⟨delivered, opened, call, pending, differs⟩ := outOfTurn
  have begun : negotiation.produced ≠ [] := by
    cases action with
    | completion position answer =>
      rw [callback] at delivered
      obtain ⟨⟨owner, request⟩, present, answers⟩ := Option.bind_eq_some_iff.mp delivered
      obtain ⟨⟨sdp, type, rfl⟩, -⟩ := Request.eq_of_announced answers
      exact traced.begun _ _ _ (List.mem_of_getElem? present)
    | report event =>
      cases delivered
      exact absurd allowed id
    | _ => cases delivered
  obtain ⟨⟨other, request, sdp, type⟩, last⟩ :=
    Option.ne_none_iff_exists'.mp (mt List.getLast?_eq_none_iff.mp begun)
  rw [last, Option.map_some, Option.some_inj] at differs
  refine ⟨call, other, request, sdp, type, differs, last, ?_⟩
  rw [(negotiation.next_spec action).2.1, negotiation.result_of_callback delivered]
  refine List.mem_append_right _ ?_
  have holds := traced.held _ _ _ _ last
  have sdpHeld : negotiation.session.pendingLocalSdp = sdp := congrArg Prod.fst holds
  have typeHeld : negotiation.session.pendingLocalSdpType = type := congrArg Prod.snd holds
  rw [PeerSession.handle, PeerSession.announceLocalDescription, opened, pending, sdpHeld, typeHeld,
    if_neg Bool.false_ne_true]
  exact List.mem_append_left _ List.mem_cons_self

end

end Negotiation

/-- In every run in which each local description is set in turn, a callback is only ever invoked
with the description its own call produced. A step out of turn hands it the description of another
call. -/
theorem callbacks_receive_own_descriptions {negotiation : Negotiation}
    (reachable : (Negotiation.system.restrict Negotiation.InTurn).Reachable negotiation) :
    negotiation.OwnDescriptions ∧
      ∀ action, Negotiation.system.allowed negotiation action → ¬ negotiation.InTurn action →
        ∃ call other request sdp type, other ≠ call ∧
          negotiation.produced.getLast? = some (other, request, sdp, type) ∧
          .sdp call sdp type ∈ (negotiation.next action).outputs := by
  have own : negotiation.OwnDescriptions := by
    refine reachable.invariant ?_ fun negotiation action reachable own allowed => ?_
    · rintro negotiation ⟨session, -, rfl⟩
      exact fun _ _ _ member => absurd member List.not_mem_nil
    · exact own.next (Negotiation.traced_of_reachable reachable.of_restrict) allowed.2
  exact ⟨own, fun action => Negotiation.misdirected_of_not_inTurn
    (Negotiation.traced_of_reachable reachable.of_restrict)⟩

/-- An offer that is created, set and passed on. -/
def offering : List SessionAction :=
  [.createOffer, .completion 0 (.created (bytes "v=0") (bytes "offer")), .completion 0 .done]

theorem callbacks_receive_own_descriptions_offering :
    (Negotiation.system.run createdSession offering).OwnDescriptions := by
  have start : (Negotiation.system.restrict Negotiation.InTurn).Reachable createdSession :=
    .start ⟨_, rfl, rfl⟩
  have reachable : (Negotiation.system.restrict Negotiation.InTurn).Reachable
      (Negotiation.system.run createdSession offering) := start.run_restrict
    ⟨⟨trivial, fun delivered => by cases delivered⟩, ⟨trivial, fun delivered => by cases delivered⟩,
      ⟨trivial, fun _ _ call pending => by cases pending; rfl⟩, trivial⟩
  exact (callbacks_receive_own_descriptions reachable).1

/-- An offer of the other user is applied while the own offer is being set. -/
def crossing : List SessionAction :=
  [.createOffer, .completion 0 (.created (bytes "v=0") (bytes "offer")),
    .applyRemoteOffer (bytes "v=1"), .completion 0 .done]

/-- The callback that sends the answer is given the own offer. -/
theorem offer_answers_crossing :
    ¬ ∀ negotiation, Negotiation.system.Reachable negotiation → negotiation.OwnDescriptions := by
  intro own
  have start : Negotiation.system.Reachable createdSession := .start ⟨_, rfl, rfl⟩
  have reachable : Negotiation.system.Reachable (Negotiation.system.run createdSession crossing) :=
    start.run ⟨trivial, trivial, trivial, trivial, trivial⟩
  have sent : Output.sdp ⟨1, .applyRemoteOffer⟩ (bytes "v=0") (bytes "offer") ∈
      (Negotiation.system.run createdSession crossing).outputs :=
    List.mem_append_right _ List.mem_cons_self
  obtain ⟨request, made, -⟩ := own _ reachable _ _ _ sent
  cases List.mem_singleton.mp made

end RemoteControl.Peer

/-
This file asks what a closed session still does. Most of its entry points look at
the closed flag or at the peer connection first. The completions of `CreateOffer`,
`CreateAnswer` and of an offer's `SetRemoteDescription` go on to the next request
without a look, and a late report of the connection state overwrites `Closed`; a
closed session is inert exactly as long as none of these arrives.
-/

import RemoteControl.Peer.Negotiation

namespace RemoteControl.Peer

/-- The output neither uses the peer connection nor invokes the SDP, ICE, media or control
callback. -/
def Output.isInert {Callback : Type} : Output Callback → Bool
  | .sdp _ _ _ | .iceCandidate _ _ | .mediaEvent _ _ _ _ | .controlEvent _ _ | .request _ _ => false
  | .stateChanged _ _ | .inject _ | .packet _ => true

namespace PeerSession

/-! ### Methods of a closed session -/

section

variable {Callback : Type} {session : PeerSession Callback}

/-- The callbacks that go on with a request whatever the session is. -/
def Proceeds : SessionEvent → Prop
  | .localDescriptionCreated _ _ | .remoteOfferSet => True
  | _ => False

/-- What a callback makes a closed session do is inert unless it goes on with a request. -/
theorem inert_handle (closed : session.closed = true) (event : SessionEvent) :
    (∀ output ∈ (session.handle event).2, output.isInert = true) ↔ ¬ Proceeds event := by
  constructor
  · intro inert proceeds
    cases event with
    | localDescriptionCreated sdp type => cases inert _ List.mem_cons_self
    | remoteOfferSet =>
      have asked : Output.request session.markRemoteDescriptionSet.1.peerConnection .createAnswer ∈
          (session.handle .remoteOfferSet).2 := List.mem_append_right _ List.mem_cons_self
      cases inert _ asked
    | _ => exact proceeds
  · intro stops output member
    have opened (open' : session.closed = false) : False := by
      rw [closed] at open'
      cases open'
    cases session.emits_of_mem member with
    | setLocal sdp type => exact absurd trivial stops
    | createAnswer => exact absurd trivial stops
    | changed reported state differs => rfl
    | inject moment buffer binary call => rfl
    | packet moment buffer binary packet => rfl
    | failed isOpen => exact (opened isOpen).elim
    | announced isOpen pending => exact (opened isOpen).elim
    | gathered isOpen bound candidate => exact (opened isOpen).elim
    | reported isOpen bound candidate => exact (opened isOpen).elim
    | applied isOpen candidate => exact (opened isOpen).elim
    | media isOpen media width height => exact (opened isOpen).elim
    | control isOpen control => exact (opened isOpen).elim

/-- A report of the connection state that would take a closed session out of `Closed`. -/
def Reopens (event : SessionEvent) : Prop :=
  ∃ state, event = .peerConnectionState state ∧ state ≠ .new ∧ state ≠ .closed

/-- A closed session stays in `Closed` unless such a report arrives. -/
theorem sealed_handle (closed : session.closed = true) (sealed : session.state = .closed)
    (event : SessionEvent) :
    (session.handle event).1.state = .closed ↔ ¬ Reopens event := by
  by_cases reported : ∃ state, event = .peerConnectionState state
  · obtain ⟨state, rfl⟩ := reported
    have entered (next : PeerSessionState) : (session.updateState next).1.state = next :=
      session.state_updateState next
    cases state with
    | new => exact iff_of_true sealed (by rintro ⟨state, same, new, -⟩; cases same; exact new rfl)
    | closed =>
      exact iff_of_true (entered .closed)
        (by rintro ⟨state, same, -, closed⟩; cases same; exact closed rfl)
    | _ =>
      refine iff_of_false ?_ fun stays => stays ⟨_, rfl, by decide, by decide⟩
      show (session.updateState _).1.state ≠ _
      rw [entered]
      decide
  · refine iff_of_true ?_ fun ⟨state, same, _⟩ => reported ⟨state, same⟩
    rcases session.state_handle event with same | ⟨-, opened, -⟩ | ⟨state, -, same, -⟩
    · exact same.trans sealed
    · cases closed.symm.trans opened
    · exact absurd ⟨state, same⟩ reported

/-- What `Close` leaves: a closed session without peer connection. -/
theorem close_spec (session : PeerSession Callback) :
    session.close.1.closed = true ∧
      (session.closed = false → session.close.1.peerConnection = false) ∧
      (session.closed = false → session.peerConnection = true → session.close.1.state = .closed) ∧
      (session.closed = true → session.close = (session, [])) := by
  rw [close]
  split
  · rename_i closed
    have never (opened : session.closed = false) : False := by cases closed.symm.trans opened
    exact ⟨closed, fun opened => (never opened).elim, fun opened => (never opened).elim,
      fun _ => rfl⟩
  · rename_i opened
    simp only
    split
    · rename_i missing
      exact ⟨rfl, fun _ => missing, fun _ present => (by cases missing.symm.trans present),
        fun closed => absurd closed opened⟩
    · exact ⟨closed_updateState _ _, fun _ => peerConnection_updateState _ _,
        fun _ _ => state_updateState _ _, fun closed => absurd closed opened⟩

/-- On a closed session, which has no peer connection, the calls do nothing. -/
theorem createOffer_missing (missing : session.peerConnection = false) (callback : Callback) :
    session.createOffer callback = (session, []) := by
  rw [createOffer, if_pos missing]

theorem applyRemoteOffer_missing (missing : session.peerConnection = false) (sdp : ByteString)
    (callback : Callback) : session.applyRemoteOffer sdp callback = (session, []) := by
  rw [applyRemoteOffer, if_pos missing]

theorem applyRemoteAnswer_missing (missing : session.peerConnection = false) (sdp : ByteString) :
    session.applyRemoteAnswer sdp = [] := by
  rw [applyRemoteAnswer, missing]
  rfl

theorem addRemoteCandidate_missing (missing : session.peerConnection = false)
    (candidate : IceCandidate) : session.addRemoteCandidate candidate = (session, []) := by
  rw [addRemoteCandidate, if_pos (Or.inl missing)]

end

end PeerSession

namespace Negotiation

/-! ### Actions on a closed session -/

/-- Nothing the session did after it was closed is more than inert, and it is in `Closed` once
`Close` has put it there. -/
def Inert (negotiation : Negotiation) : Prop :=
  (∀ output ∈ negotiation.late, output.isInert = true) ∧
    (negotiation.sealed = true → negotiation.session.state = .closed)

/-- What the closed flag stands for. -/
structure Shut (negotiation : Negotiation) : Prop where
  connection : negotiation.session.closed = true → negotiation.session.peerConnection = false
  sealed : negotiation.sealed = true → negotiation.session.closed = true

/-- No callback is delivered that a closed session would act on. -/
def SparesClosed (negotiation : Negotiation) (action : SessionAction) : Prop :=
  ∀ event, negotiation.callback action = some event →
    (negotiation.session.closed = true → ¬ PeerSession.Proceeds event) ∧
      (negotiation.sealed = true → ¬ PeerSession.Reopens event)

theorem sealed_next (negotiation : Negotiation) {action : SessionAction}
    (open' : action ≠ .close) : (negotiation.next action).sealed = negotiation.sealed := by
  cases action with
  | close => exact absurd rfl open'
  | completion position answer =>
    rcases negotiation.completion_cases position answer with
      ⟨-, same⟩ | ⟨call, request, event, -, -, -, same⟩
    · rw [same]
    · rw [same]
      rfl
  | _ => rfl

section

variable {negotiation : Negotiation} {action : SessionAction}

/-- Without a peer connection only callbacks and `Close` do anything. -/
theorem result_of_missing (missing : negotiation.session.peerConnection = false)
    (silent : negotiation.callback action = none) (open' : action ≠ .close) :
    negotiation.result action = (negotiation.session, []) := by
  cases action with
  | createOffer => exact PeerSession.createOffer_missing missing _
  | applyRemoteOffer sdp => exact PeerSession.applyRemoteOffer_missing missing _ _
  | applyRemoteAnswer sdp => rw [result, PeerSession.applyRemoteAnswer_missing missing]
  | addRemoteCandidate candidate => exact PeerSession.addRemoteCandidate_missing missing _
  | completion position answer => rw [result, silent]
  | report event => cases silent
  | close => exact absurd rfl open'

/-- Only `Close` closes a session or takes its peer connection. -/
theorem binding_result (open' : action ≠ .close) :
    (negotiation.result action).1.closed = negotiation.session.closed ∧
      (negotiation.result action).1.peerConnection = negotiation.session.peerConnection := by
  have kept {after : PeerSession Call} (same : after.fixtures = negotiation.session.fixtures) :
      after.closed = negotiation.session.closed ∧
        after.peerConnection = negotiation.session.peerConnection :=
    ⟨congrArg (fun fixtures => fixtures.1.2.2.2.1) same,
      congrArg (fun fixtures => fixtures.1.2.2.2.2) same⟩
  cases action with
  | createOffer => exact kept (PeerSession.fixtures_createOffer _ _)
  | applyRemoteOffer sdp => exact kept (PeerSession.fixtures_applyRemoteOffer _ _ _)
  | applyRemoteAnswer sdp => exact ⟨rfl, rfl⟩
  | addRemoteCandidate candidate => exact kept (PeerSession.fixtures_addRemoteCandidate _ _)
  | completion position answer =>
    rw [result]
    split
    · exact ⟨rfl, rfl⟩
    · exact kept (PeerSession.fixtures_handle _ _)
  | report event => exact kept (PeerSession.fixtures_handle _ _)
  | close => exact absurd rfl open'

theorem Shut.next (shut : negotiation.Shut) (action : SessionAction) :
    (negotiation.next action).Shut := by
  obtain ⟨session, -, -⟩ := negotiation.next_spec action
  by_cases closing : action = .close
  · subst closing
    obtain ⟨closed, missing, -, still⟩ := negotiation.session.close_spec
    refine ⟨fun _ => ?_, fun _ => ?_⟩
    · rw [session]
      show negotiation.session.close.1.peerConnection = false
      cases before : negotiation.session.closed with
      | false => exact missing before
      | true =>
        rw [still before]
        exact shut.connection before
    · rw [session]
      exact closed
  · obtain ⟨closed, connection⟩ := binding_result closing
    refine ⟨fun after => ?_, fun after => ?_⟩
    · rw [session, closed] at after
      rw [session, connection]
      exact shut.connection after
    · rw [negotiation.sealed_next closing] at after
      rw [session, closed]
      exact shut.sealed after

theorem shut_of_reachable (reachable : system.Reachable negotiation) : negotiation.Shut := by
  refine reachable.invariant ?_ fun negotiation action _ shut _ => shut.next action
  rintro negotiation ⟨session, opened, rfl⟩
  exact ⟨fun closed => (by cases opened.symm.trans closed), fun sealed => (by cases sealed)⟩

/-- `Close` itself is inert, also the second time. -/
theorem Inert.close (inert : negotiation.Inert) (shut : negotiation.Shut) :
    (negotiation.next .close).Inert := by
  obtain ⟨session, -, late⟩ := negotiation.next_spec .close
  obtain ⟨-, -, sealed, still⟩ := negotiation.session.close_spec
  cases before : negotiation.session.closed with
  | false =>
    rw [before, if_neg Bool.false_ne_true] at late
    refine ⟨fun output member => inert.1 output (late ▸ member), fun closes => ?_⟩
    rw [session]
    refine sealed before ?_
    have open' : negotiation.sealed = false := Bool.not_eq_true _ ▸ fun earlier => by
      cases before.symm.trans (shut.sealed earlier)
    have here : (negotiation.sealed || (!negotiation.session.closed &&
        negotiation.session.peerConnection)) = true := closes
    rwa [open', before] at here
  | true =>
    have nothing : negotiation.result .close = (negotiation.session, []) := still before
    rw [nothing, List.append_nil, ite_self] at late
    rw [nothing] at session
    have here : (negotiation.next .close).sealed = (negotiation.sealed ||
      (!negotiation.session.closed && negotiation.session.peerConnection)) := rfl
    rw [before, Bool.not_true, Bool.false_and, Bool.or_false] at here
    rw [Inert, late, session, here]
    exact inert

/-- An action keeps a session inert exactly when it spares it while it is closed. -/
theorem inert_next (inert : negotiation.Inert) (shut : negotiation.Shut)
    (action : SessionAction) :
    (negotiation.next action).Inert ↔ negotiation.SparesClosed action := by
  by_cases closing : action = .close
  · subst closing
    exact iff_of_true (inert.close shut) fun event delivered => by cases delivered
  obtain ⟨session, -, late⟩ := negotiation.next_spec action
  have sealed := negotiation.sealed_next closing
  cases before : negotiation.session.closed with
  | false =>
    have open' : ¬ negotiation.sealed = true := fun earlier => by
      cases before.symm.trans (shut.sealed earlier)
    rw [before, if_neg Bool.false_ne_true] at late
    refine iff_of_true ⟨fun output member => inert.1 output (late ▸ member),
      fun after => absurd (sealed ▸ after) open'⟩ fun event _ => ⟨fun closed => ?_,
        fun after => absurd after open'⟩
    cases before.symm.trans closed
  | true =>
    rw [before, if_pos rfl] at late
    cases delivered : negotiation.callback action with
    | none =>
      rw [result_of_missing (shut.connection before) delivered closing] at session late
      rw [Inert, late, session, sealed, List.append_nil]
      refine iff_of_true inert fun event other => ?_
      cases delivered.symm.trans other
    | some event =>
      rw [negotiation.result_of_callback delivered] at session late
      have late' : (∀ output ∈ (negotiation.next action).late, output.isInert = true) ↔
          ¬ PeerSession.Proceeds event := by
        rw [late, ← PeerSession.inert_handle before event]
        exact ⟨fun all output member => all output (List.mem_append_right _ member),
          fun all output member => (List.mem_append.mp member).elim (inert.1 output)
            (all output)⟩
      have state : ((negotiation.next action).sealed = true →
          (negotiation.next action).session.state = .closed) ↔
            (negotiation.sealed = true → ¬ PeerSession.Reopens event) := by
        rw [sealed, session]
        exact forall_congr' fun after => PeerSession.sealed_handle before (inert.2 after) event
      rw [Inert, late', state]
      refine ⟨fun ⟨stops, stays⟩ other same => ?_, fun spares => ?_⟩
      · cases delivered.symm.trans same
        exact ⟨fun _ => stops, stays⟩
      · exact ⟨(spares event delivered).1 before, (spares event delivered).2⟩

end

end Negotiation

/-- In every run in which no callback is delivered that a closed session acts on, a closed session
is inert. The first such callback breaks this. -/
theorem closed_sessions_are_inert {negotiation : Negotiation}
    (reachable : (Negotiation.system.restrict Negotiation.SparesClosed).Reachable negotiation) :
    negotiation.Inert ∧
      ∀ action, (negotiation.next action).Inert ↔ negotiation.SparesClosed action := by
  have inert : negotiation.Inert := by
    refine reachable.invariant ?_ fun negotiation action reachable inert allowed => ?_
    · rintro negotiation ⟨session, -, rfl⟩
      exact ⟨fun output member => absurd member List.not_mem_nil, fun sealed => by cases sealed⟩
    · have shut := Negotiation.shut_of_reachable reachable.of_restrict
      exact (Negotiation.inert_next inert shut action).mpr allowed.2
  exact ⟨inert, Negotiation.inert_next inert (Negotiation.shut_of_reachable reachable.of_restrict)⟩

/-- The session is closed while its local description is being set. -/
def closedWhileSetting : List SessionAction :=
  [.createOffer, .completion 0 (.created (bytes "v=0") (bytes "offer")), .close,
    .completion 0 .done]

theorem closed_sessions_are_inert_closedWhileSetting :
    (Negotiation.system.run createdSession closedWhileSetting).Inert := by
  have start : (Negotiation.system.restrict Negotiation.SparesClosed).Reachable createdSession :=
    .start ⟨_, rfl, rfl⟩
  have opened {negotiation : Negotiation} (closed : negotiation.session.closed = false)
      (unsealed : negotiation.sealed = false) (action : SessionAction) :
      negotiation.SparesClosed action := fun event _ =>
    ⟨fun after => (by cases closed.symm.trans after),
      fun after => (by cases unsealed.symm.trans after)⟩
  have reachable : (Negotiation.system.restrict Negotiation.SparesClosed).Reachable
      (Negotiation.system.run createdSession (closedWhileSetting.take 3)) := start.run_restrict
    ⟨⟨trivial, opened rfl rfl _⟩, ⟨trivial, opened rfl rfl _⟩, ⟨trivial, opened rfl rfl _⟩, trivial⟩
  refine ((closed_sessions_are_inert reachable).2 (.completion 0 .done)).mpr ?_
  intro event delivered
  cases delivered
  exact ⟨fun _ proceeds => proceeds, fun _ ⟨state, same, _⟩ => by cases same⟩

/-- The session is closed while its offer is being created. -/
def closedWhileCreating : List SessionAction :=
  [.createOffer, .close, .completion 0 (.created (bytes "v=0") (bytes "offer"))]

/-- The completion uses the peer connection that `Close` has taken. -/
theorem closed_session_proceeds :
    ¬ ∀ negotiation, Negotiation.system.Reachable negotiation → negotiation.Inert := by
  intro inert
  have start : Negotiation.system.Reachable createdSession := .start ⟨_, rfl, rfl⟩
  have reachable : Negotiation.system.Reachable
      (Negotiation.system.run createdSession closedWhileCreating) :=
    start.run ⟨trivial, trivial, trivial, trivial⟩
  have used : Output.request false (.setLocalDescription (bytes "v=0") (bytes "offer")) ∈
      (Negotiation.system.run createdSession closedWhileCreating).late := List.mem_cons_self
  cases (inert _ reachable).1 _ used

end RemoteControl.Peer

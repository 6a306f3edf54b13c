/-
This file ties the state of a session to the messages posted about it. A message
names its user and a state, not the session it came from, and it is handled when
that session may long be gone. Still, a session that has failed or closed always
has a message of its own under way, and a message removes no session but one
that is in the terminal state it reports.
-/

import RemoteControl.Peer.Effects

namespace RemoteControl.Peer

/-- The states a session is not meant to leave. -/
def PeerSessionState.Terminal (state : PeerSessionState) : Prop :=
  state = .failed ∨ state = .closed

instance (state : PeerSessionState) : Decidable state.Terminal :=
  inferInstanceAs (Decidable (state = .failed ∨ state = .closed))

namespace Dialog

/-! ### What a session reports about its state -/

/-- A terminal state of the session is among the messages. -/
def Announced (posted : List SessionStateMessage) (remoteUserId : ByteString)
    (session : PeerSession SdpCallback) : Prop :=
  session.state.Terminal → ⟨remoteUserId, session.state⟩ ∈ posted

section

variable {posted : List SessionStateMessage} {remoteUserId : ByteString}
  {session : PeerSession SdpCallback}

theorem Announced.append (announced : Announced posted remoteUserId session)
    (later : List SessionStateMessage) : Announced (posted ++ later) remoteUserId session :=
  fun terminal => List.mem_append_left later (announced terminal)

theorem Announced.of_state (announced : Announced posted remoteUserId session)
    {after : PeerSession SdpCallback} (same : after.state = session.state) :
    Announced posted remoteUserId after := by
  intro terminal
  rw [same] at terminal ⊢
  exact announced terminal

theorem announced_of_connecting (connecting : session.state = .connecting) :
    Announced posted remoteUserId session := by
  rintro (failed | closed)
  · rw [connecting] at failed
    cases failed
  · rw [connecting] at closed
    cases closed

/-- A state that is entered is posted; one that is not entered was posted before. -/
theorem Announced.updateState (announced : Announced posted remoteUserId session)
    (bound : Bound remoteUserId session) (state : PeerSessionState) :
    Announced (posted ++ (session.updateState state).2.filterMap Output.notification)
      remoteUserId (session.updateState state).1 := by
  obtain ⟨owner, reports, -⟩ := Prod.mk.inj bound.2 |>.imp_right Prod.mk.inj
  rw [PeerSession.updateState]
  split
  · exact announced.append _
  · intro terminal
    rw [owner]
    exact List.mem_append_right posted List.mem_cons_self

theorem prepareSession_connected (dialog : Dialog) (remoteUserId : ByteString)
    (connected : session.peerConnection = true) :
    (dialog.prepareSession session remoteUserId).peerConnection = true := connected

/-- A session that negotiates is connecting. -/
theorem createOffer_state (connected : session.peerConnection = true) (callback : SdpCallback) :
    (session.createOffer callback).1.state = .connecting := by
  rw [PeerSession.createOffer, if_neg (by rw [connected]; exact Bool.noConfusion)]
  exact PeerSession.state_updateState _ _

theorem applyRemoteOffer_state (connected : session.peerConnection = true) (sdp : ByteString)
    (callback : SdpCallback) :
    (session.applyRemoteOffer sdp callback).1.state = .connecting := by
  rw [PeerSession.applyRemoteOffer, if_neg (by rw [connected]; exact Bool.noConfusion)]
  exact PeerSession.state_updateState _ _

end

/-! ### What is posted after a handler -/

/-- Every terminal state of a session is among the messages. -/
def AllAnnounced (dialog : Dialog) : Prop :=
  ∀ remoteUserId session, dialog.sessions.lookup remoteUserId = some session →
    Announced dialog.posted remoteUserId session

theorem Treated.announced {dialog : Dialog} {remoteUserId : ByteString}
    {result : PeerSession SdpCallback × List (Output SdpCallback)}
    (treated : Treated dialog remoteUserId result) (allBound : dialog.AllBound)
    (allAnnounced : dialog.AllAnnounced) :
    Announced (dialog.posted ++ result.2.filterMap Output.notification) remoteUserId result.1 := by
  cases treated with
  | @handled session present event =>
    have announced := allAnnounced _ _ present
    rcases session.state_handle event with same | ⟨-, -, same⟩ | ⟨-, state, -, same⟩
    · exact (announced.append _).of_state same
    · rw [same]
      exact announced.updateState (allBound _ _ present) .failed
    · rw [same]
      exact announced.updateState (allBound _ _ present) state
  | @candidate session present item =>
    refine ((allAnnounced _ _ present).append _).of_state ?_
    rw [PeerSession.addRemoteCandidate]
    split
    · rfl
    · split <;> rfl
  | offered named owner options =>
    have connected := prepareSession_connected owner remoteUserId
      (callingSession_spec remoteUserId options).2.2
    exact announced_of_connecting (createOffer_state connected _)
  | @answered named owner session found sdp =>
    have connected : session.peerConnection = true := by
      rcases found with present | ⟨options, rfl⟩
      · exact congrArg (fun binding => binding.2.2.2.2) (allBound _ _ present).2
      · rfl
    exact announced_of_connecting
      (applyRemoteOffer_state (prepareSession_connected owner remoteUserId connected) _ _)

theorem Effect.allAnnounced {dialog after : Dialog} (effect : Effect dialog after)
    (allBound : dialog.AllBound) (allAnnounced : dialog.AllAnnounced) : after.AllAnnounced := by
  intro remoteUserId session present
  rcases effect.origin present with
    ⟨same, later, grown⟩ | ⟨result, treated, rfl, grown⟩ | ⟨earlier, checked, found, rfl, same⟩
  · rw [grown]
    exact (allAnnounced remoteUserId session same).append later
  · rw [grown]
    exact treated.announced allBound allAnnounced
  · rw [same]
    exact (allAnnounced remoteUserId earlier found).of_state rfl

/-! ### Handling a message -/

/-- A message is about the session it names if that one is in the terminal state it reports. -/
def Collects (dialog : Dialog) (message : SessionStateMessage) : Prop :=
  message.state.Terminal ∧
    ∃ session, dialog.sessions.lookup message.remoteUserId = some session ∧
      session.state = message.state

/-- `OnSessionState` removes the session the message is about, or leaves the calls alone. -/
theorem onSessionState_cases (dialog : Dialog) (now : UInt64) (message : SessionStateMessage) :
    dialog.Collects message ∧ (dialog.onSessionState now message).calls =
        (dialog.removeSession message.remoteUserId).calls ∨
      ¬ dialog.Collects message ∧ (dialog.onSessionState now message).calls = dialog.calls := by
  have noted := dialog.calls_noteSessionState now message
  have sessions := sessions_of_calls noted
  rw [onSessionState]
  split
  · rename_i new
    refine Or.inr ⟨?_, rfl⟩
    rintro ⟨failed | closed, -⟩
    · rw [new] at failed
      cases failed
    · rw [new] at closed
      cases closed
  simp only
  split
  · rename_i terminal
    rw [collectSession, sessions]
    split
    · rename_i absent
      refine Or.inr ⟨?_, noted⟩
      rintro ⟨-, session, present, -⟩
      rw [absent] at present
      cases present
    · rename_i session present
      split
      · rename_i same
        refine Or.inl ⟨⟨terminal, session, present, same⟩, (calls_stopIdleCapture _).trans ?_⟩
        refine Eq.trans ?_ (calls_removeSession noted message.remoteUserId)
        split <;> rfl
      · rename_i different
        refine Or.inr ⟨?_, noted⟩
        rintro ⟨-, found, lookup, same⟩
        rw [present, Option.some_inj] at lookup
        exact different (lookup ▸ same)
  · rename_i ongoing
    exact Or.inr ⟨fun collects => ongoing collects.1, noted⟩

/-- A message that is taken from the queue was the only one that could be needed. -/
theorem allAnnounced_sessionState {dialog : Dialog} (allAnnounced : dialog.AllAnnounced)
    (now : UInt64) (position : Nat) : (dialog.next (.sessionState now position)).AllAnnounced := by
  rw [Dialog.next]
  split
  · exact allAnnounced
  rename_i message found
  -- A session the message is not about has another message of its own.
  have kept (remoteUserId : ByteString) (session : PeerSession SdpCallback)
      (present : dialog.sessions.lookup remoteUserId = some session)
      (other : ¬ (message.remoteUserId = remoteUserId ∧ message.state = session.state)) :
      Announced (dialog.posted.eraseIdx position) remoteUserId session := by
    intro terminal
    obtain ⟨index, own⟩ :=
      List.mem_iff_getElem?.mp (allAnnounced remoteUserId session present terminal)
    refine List.mem_eraseIdx_iff_getElem?.mpr ⟨index, ?_, own⟩
    rintro rfl
    rw [found, Option.some_inj] at own
    exact other (by rw [own]; exact ⟨rfl, rfl⟩)
  rcases onSessionState_cases { dialog with posted := dialog.posted.eraseIdx position } now message
    with ⟨-, removed⟩ | ⟨other, same⟩
  · intro remoteUserId session present
    obtain ⟨later, grown⟩ := posted_removeSession
      { dialog with posted := dialog.posted.eraseIdx position } message.remoteUserId
    rw [sessions_of_calls removed, lookup_removeSession] at present
    rw [posted_of_calls removed, grown]
    split at present
    · cases present
    · rename_i different
      exact (kept remoteUserId session present fun both => different both.1.symm).append later
  · intro remoteUserId session present
    rw [sessions_of_calls same] at present
    rw [posted_of_calls same]
    intro terminal
    refine kept remoteUserId session present ?_ terminal
    rintro ⟨sameUser, sameState⟩
    exact other ⟨sameState ▸ terminal, session, sameUser ▸ present, sameState.symm⟩

theorem AllAnnounced.next {dialog : Dialog} (allAnnounced : dialog.AllAnnounced)
    (allBound : dialog.AllBound) (action : Action) : (dialog.next action).AllAnnounced := by
  by_cases windowed : ∃ created, action = .toggleFullscreen created
  · obtain ⟨created, rfl⟩ := windowed
    obtain ⟨posted, sessions⟩ := dialog.toggleFullscreen_spec created
    intro remoteUserId session present
    obtain ⟨earlier, found, same⟩ := sessions remoteUserId session present
    show Announced (dialog.toggleFullscreen created).posted remoteUserId session
    rw [posted]
    refine (allAnnounced remoteUserId earlier found).of_state ?_
    rcases same with rfl | ⟨target, rfl⟩ <;> rfl
  · have effect := dialog.effect_next (not_exists.mp windowed)
    cases action with
    | sessionState now position => exact allAnnounced_sessionState allAnnounced now position
    | _ => exact effect.allAnnounced allBound allAnnounced

theorem allAnnounced_of_reachable {dialog : Dialog} (reachable : system.Reachable dialog) :
    dialog.AllAnnounced := by
  refine reachable.invariant ?_ fun dialog action reachable allAnnounced _ =>
    allAnnounced.next (allBound_of_reachable reachable) action
  rintro dialog rfl remoteUserId session present
  cases present

end Dialog

/-- In every reachable state each session that failed or closed has a message under way that says
so, handling that message removes it, and no message at all removes any other session. -/
theorem terminal_sessions_are_collected {dialog : Dialog} (reachable : system.Reachable dialog)
    {remoteUserId : ByteString} {session : PeerSession SdpCallback}
    (present : dialog.sessions.lookup remoteUserId = some session) :
    (session.state.Terminal →
      ⟨remoteUserId, session.state⟩ ∈ dialog.posted ∧
        ∀ now, (dialog.onSessionState now ⟨remoteUserId, session.state⟩).sessions.lookup
          remoteUserId = none) ∧
    (¬ session.state.Terminal → ∀ now message,
      (dialog.onSessionState now message).sessions.lookup remoteUserId = some session) := by
  refine ⟨fun terminal => ⟨Dialog.allAnnounced_of_reachable reachable _ _ present terminal,
    fun now => ?_⟩, fun ongoing now message => ?_⟩
  · rcases dialog.onSessionState_cases now ⟨remoteUserId, session.state⟩ with
      ⟨-, removed⟩ | ⟨other, -⟩
    · rw [Dialog.sessions_of_calls removed, Dialog.lookup_removeSession, if_pos rfl]
    · exact absurd ⟨terminal, session, present, rfl⟩ other
  · rcases dialog.onSessionState_cases now message with ⟨collects, removed⟩ | ⟨-, same⟩
    · obtain ⟨terminal, found, lookup, state⟩ := collects
      rw [Dialog.sessions_of_calls removed, Dialog.lookup_removeSession]
      split
      · rename_i own
        rw [← own, present, Option.some_inj] at lookup
        rw [lookup, state] at ongoing
        exact absurd terminal ongoing
      · exact present
    · rwa [Dialog.sessions_of_calls same]

/-- Bob calls, and the negotiation fails. -/
def failedCall : List Action :=
  [.signalingMessage .success
      (bytes "\x7b\"type\":\"offer\",\"sdp\":\"v=0\",\"fromUserId\":\"bob\"\x7d"),
    .sessionEvent (bytes "bob") .negotiationFailed]

theorem terminal_sessions_are_collected_failedCall :
    ⟨bytes "bob", .failed⟩ ∈ (system.run {} failedCall).posted ∧
      ((system.run {} failedCall).onSessionState 0 ⟨bytes "bob", .failed⟩).sessions.lookup
        (bytes "bob") = none := by
  have reachable : system.Reachable (system.run {} failedCall) :=
    (Transition.System.Reachable.start rfl).run ⟨trivial, trivial, trivial⟩
  have state : ((system.run {} failedCall).sessions.lookup (bytes "bob")).map (·.state) =
      some .failed := by decide
  obtain ⟨session, present, failed⟩ := Option.map_eq_some_iff.mp state
  have collected := (terminal_sessions_are_collected reachable present).1 (Or.inl failed)
  rw [failed] at collected
  exact ⟨collected.1, collected.2 0⟩

end RemoteControl.Peer

/-
This file proves what holds of every client's queue on its own, whatever the
other clients do. A handler treats one client in five ways: it opens it, queues
a line, gives it an id, stores received bytes or writes. A property of clients
that survives these five survives every action (`Kept.next`). A part of the
record that logging in and some kind of queued line do not touch stays as it is
until the client itself is read, written or disconnected (`Unmoved.next`).

Two properties follow. The send buffer stays within its bound, so the unsigned
subtraction in `QueueLine` never wraps; and the buffer is the unwritten end of
the lines that were queued, so the history of a queue accounts for its bytes.
-/

import RemoteControl.Library.Lines
import RemoteControl.Server.Decision

namespace RemoteControl.SignalingServer

/-! ### Properties of single clients -/

/-- A property of clients that the five treatments keep, for lines of a given kind. -/
structure Kept (sendable : Outgoing → Prop) (holds : Client → Prop) : Prop where
  opened : ∀ socket, holds { socket }
  queued : ∀ client outgoing, sendable outgoing → holds client → holds (client.queueLine outgoing)
  enrolled : ∀ client userId, holds client → holds { client with userId }
  received : ∀ client buffer, holds client → holds { client with receiveBuffer := buffer }
  written : ∀ client results, holds client → holds (client.writeClient results).1

/-- Every client of the server has the property. -/
def Server.Each (server : Server) (holds : Client → Prop) : Prop :=
  ∀ socket client, server.clients.lookup socket = some client → holds client

/-- The lines the server makes up itself. -/
def Outgoing.Own : Outgoing → Prop
  | .routed _ _ => False
  | _ => True

instance : DecidablePred Outgoing.Own
  | .routed _ _ => isFalse id
  | .pong | .error _ | .snapshot _ | .presence _ _ => isTrue trivial

section

variable {sendable : Outgoing → Prop} {holds : Client → Prop} {server : Server}

theorem Server.Each.modify (each : server.Each holds) (socket : Socket)
    {update : Client → Client} (kept : ∀ client, holds client → holds (update client)) :
    Server.Each { server with clients := Table.modify socket update server.clients } holds := by
  intro place client found
  rw [Table.lookup_modify] at found
  split at found
  · obtain ⟨earlier, known, same⟩ := Option.map_eq_some_iff.mp found
    exact same ▸ kept earlier (each place earlier known)
  · exact each place client found

theorem Server.Each.queueLine (kept : Kept sendable holds) (each : server.Each holds)
    (socket : Socket) {outgoing : Outgoing}
    (allowed : (server.clients.lookup socket).any (·.accepts outgoing) = true →
      sendable outgoing) :
    (server.queueLine socket outgoing).1.Each holds := by
  intro place client found
  rw [Server.lookup_queueLine] at found
  split at found
  · rename_i here
    obtain ⟨earlier, known, same⟩ := Option.map_eq_some_iff.mp found
    rw [here] at known
    rw [← same]
    cases fits : earlier.accepts outgoing with
    | false =>
      rw [Client.queueLine_of_full fits]
      exact each socket earlier known
    | true =>
      exact kept.queued earlier outgoing (allowed (by rw [known]; exact fits))
        (each socket earlier known)
  · exact each place client found

theorem Server.Each.broadcastPresence (kept : Kept sendable holds)
    (own : ∀ outgoing : Outgoing, outgoing.Own → sendable outgoing) (each : server.Each holds)
    (userId : ByteString) (online : Bool) :
    (server.broadcastPresence userId online).Each holds := by
  intro place client found
  rw [Server.lookup_broadcastPresence] at found
  obtain ⟨earlier, known, rfl⟩ := Option.map_eq_some_iff.mp found
  rw [Client.hear]
  split
  · exact kept.queued earlier _ (own _ trivial) (each place earlier known)
  · exact each place earlier known

theorem Server.Each.registerClient (kept : Kept sendable holds)
    (own : ∀ outgoing : Outgoing, outgoing.Own → sendable outgoing) (each : server.Each holds)
    {socket : Socket} {client : Client} (present : server.clients.lookup socket = some client)
    (rehash : Rehash ByteString Socket) (userId : ByteString) :
    (server.registerClient rehash socket userId).1.Each holds := by
  have enrolled : (server.enrol rehash socket client.socket userId).Each holds :=
    fun place client found =>
      each.modify socket (fun client => kept.enrolled client userId) place client found
  have greeted : (server.greet rehash socket client userId).Each holds :=
    enrolled.queueLine kept socket fun _ =>
      own (server.greeting rehash socket client userId) trivial
  rcases Server.registerClient_cases present rehash userId with
    ⟨-, refused⟩ | ⟨-, -, failed⟩ | ⟨-, -, succeeded⟩
  · rw [refused]
    exact each
  · rw [failed]
    exact greeted
  · rw [succeeded]
    exact greeted.broadcastPresence kept own userId true

theorem Server.Each.routeMessage (kept : Kept sendable holds)
    (own : ∀ outgoing : Outgoing, outgoing.Own → sendable outgoing) (each : server.Each holds)
    (rehash : Rehash ByteString Socket) (sender : Socket) {json : ByteString}
    (relayed : ∀ client target, server.clients.lookup sender = some client →
      server.Forwards client json target → sendable (.routed client.userId json)) :
    (server.routeMessage rehash sender json).Each holds := by
  cases present : server.clients.lookup sender with
  | none =>
    rw [Server.routeMessage_of_absent present]
    exact each
  | some client =>
    rw [Server.routeMessage_eq present]
    cases decided : server.decision client json with
    | reply outgoing =>
      refine each.queueLine kept sender fun _ => own _ ?_
      rcases Server.decision_eq_reply decided with rfl | ⟨code, rfl⟩ <;> trivial
    | login userId =>
      have registered := each.registerClient kept own present rehash userId
      rw [Server.carryOut]
      split
      · exact registered
      · exact registered.queueLine kept sender fun _ => own _ trivial
    | deliver target =>
      have queued := each.queueLine kept target fun room =>
        relayed client target present ⟨Server.decision_eq_deliver.mp decided, room⟩
      rw [Server.carryOut]
      split
      · exact queued
      · exact queued.queueLine kept sender fun _ => own _ trivial

theorem Server.Each.disconnectClient (kept : Kept sendable holds)
    (own : ∀ outgoing : Outgoing, outgoing.Own → sendable outgoing) (each : server.Each holds)
    (socket : Socket) : (server.disconnectClient socket).Each holds := by
  cases present : server.clients.lookup socket with
  | none =>
    rw [Server.disconnectClient_of_absent present]
    exact each
  | some client =>
    have removed : (server.remove socket client.userId).Each holds := by
      intro place entry found
      rw [Server.lookup_remove] at found
      split at found
      · cases found
      · exact each place entry found
    rw [Server.disconnectClient_eq present]
    split
    · exact removed.broadcastPresence kept own _ _
    · exact removed

/-- A line an action relays is of the given kind. -/
def Server.Relays (server : Server) (sendable : Outgoing → Prop) : Action → Prop
  | .route sender json _ => ∀ client target, server.clients.lookup sender = some client →
      server.Forwards client json target → sendable (.routed client.userId json)
  | _ => True

/-- A property the five treatments keep survives every action. -/
theorem Kept.next (kept : Kept sendable holds)
    (own : ∀ outgoing : Outgoing, outgoing.Own → sendable outgoing) (each : server.Each holds)
    {action : Action} (relays : server.Relays sendable action) :
    (server.next action).Each holds := by
  cases action with
  | accept accepted =>
    rcases server.acceptClient_cases accepted with same | ⟨-, opened⟩
    · rw [Server.next, same]
      exact each
    rw [Server.next, opened]
    intro socket client found
    by_cases fresh : accepted.socket ∈ server.clients
    · rw [Table.emplace, if_pos fresh] at found
      exact each socket client found
    · rw [Table.lookup_emplace fresh] at found
      split at found
      · rw [Option.some_inj] at found
        exact found ▸ kept.opened accepted.socket
      · exact each socket client found
  | receive socket buffer => exact each.modify socket fun client => kept.received client buffer
  | route socket json rehash => exact each.routeMessage kept own rehash socket relays
  | write socket results => exact each.modify socket fun client => kept.written client results
  | disconnect socket => exact each.disconnectClient kept own socket

end

/-- Lines of any kind may be relayed. -/
theorem Server.relays_any (server : Server) (action : Action) :
    server.Relays (fun _ => True) action := by
  cases action <;> simp [Server.Relays]

/-- A property kept for every line holds of every client, whatever the run. -/
theorem Kept.run {holds : Client → Prop} (kept : Kept (fun _ => True) holds)
    (actions : List Action) : (system.run {} actions).Each holds := by
  suffices always : ∀ server : Server, server.Each holds → (system.run server actions).Each holds by
    refine always {} fun socket client present => ?_
    cases present
  induction actions with
  | nil => exact fun server each => each
  | cons action rest inductionHypothesis =>
    intro server each
    exact inductionHypothesis (server.next action)
      (kept.next (fun _ _ => trivial) each (server.relays_any action))

/-- Every line in the history of a queue is of the given kind. -/
def Client.All (kind : Outgoing → Prop) (client : Client) : Prop :=
  ∀ outgoing ∈ client.queued, kind outgoing

instance (kind : Outgoing → Prop) [DecidablePred kind] (client : Client) :
    Decidable (client.All kind) :=
  inferInstanceAs (Decidable (∀ outgoing ∈ client.queued, kind outgoing))

theorem kept_all (kind : Outgoing → Prop) : Kept kind (Client.All kind) where
  opened socket outgoing member := by cases member
  queued client outgoing isKind each other member := by
    cases fits : client.accepts outgoing with
    | false =>
      rw [Client.queueLine_of_full fits] at member
      exact each other member
    | true =>
      rw [Client.queueLine_of_accepts fits] at member
      rcases List.mem_append.mp member with earlier | last
      · exact each other earlier
      · exact List.mem_singleton.mp last ▸ isKind
  enrolled client userId each := each
  received client buffer each := each
  written client results each := by
    obtain ⟨buffer, written, -⟩ := client.writeClient_spec results
    rw [written]
    exact each

/-! ### What an action leaves alone -/

/-- A part of the client record that neither a login nor a queued line of a given kind touches. -/
structure Unmoved {β : Type*} (sendable : Outgoing → Prop) (observe : Client → β) : Prop where
  queued : ∀ client outgoing, sendable outgoing →
    observe (client.queueLine outgoing) = observe client
  enrolled : ∀ client userId, observe { client with userId } = observe client

section

variable {β : Type*} {sendable : Outgoing → Prop} {observe : Client → β} {server : Server}

/-- What is observed of the client on a socket. -/
def Server.observed (server : Server) (observe : Client → β) (socket : Socket) : Option β :=
  (server.clients.lookup socket).map observe

theorem Server.observed_of_map {before after : Server} {socket : Socket} {update : Client → Client}
    (same : after.clients.lookup socket = (before.clients.lookup socket).map update)
    (keeps : ∀ client, observe (update client) = observe client) :
    after.observed observe socket = before.observed observe socket := by
  rw [Server.observed, same, Option.map_map, Server.observed]
  exact congrArg (fun view => Option.map view _) (funext keeps)

theorem Server.observed_congr {before after : Server} {socket : Socket}
    (same : after.clients.lookup socket = before.clients.lookup socket) :
    after.observed observe socket = before.observed observe socket := by
  rw [Server.observed, same, Server.observed]

theorem Unmoved.queueLine (unmoved : Unmoved sendable observe) (server : Server) (socket : Socket)
    {outgoing : Outgoing}
    (allowed : (server.clients.lookup socket).any (·.accepts outgoing) = true →
      sendable outgoing) (place : Socket) :
    (server.queueLine socket outgoing).1.observed observe place =
      server.observed observe place := by
  have lookup := server.lookup_queueLine socket outgoing place
  split at lookup
  · rename_i here
    rw [Server.observed, lookup, here, Server.observed]
    cases present : server.clients.lookup socket with
    | none => rfl
    | some client =>
      rw [present] at allowed
      cases fits : client.accepts outgoing with
      | false => rw [Option.map_some, Client.queueLine_of_full fits]
      | true =>
        rw [Option.map_some, Option.map_some, unmoved.queued client outgoing (allowed fits),
          Option.map_some]
  · exact Server.observed_congr lookup

variable (own : ∀ outgoing : Outgoing, outgoing.Own → sendable outgoing)
include own

theorem Unmoved.hear (unmoved : Unmoved sendable observe) (client : Client) (userId : ByteString)
    (online : Bool) : observe (client.hear userId online) = observe client := by
  rw [Client.hear]
  split
  · exact unmoved.queued client (.presence userId online) (own _ trivial)
  · rfl

theorem Unmoved.registerClient (unmoved : Unmoved sendable observe) {socket : Socket}
    {client : Client} (present : server.clients.lookup socket = some client)
    (rehash : Rehash ByteString Socket) (userId : ByteString) (place : Socket) :
    (server.registerClient rehash socket userId).1.observed observe place =
      server.observed observe place := by
  have greeted : (server.greet rehash socket client userId).observed observe place =
      server.observed observe place := by
    have lookup := server.lookup_enrol rehash socket client.socket userId place
    rw [Server.greet,
      unmoved.queueLine _ _ fun _ => own (server.greeting rehash socket client userId) trivial]
    split at lookup
    · exact Server.observed_of_map lookup fun client => unmoved.enrolled client userId
    · exact Server.observed_congr lookup
  rcases Server.registerClient_cases present rehash userId with
    ⟨-, refused⟩ | ⟨-, -, failed⟩ | ⟨-, -, succeeded⟩
  · rw [refused]
  · rw [failed, greeted]
  · rw [succeeded, ← greeted]
    exact Server.observed_of_map (Server.lookup_broadcastPresence _ _ _ _) fun client =>
      unmoved.hear own client userId true

theorem Unmoved.routeMessage (unmoved : Unmoved sendable observe) (server : Server)
    (rehash : Rehash ByteString Socket) (sender : Socket) {json : ByteString}
    (relayed : ∀ client target, server.clients.lookup sender = some client →
      server.Forwards client json target → sendable (.routed client.userId json))
    (place : Socket) :
    (server.routeMessage rehash sender json).observed observe place =
      server.observed observe place := by
  have refused (server : Server) (code : ErrorCode) :
      (server.refuse sender code).observed observe place = server.observed observe place :=
    unmoved.queueLine server sender (fun _ => own (.error code) trivial) place
  cases present : server.clients.lookup sender with
  | none => rw [Server.routeMessage_of_absent present]
  | some client =>
    rw [Server.routeMessage_eq present]
    cases decided : server.decision client json with
    | reply outgoing =>
      refine unmoved.queueLine server sender (fun _ => own _ ?_) place
      rcases Server.decision_eq_reply decided with rfl | ⟨code, rfl⟩ <;> trivial
    | login userId =>
      have registered := unmoved.registerClient own present rehash userId place
      rw [Server.carryOut]
      split
      · exact registered
      · rw [refused, registered]
    | deliver target =>
      have queued := unmoved.queueLine server target (fun room =>
        relayed client target present ⟨Server.decision_eq_deliver.mp decided, room⟩) place
      rw [Server.carryOut]
      split
      · exact queued
      · rw [refused, queued]

/-- An action that neither reads, writes nor disconnects a client, or does so without being
observed, leaves the observation of a connected client as it was. -/
theorem Unmoved.next (unmoved : Unmoved sendable observe) {socket : Socket}
    (present : (server.clients.lookup socket).isSome) {action : Action}
    (relays : server.Relays sendable action)
    (received : ∀ buffer, action = .receive socket buffer →
      ∀ client, observe { client with receiveBuffer := buffer } = observe client)
    (written : ∀ results, action = .write socket results →
      ∀ client, observe (client.writeClient results).1 = observe client)
    (stays : action ≠ .disconnect socket) :
    (server.next action).observed observe socket = server.observed observe socket := by
  cases action with
  | accept accepted =>
    rcases server.acceptClient_cases accepted with same | ⟨-, opened⟩
    · rw [Server.next, same]
    rw [Server.next, opened]
    by_cases fresh : accepted.socket ∈ server.clients
    · rw [Table.emplace, if_pos fresh]
    · refine Server.observed_congr ?_
      show (Table.emplace _ _ _ _).lookup socket = _
      rw [Table.lookup_emplace fresh, if_neg]
      rintro rfl
      rw [AList.lookup_isSome] at present
      exact fresh present
  | receive other buffer =>
    have lookup := Table.lookup_modify other
      (fun client : Client => { client with receiveBuffer := buffer }) server.clients socket
    split at lookup
    · rename_i here
      exact Server.observed_of_map lookup (received buffer (by rw [here]))
    · exact Server.observed_congr lookup
  | route other json rehash => exact unmoved.routeMessage own server rehash other relays socket
  | write other results =>
    have lookup := Table.lookup_modify other (fun client : Client => (client.writeClient results).1)
      server.clients socket
    split at lookup
    · rename_i here
      exact Server.observed_of_map lookup (written results (by rw [here]))
    · exact Server.observed_congr lookup
  | disconnect other =>
    cases there : server.clients.lookup other with
    | none =>
      rw [Server.next, Server.disconnectClient_of_absent there]
    | some client =>
      have lookup := Server.lookup_disconnectClient there socket
      rw [if_neg fun here => stays (by rw [here])] at lookup
      refine Server.observed_of_map lookup fun entry => ?_
      split
      · exact unmoved.hear own entry client.userId false
      · rfl

end

/-- Whether anybody is connected on a socket. -/
theorem unmoved_presence : Unmoved (fun _ => True) fun _ => () where
  queued _ _ _ := rfl
  enrolled _ _ := rfl

/-- A connection appears on a socket only through `accept`, which opens it with empty buffers. -/
theorem Server.lookup_next_of_absent (server : Server) {socket : Socket}
    (absent : server.clients.lookup socket = none) (action : Action) :
    (server.next action).clients.lookup socket = none ∨
      (server.next action).clients.lookup socket = some { socket } := by
  cases action with
  | accept accepted =>
    rcases server.acceptClient_cases accepted with same | ⟨-, opened⟩
    · rw [Server.next, same]
      exact Or.inl absent
    rw [Server.next, opened]
    by_cases fresh : accepted.socket ∈ server.clients
    · rw [Table.emplace, if_pos fresh]
      exact Or.inl absent
    · rw [Table.lookup_emplace fresh]
      split
      · rename_i here
        exact Or.inr (by rw [here])
      · exact Or.inl absent
  | receive other buffer =>
    left
    show (Table.modify other _ server.clients).lookup socket = none
    rw [Table.lookup_modify, absent, Option.map_none, ite_self]
  | route other json rehash =>
    left
    have same := unmoved_presence.routeMessage (fun _ _ => trivial) server rehash other
      (server.relays_any (.route other json rehash)) socket
    rw [Server.observed, Server.observed, absent, Option.map_none, Option.map_eq_none_iff] at same
    exact same
  | write other results =>
    left
    show (Table.modify other _ server.clients).lookup socket = none
    rw [Table.lookup_modify, absent, Option.map_none, ite_self]
  | disconnect other =>
    left
    cases there : server.clients.lookup other with
    | none =>
      rw [Server.next, Server.disconnectClient_of_absent there]
      exact absent
    | some client =>
      rw [Server.next, Server.lookup_disconnectClient there, absent, Option.map_none, ite_self]

/-! ### The bound of the send buffer -/

/-- The send buffer is within its bound. -/
def Client.Bounded (client : Client) : Prop := client.sendBuffer.length ≤ maxPendingSendBytes

/-- Within the bound the subtraction of `QueueLine` is the subtraction of natural numbers. -/
theorem sizeSub_of_le {minuend subtrahend : Nat} (fits : subtrahend ≤ minuend)
    (small : minuend < 2 ^ 64) : sizeSub minuend subtrahend = minuend - subtrahend := by
  have exact_ : ((minuend : Int) - subtrahend) = ((minuend - subtrahend : Nat) : Int) := by omega
  rw [sizeSub, exact_]
  omega

theorem Client.Bounded.sizeSub {client : Client} (bounded : client.Bounded) :
    sizeSub maxPendingSendBytes client.sendBuffer.length =
      maxPendingSendBytes - client.sendBuffer.length := sizeSub_of_le bounded (by decide)

theorem kept_bounded : Kept (fun _ => True) Client.Bounded where
  opened socket := Nat.zero_le _
  queued client outgoing _ bounded := by
    rw [Client.queueLine]
    split
    · rename_i accepted
      rw [Client.accepts, decide_eq_true_eq, bounded.sizeSub] at accepted
      unfold Client.Bounded at bounded ⊢
      simp only [List.length_append, List.length_singleton]
      omega
    · exact bounded
  enrolled client userId bounded := bounded
  received client buffer bounded := bounded
  written client results bounded := by
    obtain ⟨buffer, written, split⟩ := client.writeClient_spec results
    rw [written]
    unfold Client.Bounded at bounded ⊢
    rw [split, List.length_append] at bounded
    exact (Nat.le_add_left _ _).trans bounded

/-! ### The queue accounts for its bytes -/

/-- The bytes of the lines a queue has accepted. -/
def Client.queuedText (client : Client) : ByteString :=
  Lines.join newline (client.queued.map Outgoing.line)

/-- The send buffer is what has not been written of the queued lines. -/
def Client.Accounts (client : Client) : Prop := client.sendBuffer <:+ client.queuedText

theorem Client.queuedText_queueLine {client : Client} {outgoing : Outgoing}
    (fits : client.accepts outgoing = true) :
    (client.queueLine outgoing).queuedText = client.queuedText ++ outgoing.line ++ [newline] := by
  rw [Client.queueLine_of_accepts fits, Client.queuedText, List.map_append, Lines.join_append,
    Client.queuedText, List.append_assoc]
  simp [Lines.join]

theorem kept_accounts : Kept (fun _ => True) Client.Accounts where
  opened socket := List.suffix_refl _
  queued client outgoing _ accounts := by
    cases fits : client.accepts outgoing with
    | false =>
      rw [Client.queueLine_of_full fits]
      exact accounts
    | true =>
      obtain ⟨gone, whole⟩ := accounts
      refine ⟨gone, ?_⟩
      rw [Client.queuedText_queueLine fits, ← whole, Client.queueLine_of_accepts fits]
      simp only [List.append_assoc]
  enrolled client userId accounts := accounts
  received client buffer accounts := accounts
  written client results accounts := by
    obtain ⟨buffer, written, split⟩ := client.writeClient_spec results
    obtain ⟨gone, whole⟩ := accounts
    rw [written]
    refine ⟨gone ++ (client.writeClient results).2.1, ?_⟩
    show _ = client.queuedText
    rw [List.append_assoc, ← whole, split]

end RemoteControl.SignalingServer

/-
This file proves that lines get from one client to another once, in order and
under the id of their connection.

Two comparisons go along with every step. What `ReadClient` has taken out of a
connection's stream, what its buffer holds and what is in flight is what was sent
on it; and the routed lines in the history of a queue are those recorded as
forwarded to its connection. From the second on, the network of the server's own
direction carries the queue to the callback.
-/

import RemoteControl.Server.Transport

namespace RemoteControl.SignalingServer

open Lines

namespace Transport

/-! ### The invariant -/

variable (transport : Transport)

/-- The texts forwarded from a connection. -/
def forwardsFrom (connection : Nat) : List ByteString :=
  (transport.forwards.filter (·.sender = connection)).map Forward.json

/-- The senders' ids and the texts forwarded to a connection. -/
def forwardsTo (connection : Nat) : List (ByteString × ByteString) :=
  (transport.forwards.filter (·.receiver = connection)).map fun forward =>
    (forward.senderId, forward.json)

/-- What holds of an open connection. -/
structure Connected (socket : Socket) (client : Client) : Prop where
  counted : transport.connection socket < transport.opened
  carries : (transport.uplink socket).Carries client.receiveBuffer
  named : (transport.uplink socket).userId = client.userId
  relayed : client.relayed = transport.forwardsTo (transport.connection socket)

/-- A record of a forward names two connections and the id the first has logged in with. -/
structure Genuine (forward : Forward) : Prop where
  sender : forward.sender < transport.opened
  receiver : forward.receiver < transport.opened
  senderId : forward.senderId = (transport.uplinks forward.sender).userId
  loggedIn : forward.senderId ≠ []

/-- What holds of the transport in every state. -/
structure Sound (transport : Transport) : Prop where
  network : networkSystem.Reachable transport.network
  connected : ∀ socket client, transport.server.clients.lookup socket = some client →
    transport.Connected socket client
  apart : ∀ first second, first ∈ transport.server.clients → second ∈ transport.server.clients →
    transport.connection first = transport.connection second → first = second
  carries : ∀ connection, ∃ held, (transport.uplinks connection).Carries held
  unopened : ∀ connection, transport.opened ≤ connection → transport.uplinks connection = {}
  genuine : ∀ forward ∈ transport.forwards, transport.Genuine forward
  ordered : ∀ connection, (transport.forwardsFrom connection).Sublist
    (contents (transport.uplinks connection).taken)

theorem sound_start : Sound {} where
  network := .start rfl
  connected socket client present := by cases present
  apart first second open_ := by cases open_
  carries _ := ⟨[], Uplink.carries_nil⟩
  unopened _ _ := rfl
  genuine forward member := by cases member
  ordered _ := List.Sublist.slnil

variable {transport}

/-- A client that three observations do not tell from an earlier one. -/
theorem exists_of_observed {before after : Server} {socket : Socket} {client : Client}
    (present : after.clients.lookup socket = some client)
    (userId : after.observed Client.userId socket = before.observed Client.userId socket)
    (buffer : after.observed Client.receiveBuffer socket =
      before.observed Client.receiveBuffer socket)
    (relayed : after.observed Client.relayed socket = before.observed Client.relayed socket) :
    ∃ earlier, before.clients.lookup socket = some earlier ∧ client.userId = earlier.userId ∧
      client.receiveBuffer = earlier.receiveBuffer ∧ client.relayed = earlier.relayed := by
  unfold Server.observed at userId buffer relayed
  rw [present] at userId buffer relayed
  cases known : before.clients.lookup socket with
  | none => simp [known] at userId
  | some earlier =>
    simp only [known, Option.map_some, Option.some_inj] at userId buffer relayed
    exact ⟨earlier, rfl, userId, buffer, relayed⟩

/-- A step of the network that reads nothing and routes nothing. -/
theorem Sound.quiet (sound : transport.Sound) {network : Network}
    (reachable : networkSystem.Reachable network)
    (same : ∀ socket ∈ network.server.clients,
      network.server.observed Client.userId socket =
        transport.server.observed Client.userId socket ∧
      network.server.observed Client.receiveBuffer socket =
        transport.server.observed Client.receiveBuffer socket ∧
      network.server.observed Client.relayed socket =
        transport.server.observed Client.relayed socket) :
    Sound { transport with network } := by
  have earlier {socket : Socket} {client : Client}
      (present : network.server.clients.lookup socket = some client) :
      ∃ earlier, transport.server.clients.lookup socket = some earlier ∧
        client.userId = earlier.userId ∧ client.receiveBuffer = earlier.receiveBuffer ∧
        client.relayed = earlier.relayed := by
    obtain ⟨userId, buffer, relayed⟩ := same socket (Table.mem_iff_lookup.mpr ⟨client, present⟩)
    exact exists_of_observed present userId buffer relayed
  have before {socket : Socket} (open_ : socket ∈ network.server.clients) :
      socket ∈ transport.server.clients := by
    obtain ⟨client, present⟩ := Table.mem_iff_lookup.mp open_
    obtain ⟨known, found, -⟩ := earlier present
    exact Table.mem_iff_lookup.mpr ⟨known, found⟩
  refine ⟨reachable, fun socket client present => ?_, fun first second open_ also =>
    sound.apart first second (before open_) (before also), sound.carries, sound.unopened,
    fun forward member => ?_, sound.ordered⟩
  · obtain ⟨known, found, userId, buffer, relayed⟩ := earlier present
    obtain ⟨counted, carries, named, all⟩ := sound.connected socket known found
    exact ⟨counted, buffer ▸ carries, named.trans userId.symm, relayed.trans all⟩
  · obtain ⟨sender, receiver, senderId, loggedIn⟩ := sound.genuine forward member
    exact ⟨sender, receiver, senderId, loggedIn⟩

/-- The client's direction of one connection goes on, and the network with it. -/
def goOn (transport : Transport) (network : Network) (socket : Socket) (uplink : Uplink)
    (new : List Forward) : Transport :=
  { transport with
    network
    uplinks := Function.update transport.uplinks (transport.connection socket) uplink
    forwards := transport.forwards ++ new }

@[simp]
theorem goOn_uplinks_self (network : Network) (socket : Socket) (uplink : Uplink)
    (new : List Forward) :
    (transport.goOn network socket uplink new).uplinks (transport.connection socket) = uplink := by
  simp [goOn]

theorem goOn_uplinks_of_ne {socket : Socket} {connection : Nat}
    (different : connection ≠ transport.connection socket) (network : Network) (uplink : Uplink)
    (new : List Forward) :
    (transport.goOn network socket uplink new).uplinks connection =
      transport.uplinks connection := by
  simp [goOn, different]

/-- The server goes on with the lines of one connection, and forwards some of them. -/
theorem Sound.goesOn (sound : transport.Sound) {socket : Socket} {client : Client}
    (present : transport.server.clients.lookup socket = some client) {network : Network}
    (reachable : networkSystem.Reachable network) {uplink : Uplink} {new : List Forward}
    {messages : List ByteString}
    (others : ∀ place ∈ network.server.clients, place ≠ socket →
      network.server.observed Client.userId place =
        transport.server.observed Client.userId place ∧
      network.server.observed Client.receiveBuffer place =
        transport.server.observed Client.receiveBuffer place)
    (relayed : ∀ place ∈ network.server.clients, network.server.observed Client.relayed place =
      (transport.server.observed Client.relayed place).map
        (· ++ (new.filter (·.receiver = transport.connection place)).map fun forward =>
          (forward.senderId, forward.json)))
    (self : ∀ after, network.server.clients.lookup socket = some after →
      uplink.Carries after.receiveBuffer ∧ uplink.userId = after.userId)
    (carries : ∃ held, uplink.Carries held)
    (genuine : ∀ forward ∈ new, forward.sender = transport.connection socket ∧
      forward.receiver < transport.opened ∧ forward.senderId = uplink.userId ∧
      forward.senderId ≠ [])
    (named : client.userId ≠ [] → uplink.userId = client.userId)
    (taken : contents uplink.taken = contents (transport.uplink socket).taken ++ messages)
    (ordered : (new.map Forward.json).Sublist messages) :
    (transport.goOn network socket uplink new).Sound := by
  have open_ : socket ∈ transport.server.clients := Table.mem_iff_lookup.mpr ⟨client, present⟩
  have here := sound.connected socket client present
  have before {place : Socket} (there : place ∈ network.server.clients) :
      place ∈ transport.server.clients := by
    obtain ⟨after, found⟩ := Table.mem_iff_lookup.mp there
    have same := relayed place there
    unfold Server.observed at same
    rw [found] at same
    cases known : transport.server.clients.lookup place with
    | none => simp [known] at same
    | some earlier => exact Table.mem_iff_lookup.mpr ⟨earlier, known⟩
  have elsewhere {place : Socket} (there : place ∈ transport.server.clients)
      (different : place ≠ socket) :
      (transport.goOn network socket uplink new).uplink place = transport.uplink place :=
    Function.update_of_ne (fun same => different (sound.apart place socket there open_ same)) _ _
  refine ⟨reachable, fun place after found => ?_, fun first second left right =>
    sound.apart first second (before left) (before right), fun connection => ?_,
    fun connection above => ?_, fun forward member => ?_, fun connection => ?_⟩
  · replace found : network.server.clients.lookup place = some after := found
    have there : place ∈ network.server.clients := Table.mem_iff_lookup.mpr ⟨after, found⟩
    obtain ⟨earlier, known⟩ := Table.mem_iff_lookup.mp (before there)
    obtain ⟨counted, carried, namedHere, all⟩ := sound.connected place earlier known
    have queue : after.relayed = transport.forwardsTo (transport.connection place) ++
        (new.filter (·.receiver = transport.connection place)).map fun forward =>
          (forward.senderId, forward.json) := by
      have same := relayed place there
      unfold Server.observed at same
      rw [found, known] at same
      simpa [all] using same
    refine ⟨counted, ?_, ?_, ?_⟩
    · by_cases same : place = socket
      · subst same
        simpa [Transport.uplink, goOn] using (self after found).1
      · have buffer := (others place there same).2
        unfold Server.observed at buffer
        rw [found, known] at buffer
        simp only [Option.map_some, Option.some_inj] at buffer
        rw [elsewhere (before there) same, buffer]
        exact carried
    · by_cases same : place = socket
      · subst same
        simpa [Transport.uplink, goOn] using (self after found).2
      · have userId := (others place there same).1
        unfold Server.observed at userId
        rw [found, known] at userId
        simp only [Option.map_some, Option.some_inj] at userId
        rw [elsewhere (before there) same, userId]
        exact namedHere
    · rw [queue, forwardsTo, forwardsTo, goOn, List.filter_append, List.map_append]
  · by_cases same : connection = transport.connection socket
    · subst same
      simpa using carries
    · simpa [goOn_uplinks_of_ne same] using sound.carries connection
  · have different : connection ≠ transport.connection socket := by
      have := here.counted
      simp only [goOn] at above
      omega
    simpa [goOn_uplinks_of_ne different] using sound.unopened connection above
  · simp only [goOn, List.mem_append] at member
    rcases member with old | added
    · obtain ⟨sender, receiver, senderId, loggedIn⟩ := sound.genuine forward old
      refine ⟨sender, receiver, ?_, loggedIn⟩
      by_cases same : forward.sender = transport.connection socket
      · rw [same] at senderId ⊢
        have known : forward.senderId = client.userId := senderId.trans here.named
        rw [goOn_uplinks_self, known]
        exact (named (known ▸ loggedIn)).symm
      · simpa [goOn_uplinks_of_ne same] using senderId
    · obtain ⟨sender, receiver, senderId, loggedIn⟩ := genuine forward added
      exact ⟨sender ▸ here.counted, receiver, by simpa [sender] using senderId, loggedIn⟩
  · by_cases same : connection = transport.connection socket
    · subst same
      have all : new.filter (·.sender = transport.connection socket) = new :=
        List.filter_eq_self.mpr fun forward added => by simpa using (genuine forward added).1
      have texts : (transport.goOn network socket uplink new).forwardsFrom
            (transport.connection socket) =
          transport.forwardsFrom (transport.connection socket) ++ new.map Forward.json := by
        simp [forwardsFrom, goOn, all]
      rw [texts, goOn_uplinks_self, taken]
      exact (sound.ordered _).append ordered
    · have none : new.filter (·.sender = connection) = [] := by
        refine List.filter_eq_nil_iff.mpr fun forward added => ?_
        simpa [(genuine forward added).1] using Ne.symm same
      have texts : (transport.goOn network socket uplink new).forwardsFrom connection =
          transport.forwardsFrom connection := by
        simp [forwardsFrom, goOn, none]
      rw [texts, goOn_uplinks_of_ne same]
      exact sound.ordered connection

/-! ### Every step -/

theorem server_serve (action : SignalingServer.Action) :
    (transport.network.next (.serve action)).server = transport.server.next action :=
  transport.network.serve_server action

/-- A client's step on its own connection. -/
theorem Sound.setUplink (sound : transport.Sound) {socket : Socket}
    (open_ : socket ∈ transport.server.clients) {uplink : Uplink}
    (taken : uplink.taken = (transport.uplink socket).taken)
    (userId : uplink.userId = (transport.uplink socket).userId)
    (carries : ∀ held, (transport.uplink socket).Carries held → uplink.Carries held) :
    (transport.setUplink socket uplink).Sound := by
  obtain ⟨client, present⟩ := Table.mem_iff_lookup.mp open_
  have connected := sound.connected socket client present
  have same : contents uplink.taken = contents (transport.uplink socket).taken ++ [] := by
    simp [taken]
  have whole : (transport.goOn transport.network socket uplink []).Sound :=
    sound.goesOn present sound.network (fun _ _ _ => ⟨rfl, rfl⟩) (fun _ _ => by simp [server])
      (fun after found => by
        cases found.symm.trans present
        exact ⟨carries _ connected.carries, userId.trans connected.named⟩)
      ⟨_, carries _ connected.carries⟩ (by simp) (fun _ => userId.trans connected.named) same
      (List.Sublist.refl [])
  simpa [goOn, Transport.setUplink] using whole

/-- The server's buffer of one connection is written. -/
theorem lookup_store {server : Server} {socket : Socket} {client : Client}
    (present : server.clients.lookup socket = some client) (buffer : ByteString) :
    (server.next (.receive socket buffer)).clients.lookup socket =
      some { client with receiveBuffer := buffer } := by
  show (Table.modify socket _ server.clients).lookup socket = _
  rw [Table.lookup_modify_self, present]
  rfl

theorem observed_store (server : Server) (socket : Socket) (buffer : ByteString)
    (place : Socket) :
    (server.next (.receive socket buffer)).observed Client.userId place =
      server.observed Client.userId place ∧
    (server.next (.receive socket buffer)).observed Client.relayed place =
      server.observed Client.relayed place ∧
    (place ≠ socket → (server.next (.receive socket buffer)).observed Client.receiveBuffer place =
      server.observed Client.receiveBuffer place) := by
  refine ⟨?_, ?_, fun other => Server.observed_congr ?_⟩
  · exact server.observed_modify socket (fun client => { client with receiveBuffer := buffer })
      (fun _ => rfl) place
  · exact server.observed_modify socket (fun client => { client with receiveBuffer := buffer })
      (fun _ => rfl) place
  · show (Table.modify socket _ server.clients).lookup place = _
    rw [Table.lookup_modify, if_neg other]

theorem receiveBuffer_of_present {server : Server} {socket : Socket} {client : Client}
    (present : server.clients.lookup socket = some client) :
    server.receiveBuffer socket = client.receiveBuffer := by
  rw [Server.receiveBuffer, present]
  rfl

theorem Sound.serves (sound : transport.Sound) {action : SignalingServer.Action}
    (allowed : transport.server.allowed action) (oneLine : action.OneLine) :
    networkSystem.Reachable (transport.network.next (.serve action)) :=
  sound.network.take (.serve action) ⟨allowed, oneLine⟩

/-- The server's buffer and the uplink move together, and nothing is routed. -/
theorem Sound.stores (sound : transport.Sound) {socket : Socket} {client : Client}
    (present : transport.server.clients.lookup socket = some client) {buffer : ByteString}
    {uplink : Uplink} (carries : uplink.Carries buffer) (named : uplink.userId = client.userId)
    (taken : contents uplink.taken = contents (transport.uplink socket).taken) :
    (transport.goOn (transport.network.next (.serve (.receive socket buffer))) socket uplink
      []).Sound := by
  have observed := observed_store transport.server socket buffer
  rw [← List.append_nil (contents (transport.uplink socket).taken)] at taken
  have reachable : networkSystem.Reachable
      (transport.network.next (.serve (.receive socket buffer))) := sound.serves trivial trivial
  refine sound.goesOn present reachable (fun place _ other => ?_)
    (fun place _ => ?_) (fun after found => ?_) ⟨buffer, carries⟩ (by simp) (fun _ => named) taken
    (List.Sublist.refl [])
  · rw [server_serve]
    exact ⟨(observed place).1, (observed place).2.2 other⟩
  · rw [server_serve, (observed place).2.1]
    simp
  · rw [server_serve, lookup_store present, Option.some_inj] at found
    subst found
    exact ⟨carries, named⟩

/-- `recv` moves bytes into the server's buffer. -/
theorem Sound.receive (sound : transport.Sound) {socket : Socket} {count : Nat}
    (allowed : transport.Allowed (.receive socket count)) :
    (transport.next (.receive socket count)).Sound := by
  obtain ⟨open_, -⟩ := allowed
  obtain ⟨client, present⟩ := Table.mem_iff_lookup.mp open_
  have connected := sound.connected socket client present
  have buffer : transport.server.receiveBuffer socket = client.receiveBuffer :=
    receiveBuffer_of_present present
  let text := client.receiveBuffer ++ (transport.uplink socket).inFlight.take count
  let uplink : Uplink :=
    { (transport.uplink socket).receive count with dropped := maxMessageSize < text.length }
  have carries : uplink.Carries text := by
    obtain ⟨stream, sent, taken⟩ := connected.carries.receive count
    exact ⟨stream, sent, taken⟩
  have goes := sound.stores present carries connected.named rfl
  simpa [goOn, Transport.next, Transport.setUplink, Transport.serve, Transport.uplink, buffer,
    text, uplink] using goes

theorem newline_notMem_stripReturn {line : ByteString} (whole : newline ∉ line) :
    newline ∉ stripReturn line := by
  rw [stripReturn]
  split
  · exact fun member => whole (List.mem_of_mem_dropLast member)
  · exact whole

theorem contents_singleton (line : ByteString) :
    contents [line] = if stripReturn line = [] then [] else [stripReturn line] := by
  by_cases empty : stripReturn line = [] <;> simp [contents, empty]

theorem userIdOf_of_present {socket : Socket} {client : Client}
    (present : transport.server.clients.lookup socket = some client) :
    transport.userIdOf socket = client.userId := by
  rw [userIdOf, Server.observed, present]
  rfl

/-- A line without a message leaves the buffer. -/
theorem Sound.takeLine_of_empty (sound : transport.Sound) {socket : Socket} {client : Client}
    (present : transport.server.clients.lookup socket = some client) {line rest : ByteString}
    (held : client.receiveBuffer = line ++ newline :: rest) (whole : newline ∉ line)
    (rehash : Rehash ByteString Socket) (empty : stripReturn line = []) :
    (transport.takeLine socket rehash line rest).Sound := by
  have carried := (sound.connected socket client present).carries
  rw [held] at carried
  have nothing : contents ((transport.uplink socket).take line client.userId).taken =
      contents (transport.uplink socket).taken := by
    simp [Uplink.take, contents_append, contents_singleton, empty]
  have goes := sound.stores present (carried.take whole client.userId) rfl nothing
  have left : (transport.serve (.receive socket rest)).server.clients.lookup socket =
      some { client with receiveBuffer := rest } := by
    rw [← lookup_store present rest, ← server_serve]
    rfl
  rw [Transport.takeLine]
  simp only [empty, if_true]
  rw [userIdOf_of_present left]
  simpa [goOn, Transport.setUplink, Transport.serve, Transport.uplink] using goes

/-- A line leaves the buffer and its message is routed. -/
theorem Sound.takeLine_of_message (sound : transport.Sound) {socket : Socket} {client : Client}
    (present : transport.server.clients.lookup socket = some client) {line rest : ByteString}
    (held : client.receiveBuffer = line ++ newline :: rest) (whole : newline ∉ line)
    (rehash : Rehash ByteString Socket) (message : stripReturn line ≠ []) :
    (transport.takeLine socket rehash line rest).Sound := by
  have connected := sound.connected socket client present
  have carried := connected.carries
  rw [held] at carried
  let stored := transport.serve (.receive socket rest)
  let reader : Client := { client with receiveBuffer := rest }
  have kept : stored.server = transport.server.next (.receive socket rest) :=
    transport.server_serve _
  have left : stored.server.clients.lookup socket = some reader := by
    rw [kept, lookup_store present rest]
  have observed := observed_store transport.server socket rest
  rw [← kept] at observed
  let json := stripReturn line
  let new : List Forward := ((stored.server.recipient reader json).map fun target =>
    ⟨transport.connection socket, transport.connection target, client.userId, json⟩).toList
  let network := stored.network.next (.serve (.route socket json rehash))
  have routed : network.server = stored.server.routeMessage rehash socket json :=
    stored.server_serve (.route socket json rehash)
  have reachable : networkSystem.Reachable network :=
    (sound.serves (show transport.server.allowed (.receive socket rest) from trivial)
      trivial).take (.serve (.route socket json rehash))
        ⟨trivial, newline_notMem_stripReturn whole⟩
  have queues (place : Socket) : network.server.observed Client.relayed place =
      (transport.server.observed Client.relayed place).map
        (· ++ if stored.server.recipient reader json = some place then [(client.userId, json)]
          else []) := by
    rw [routed, Server.relayed_routeMessage left, (observed place).2.1]
  have buffers (place : Socket) : network.server.observed Client.receiveBuffer place =
      stored.server.observed Client.receiveBuffer place := by
    rw [routed]
    exact unmoved_receiveBuffer.routeMessage (fun _ _ => trivial) stored.server rehash socket
      (Server.relays_any _ (.route socket json rehash)) place
  obtain ⟨after, found⟩ : ∃ after, network.server.clients.lookup socket = some after := by
    have same := buffers socket
    unfold Server.observed at same
    rw [left] at same
    obtain ⟨after, found, -⟩ := Option.map_eq_some_iff.mp same
    exact ⟨after, found⟩
  have buffer : after.receiveBuffer = rest := by
    have same := buffers socket
    unfold Server.observed at same
    rw [left, found] at same
    exact Option.some_inj.mp same
  have named (loggedIn : client.userId ≠ []) : after.userId = client.userId := by
    have keeps : socket = socket → stored.server.observed Client.userId socket ≠ some [] :=
      fun _ => by simpa [Server.observed, left, reader] using loggedIn
    have same := stored.server.observed_userId_routeMessage rehash socket json keeps
    rw [← routed] at same
    unfold Server.observed at same
    rw [found, left] at same
    exact Option.some_inj.mp same
  have opens {place : Socket} (there : place ∈ stored.server.clients) :
      place ∈ transport.server.clients := by
    obtain ⟨holder, known⟩ := Table.mem_iff_lookup.mp there
    have same := (observed place).1
    unfold Server.observed at same
    rw [known] at same
    obtain ⟨earlier, before, -⟩ := Option.map_eq_some_iff.mp same.symm
    exact Table.mem_iff_lookup.mpr ⟨earlier, before⟩
  have target_open {target : Socket} (chosen : stored.server.recipient reader json = some target) :
      target ∈ transport.server.clients := by
    obtain ⟨holder, known, -⟩ := (Server.recipient_eq_some.mp chosen).receiver
    exact opens (Table.mem_iff_lookup.mpr ⟨holder, known⟩)
  have relayed (place : Socket) (there : place ∈ network.server.clients) :
      network.server.observed Client.relayed place =
        (transport.server.observed Client.relayed place).map
          (· ++ (new.filter (·.receiver = transport.connection place)).map fun forward =>
            (forward.senderId, forward.json)) := by
    rw [queues]
    cases chosen : stored.server.recipient reader json with
    | none => simp [new, chosen]
    | some target =>
      by_cases here : target = place
      · simp [new, chosen, here]
      · have before : place ∈ transport.server.clients := by
          obtain ⟨final, known⟩ := Table.mem_iff_lookup.mp there
          have same := queues place
          unfold Server.observed at same
          rw [known] at same
          obtain ⟨_, known, -⟩ := Option.map_eq_some_iff.mp same.symm
          obtain ⟨earlier, before, -⟩ := Option.map_eq_some_iff.mp known
          exact Table.mem_iff_lookup.mpr ⟨earlier, before⟩
        have apart : transport.connection target ≠ transport.connection place :=
          fun same => here (sound.apart target place (target_open chosen) before same)
        simp [new, chosen, here, apart]
  have genuine (forward : Forward) (member : forward ∈ new) :
      forward.sender = transport.connection socket ∧ forward.receiver < transport.opened ∧
        forward.senderId = after.userId ∧ forward.senderId ≠ [] := by
    obtain ⟨target, chosen, rfl⟩ :=
      Option.map_eq_some_iff.mp (Option.mem_toList.mp member)
    obtain ⟨earlier, known⟩ := Table.mem_iff_lookup.mp (target_open chosen)
    have loggedIn : client.userId ≠ [] := (Server.recipient_eq_some.mp chosen).routable.loggedIn
    exact ⟨rfl, (sound.connected target earlier known).counted, (named loggedIn).symm, loggedIn⟩
  have taken : contents ((transport.uplink socket).take line after.userId).taken =
      contents (transport.uplink socket).taken ++ [json] := by
    simp [Uplink.take, contents_append, contents_singleton, message, json]
  have goes : (transport.goOn network socket ((transport.uplink socket).take line after.userId)
      new).Sound := by
    refine sound.goesOn present reachable (fun place _ other => ⟨?_, ?_⟩) relayed
      (fun final same => ?_) ⟨rest, carried.take whole _⟩ genuine named taken ?_
    · rw [routed, stored.server.observed_userId_routeMessage rehash socket json
        (fun same => absurd same other), (observed place).1]
    · rw [buffers, (observed place).2.2 other]
    · cases found.symm.trans same
      exact ⟨buffer ▸ carried.take whole _, rfl⟩
    · cases chosen : stored.server.recipient reader json <;> simp [new, chosen]
  have same : transport.takeLine socket rehash line rest =
      transport.goOn network socket ((transport.uplink socket).take line after.userId) new := by
    have behind : stored.route socket rehash json =
        { transport with network, forwards := transport.forwards ++ new } := by
      rw [Transport.route, left]
      rfl
    have id : Transport.userIdOf { transport with network, forwards := transport.forwards ++ new }
        socket = after.userId := userIdOf_of_present found
    rw [Transport.takeLine]
    simp only [if_neg message]
    show Transport.setUplink (stored.route socket rehash json) _ _ = _
    rw [behind, id]
    rfl
  rw [same]
  exact goes

/-- The loop takes the line before the first newline. -/
theorem next_take {socket : Socket} {line rest : ByteString}
    (held : transport.server.receiveBuffer socket = line ++ newline :: rest)
    (whole : newline ∉ line) (rehash : Rehash ByteString Socket) :
    transport.next (.take socket rehash) = transport.takeLine socket rehash line rest := by
  rw [Transport.next]
  simp only [held, ListSearch.find_zero, ListSearch.indexOf_singleton_append_cons whole,
    List.take_left, List.drop_length_add_append]
  rfl

theorem Sound.take (sound : transport.Sound) {socket : Socket}
    {rehash : Rehash ByteString Socket} (allowed : transport.Allowed (.take socket rehash)) :
    (transport.next (.take socket rehash)).Sound := by
  obtain ⟨client, present⟩ := Table.mem_iff_lookup.mp allowed.1
  have buffer := receiveBuffer_of_present present
  by_cases complete : newline ∈ client.receiveBuffer
  · obtain ⟨line, rest, held, whole⟩ := List.eq_append_cons_of_mem complete
    rw [next_take (buffer.trans held) whole]
    by_cases empty : stripReturn line = []
    · exact sound.takeLine_of_empty present held whole rehash empty
    · exact sound.takeLine_of_message present held whole rehash empty
  · rw [Transport.next]
    simp only [buffer, ListSearch.find_zero, ListSearch.indexOf_singleton_eq_none.mpr complete]
    exact sound

/-- Who is connected behind a disconnect was so before, on another socket. -/
theorem of_mem_disconnect {server : Server} {socket place : Socket}
    (there : place ∈ (server.next (.disconnect socket)).clients) :
    place ≠ socket ∧ place ∈ server.clients := by
  obtain ⟨client, found⟩ := Table.mem_iff_lookup.mp there
  cases known : server.clients.lookup socket with
  | none =>
    rw [Server.next, Server.disconnectClient_of_absent known] at found
    refine ⟨?_, Table.mem_iff_lookup.mpr ⟨client, found⟩⟩
    rintro rfl
    cases found.symm.trans known
  | some left =>
    rw [Server.next, Server.lookup_disconnectClient known] at found
    split at found
    · cases found
    · rename_i other
      obtain ⟨earlier, before, -⟩ := Option.map_eq_some_iff.mp found
      exact ⟨other, Table.mem_iff_lookup.mpr ⟨earlier, before⟩⟩

/-- Writing to clients changes no ids, no buffers and no histories. -/
theorem Sound.write (sound : transport.Sound) (socket : Socket) (results : List SendResult) :
    (transport.serve (.write socket results)).Sound := by
  refine sound.quiet (sound.serves trivial trivial) fun place there => ?_
  rw [server_serve]
  have writes (client : Client) : (client.writeClient results).1.userId = client.userId ∧
      (client.writeClient results).1.receiveBuffer = client.receiveBuffer ∧
      (client.writeClient results).1.relayed = client.relayed := by
    obtain ⟨buffer, written, -⟩ := client.writeClient_spec results
    rw [written]
    exact ⟨rfl, rfl, rfl⟩
  exact ⟨Server.observed_modify _ socket _ (fun client => (writes client).1) place,
    Server.observed_modify _ socket _ (fun client => (writes client).2.1) place,
    Server.observed_modify _ socket _ (fun client => (writes client).2.2) place⟩

/-- A disconnect leaves the ids, the buffers and the routed lines of the others alone. -/
theorem Sound.disconnect (sound : transport.Sound) (socket : Socket) :
    (transport.serve (.disconnect socket)).Sound := by
  refine sound.quiet (sound.serves trivial trivial) fun place there => ?_
  rw [server_serve] at there ⊢
  obtain ⟨other, before⟩ := of_mem_disconnect there
  have connected : (transport.server.clients.lookup place).isSome := by
    obtain ⟨client, present⟩ := Table.mem_iff_lookup.mp before
    simp [present]
  have stays : SignalingServer.Action.disconnect socket ≠ .disconnect place := by
    simpa using Ne.symm other
  exact ⟨Server.observed_userId_next before trivial stays (.inr (by simp)),
    transport.server.receiveBuffer_next connected (Ne.symm other),
    unmoved_relayed.next (fun _ own => own) connected trivial (by simp) (by simp) stays⟩

theorem connection_admit_self (socket : Socket) :
    (transport.enlist socket).connection socket = transport.opened := by simp [enlist]

theorem connection_admit_of_ne {socket place : Socket} (other : place ≠ socket) :
    (transport.enlist socket).connection place = transport.connection place := by
  simp [enlist, other]

/-- Numbering a connection is sound when its client is new and all others have a number. -/
theorem Sound.enlist (sound : transport.Sound) {socket : Socket} {network : Network}
    (reachable : networkSystem.Reachable network)
    (lookup : ∀ place, network.server.clients.lookup place =
      if place = socket then some { socket } else transport.server.clients.lookup place) :
    (Transport.enlist { transport with network } socket).Sound := by
  have before {place : Socket} (there : place ∈ network.server.clients) (other : place ≠ socket) :
      ∃ client, transport.server.clients.lookup place = some client := by
    obtain ⟨client, found⟩ := Table.mem_iff_lookup.mp there
    rw [lookup, if_neg other] at found
    exact ⟨client, found⟩
  have below {place : Socket} (there : place ∈ network.server.clients) (other : place ≠ socket) :
      transport.connection place < transport.opened := by
    obtain ⟨client, known⟩ := before there other
    exact (sound.connected place client known).counted
  refine ⟨reachable, fun place client found => ?_, fun first second left right same => ?_,
    sound.carries, fun connection above => sound.unopened connection (Nat.le_of_succ_le above),
    fun forward member => ?_, sound.ordered⟩
  · replace found := (lookup place).symm.trans found
    by_cases here : place = socket
    · subst here
      rw [if_pos rfl, Option.some_inj] at found
      subst found
      have unused : transport.uplinks transport.opened = {} :=
        sound.unopened transport.opened (Nat.le_refl _)
      have nobody : transport.forwardsTo transport.opened = [] := by
        refine List.map_eq_nil_iff.mpr (List.filter_eq_nil_iff.mpr fun forward member => ?_)
        have := (sound.genuine forward member).receiver
        simp only [decide_eq_true_eq]
        omega
      refine ⟨?_, ?_, ?_, ?_⟩ <;> try rw [Transport.uplink]
      all_goals rw [connection_admit_self]
      · exact Nat.lt_succ_self _
      · exact unused ▸ Uplink.carries_nil
      · exact congrArg Uplink.userId unused
      · exact nobody.symm
    · rw [if_neg here] at found
      obtain ⟨counted, carries, named, relayed⟩ := sound.connected place client found
      refine ⟨?_, ?_, ?_, ?_⟩ <;> try rw [Transport.uplink]
      all_goals rw [connection_admit_of_ne here]
      · exact Nat.lt_succ_of_lt counted
      · exact carries
      · exact named
      · exact relayed
  · by_cases here : first = socket <;> by_cases there : second = socket
    · rw [here, there]
    · rw [here, connection_admit_self, connection_admit_of_ne there] at same
      exact absurd same.symm (below right there).ne
    · rw [there, connection_admit_self, connection_admit_of_ne here] at same
      exact absurd same (below left here).ne
    · obtain ⟨client, known⟩ := before left here
      obtain ⟨other, also⟩ := before right there
      rw [connection_admit_of_ne here, connection_admit_of_ne there] at same
      exact sound.apart first second (Table.mem_iff_lookup.mpr ⟨client, known⟩)
        (Table.mem_iff_lookup.mpr ⟨other, also⟩) same
  · obtain ⟨sender, receiver, senderId, loggedIn⟩ := sound.genuine forward member
    exact ⟨Nat.lt_succ_of_lt sender, Nat.lt_succ_of_lt receiver, senderId, loggedIn⟩

/-- A connection that is accepted begins with nothing. -/
theorem Sound.accept (sound : transport.Sound) {accepted : Accepted}
    (allowed : transport.Allowed (.accept accepted)) :
    (transport.next (.accept accepted)).Sound := by
  have fresh : accepted.socket ∉ transport.server.clients := allowed
  have reachable : networkSystem.Reachable (transport.network.next (.serve (.accept accepted))) :=
    sound.serves allowed trivial
  rcases transport.server.acceptClient_cases accepted with same | ⟨-, opened⟩
  · rw [Transport.next, if_neg]
    · refine sound.quiet reachable fun place _ => ?_
      rw [server_serve, Server.next, same]
      exact ⟨rfl, rfl, rfl⟩
    · rw [Server.next, same]
      exact fresh
  · have lookup (place : Socket) :
        (transport.server.next (.accept accepted)).clients.lookup place =
          if place = accepted.socket then some { socket := accepted.socket }
          else transport.server.clients.lookup place := by
      rw [Server.next, opened]
      exact Table.lookup_emplace fresh _ place
    rw [Transport.next, if_pos (Table.mem_iff_lookup.mpr ⟨_, (lookup _).trans (if_pos rfl)⟩)]
    rw [← server_serve] at lookup
    exact sound.enlist reachable lookup

theorem Sound.next (sound : transport.Sound) {action : Action}
    (allowed : transport.Allowed action) : (transport.next action).Sound := by
  cases action with
  | accept accepted => exact sound.accept allowed
  | send socket line =>
    exact sound.setUplink allowed.1 rfl rfl fun held carries =>
      carries.send allowed.2.2 allowed.2.1
  | sendFails socket part =>
    exact sound.setUplink allowed.1 rfl rfl fun held carries =>
      carries.sendFails allowed.2.2 allowed.2.1
  | receive socket count => exact sound.receive allowed
  | receiveFails socket =>
    exact sound.setUplink allowed.1 rfl rfl fun held carries =>
      ⟨carries.stream, carries.sent, carries.taken⟩
  | take socket rehash => exact sound.take allowed
  | write socket results => exact sound.write socket results
  | disconnect socket => exact sound.disconnect socket
  | deliver socket count =>
    exact sound.quiet (sound.network.take (.receive socket count) trivial)
      fun _ _ => ⟨rfl, rfl, rfl⟩
  | deliverClosed index count =>
    exact sound.quiet (sound.network.take (.receiveClosed index count) trivial)
      fun _ _ => ⟨rfl, rfl, rfl⟩

theorem sound_of_reachable {transport : Transport}
    (reachable : transportSystem.Reachable transport) : transport.Sound :=
  reachable.invariant (fun _ initial => initial ▸ sound_start)
    fun _ _ _ sound allowed => sound.next allowed

/-! ### From one client to another -/

theorem contents_mono {first second : List ByteString} (front : first <+: second) :
    contents first <+: contents second := by
  obtain ⟨rest, rfl⟩ := front
  rw [contents_append]
  exact List.prefix_append _ _

/-- A front of a mapped list is the map of a front. -/
theorem exists_of_prefix_map {α β : Type*} {f : α → β} {front : List β} {whole : List α}
    (here : front <+: whole.map f) :
    ∃ kept, kept <+: whole ∧ front = kept.map f ∧ (front = whole.map f → kept = whole) := by
  refine ⟨whole.take front.length, List.take_prefix _ _, ?_, fun all => ?_⟩
  · rw [List.map_take]
    exact List.prefix_iff_eq_take.mp here
  · rw [all, List.length_map, List.take_length]

/-- What the client on a socket has been given: the front of its queue, in which the lines of
others are the front of what was forwarded to it. -/
structure Given (transport : Transport) (receiver : Socket) (client : Client)
    (arrived : List Outgoing) (got : List Forward) : Prop where
  front : arrived <+: client.queued
  delivered : (transport.network.links receiver).delivered =
    messages (arrived.map Outgoing.line)
  forwarded : got <+:
    transport.forwards.filter (·.receiver = transport.connection receiver)
  relayed : arrived.filterMap Outgoing.relayed =
    got.map fun forward => (forward.senderId, forward.json)
  /-- Each carries the id its connection has logged in with. -/
  named : ∀ forward ∈ got,
    forward.senderId = (transport.uplinks forward.sender).userId ∧ forward.senderId ≠ []
  /-- Those of one connection are messages that were sent on it, each once and in order. -/
  ordered : ∀ connection, ((got.filter (·.sender = connection)).map Forward.json).Sublist
    (contents (transport.uplinks connection).sent)
  /-- When nothing is left in the queue and on the network, nothing is missing. -/
  complete : client.sendBuffer = [] → (transport.network.links receiver).inFlight = [] →
    arrived = client.queued ∧
      got = transport.forwards.filter (·.receiver = transport.connection receiver)

theorem Sound.given (sound : transport.Sound) {receiver : Socket} {client : Client}
    (present : transport.server.clients.lookup receiver = some client) :
    ∃ arrived got, transport.Given receiver client arrived got := by
  have network := Network.sound_of_reachable sound.network
  have carries := network.carries receiver client present
  have text := (network.accounts receiver client present).gone_append
  have whole : ∀ line ∈ client.queued.map Outgoing.line, newline ∉ line := by
    intro line member
    obtain ⟨outgoing, queued, rfl⟩ := List.mem_map.mp member
    exact network.oneLine receiver client present outgoing queued
  have lines : cut newline client.queuedText = (client.queued.map Outgoing.line, []) :=
    cut_join_lines whole
  have pieces : (cut newline (transport.network.links receiver).received).1 <+:
      client.queued.map Outgoing.line := by
    rw [← text, ← carries.conserved, List.append_assoc, cut_append] at lines
    rw [← (Prod.mk.inj lines).1]
    exact List.prefix_append _ _
  obtain ⟨arrived, front, same, all⟩ := exists_of_prefix_map pieces
  have relayed : arrived.filterMap Outgoing.relayed <+:
      (transport.forwards.filter (·.receiver = transport.connection receiver)).map fun forward =>
        (forward.senderId, forward.json) := by
    have known := (sound.connected receiver client present).relayed
    rw [forwardsTo] at known
    rw [← known]
    exact front.filterMap _
  obtain ⟨got, forwarded, named, every⟩ := exists_of_prefix_map relayed
  refine ⟨arrived, got, front, ?_, forwarded, named, fun forward member => ?_,
    fun connection => ?_, fun written received => ?_⟩
  · rw [carries.reassembled.delivered, same]
  · have member := (List.mem_filter.mp (forwarded.subset member)).1
    exact ⟨(sound.genuine forward member).senderId, (sound.genuine forward member).loggedIn⟩
  · obtain ⟨held, carried⟩ := sound.carries connection
    have sublist : got.Sublist transport.forwards :=
      forwarded.sublist.trans List.filter_sublist
    exact ((sublist.filter _).map _).trans
      ((sound.ordered connection).trans (contents_mono carried.taken_prefix).sublist)
  · have everything : (transport.network.links receiver).received = client.queuedText := by
      have conserved := carries.conserved
      rw [received, List.append_nil] at conserved
      rw [conserved, ← text, written, List.append_nil]
    have complete : arrived = client.queued := by
      refine all ?_
      rw [everything, lines]
    refine ⟨complete, every ?_⟩
    rw [complete]
    exact (sound.connected receiver client present).relayed

/-- In every run, what the callback of a connected client has got from others are lines their
connections have sent, each with the id of its connection, once and in the order of sending; all
that was forwarded has come when nothing is left on the way. The server takes from a connection
the front of what was sent on it, and all of it when nothing is left on the way. -/
theorem delivered_end_to_end {transport : Transport}
    (reachable : transportSystem.Reachable transport) :
    (∀ receiver client, transport.server.clients.lookup receiver = some client →
      ∃ arrived got, transport.Given receiver client arrived got) ∧
    (∀ connection, contents (transport.uplinks connection).taken <+:
      contents (transport.uplinks connection).sent) ∧
    ∀ socket client, transport.server.clients.lookup socket = some client →
      client.receiveBuffer = [] → (transport.uplink socket).inFlight = [] →
        (transport.uplink socket).taken = (transport.uplink socket).sent := by
  have sound := sound_of_reachable reachable
  refine ⟨fun receiver client present => sound.given present, fun connection => ?_,
    fun socket client present empty arrived => ?_⟩
  · obtain ⟨held, carried⟩ := sound.carries connection
    exact contents_mono carried.taken_prefix
  · have carried := (sound.connected socket client present).carries
    rw [empty] at carried
    exact carried.taken_eq arrived

/-- A line is sent on a socket, arrives in one piece and is taken. -/
def handOver (socket : Socket) (line : ByteString) : List Action :=
  [.send socket line, .receive socket (line.length + 1), .take socket .keep]

/-- Two clients log in, and the first sends an offer to the second. -/
def firstOffer : List Action :=
  [.accept ⟨1, true, .keep⟩, .accept ⟨2, true, .keep⟩] ++
    handOver 1 (SignalingClient.loginLine (bytes "alice")) ++
    handOver 2 (SignalingClient.loginLine (bytes "bob")) ++
    handOver 1 (SignalingProtocol.offer (bytes "bob") (bytes "v=0")) ++
    [.write 2 [.sent 10, .sent 4096], .deliver 2 7, .deliver 2 4096]

theorem delivered_end_to_end_firstOffer :
    ∃ arrived got, (transportSystem.run {} firstOffer).Given 2
        (((transportSystem.run {} firstOffer).server.clients.lookup 2).getD { socket := 2 })
        arrived got ∧
      got.map Forward.json = [SignalingProtocol.offer (bytes "bob") (bytes "v=0")] := by
  have reachable : transportSystem.Reachable (transportSystem.run {} firstOffer) :=
    (Transition.System.Reachable.start rfl).run (by decide +kernel)
  obtain ⟨client, present, written⟩ : ∃ client,
      (transportSystem.run {} firstOffer).server.clients.lookup 2 = some client ∧
        client.sendBuffer = [] := ⟨_, rfl, by decide +kernel⟩
  obtain ⟨arrived, got, given⟩ := (delivered_end_to_end reachable).1 2 client present
  have inFlight : ((transportSystem.run {} firstOffer).network.links 2).inFlight = [] := by
    decide +kernel
  rw [present]
  refine ⟨arrived, got, given, ?_⟩
  rw [(given.complete written inFlight).2]
  decide +kernel

/-! ### A call of ReadClient is a run -/

/-- A run leads to a state whose server is the given one, with the given buffer on a socket that
may still be read. -/
structure Reads (before after : Transport) (socket : Socket) (server : Server)
    (buffer : ByteString) : Prop where
  leads : transportSystem.Leads before after
  same : after.server = server
  holds : server.Holds socket buffer
  usable : (after.uplink socket).dropped = false

theorem leads_next {action : Action} (allowed : transport.Allowed action) :
    transportSystem.Leads transport (transport.next action) :=
  Transition.System.Leads.single allowed

theorem mem_of_holds {server : Server} {socket : Socket} {buffer : ByteString}
    (holds : server.Holds socket buffer) : socket ∈ server.clients := by
  obtain ⟨client, present, -⟩ := Option.map_eq_some_iff.mp holds
  exact Table.mem_iff_lookup.mpr ⟨client, present⟩

theorem route_server (socket : Socket) (rehash : Rehash ByteString Socket) (json : ByteString) :
    (transport.route socket rehash json).server =
      transport.server.routeMessage rehash socket json := by
  rw [Transport.route]
  split
  · rename_i absent
    exact (Server.routeMessage_of_absent absent rehash json).symm
  · exact transport.server_serve (.route socket json rehash)

theorem route_uplink (socket : Socket) (rehash : Rehash ByteString Socket) (json : ByteString) :
    (transport.route socket rehash json).uplink socket = transport.uplink socket := by
  rw [Transport.route]
  split <;> rfl

/-- A turn of the loop is the body of `ReadClient`'s loop. -/
theorem takeLine_server (socket : Socket) (rehash : Rehash ByteString Socket)
    (line rest : ByteString) (messages : List ByteString) :
    (transport.takeLine socket rehash line rest).server =
      (Handled.take socket rehash ⟨transport.server, messages⟩ line rest).server := by
  have stored : (transport.serve (.receive socket rest)).server =
      transport.server.store socket rest := transport.server_serve _
  rw [Transport.takeLine, Handled.take]
  by_cases empty : stripReturn line = []
  · simp only [empty, if_true]
    exact stored
  · simp only [if_neg empty]
    rw [← stored, ← route_server]
    rfl

theorem takeLine_uplink (socket : Socket) (rehash : Rehash ByteString Socket)
    (line rest : ByteString) : ∃ userId,
    (transport.takeLine socket rehash line rest).uplink socket =
      (transport.uplink socket).take line userId := by
  have self (routed : Transport) (uplink : Uplink) :
      (routed.setUplink socket uplink).uplink socket = uplink := by
    simp [Transport.setUplink, Transport.uplink]
  rw [Transport.takeLine]
  by_cases empty : stripReturn line = []
  · simp only [empty, if_true]
    exact ⟨_, self _ _⟩
  · simp only [if_neg empty]
    exact ⟨_, (self _ _).trans (by rw [route_uplink]; rfl)⟩

theorem Reads.take {before after : Transport} {socket : Socket} {handled : Handled}
    {line rest : ByteString}
    (reads : Reads before after socket handled.server (line ++ newline :: rest))
    (whole : newline ∉ line) (rehash : Rehash ByteString Socket) :
    Reads before (after.takeLine socket rehash line rest) socket
      (handled.take socket rehash line rest).server rest := by
  obtain ⟨leads, same, holds, usable⟩ := reads
  obtain ⟨userId, uplink⟩ := after.takeLine_uplink socket rehash line rest
  have held : after.server.receiveBuffer socket = line ++ newline :: rest := by
    rw [same, holds.receiveBuffer]
  have step : transportSystem.Leads after (after.takeLine socket rehash line rest) := by
    rw [← next_take held whole rehash]
    exact leads_next ⟨same ▸ mem_of_holds holds, usable⟩
  refine ⟨leads.trans step, ?_, (Handled.take_spec rehash holds line rest).1, ?_⟩
  · rw [takeLine_server socket rehash line rest handled.messages, same]
  · rw [uplink]
    exact usable

theorem Reads.drain {before after : Transport} {socket : Socket} {handled : Handled}
    {buffer : ByteString} (reads : Reads before after socket handled.server buffer)
    (rehash : Rehash ByteString Socket) :
    ∃ drained, Reads before drained socket
        (drain newline (Handled.take socket rehash) handled buffer).1.server
        (cut newline buffer).2 ∧
      (drained.uplink socket).inFlight = (after.uplink socket).inFlight := by
  have turn (state : Handled) (_ : List ByteString) (line rest : ByteString)
      (whole : newline ∉ line) (now : ∃ drained,
        Reads before drained socket state.server (line ++ newline :: rest) ∧
          (drained.uplink socket).inFlight = (after.uplink socket).inFlight) :
      ∃ drained, Reads before drained socket (state.take socket rehash line rest).server rest ∧
        (drained.uplink socket).inFlight = (after.uplink socket).inFlight := by
    obtain ⟨drained, reading, same⟩ := now
    obtain ⟨userId, uplink⟩ := drained.takeLine_uplink socket rehash line rest
    exact ⟨_, reading.take whole rehash, by rw [uplink]; exact same⟩
  exact (@drain_rule _ _ newline _ (Handled.take socket rehash)
    (fun state _ rest => ∃ drained, Reads before drained socket state.server rest ∧
      (drained.uplink socket).inFlight = (after.uplink socket).inFlight)
    turn handled [] buffer ⟨after, reads, rfl⟩).2

/-- A chunk that `recv` returns. -/
theorem Reads.receive {before after : Transport} {socket : Socket} {server : Server}
    {held : ByteString} (reads : Reads before after socket server held) (plain : newline ∉ held)
    {chunk : Chunk} {more : ByteString}
    (front : (after.uplink socket).inFlight = chunk.data ++ more) :
    ∃ received, transportSystem.Leads before received ∧
      received.server = server.store socket (held ++ chunk.data) ∧
      (received.uplink socket).inFlight = more ∧
      (received.uplink socket).dropped = decide (maxMessageSize < (held ++ chunk.data).length) := by
  obtain ⟨leads, same, holds, usable⟩ := reads
  have buffer : after.server.receiveBuffer socket = held := by rw [same, holds.receiveBuffer]
  have allowed : after.Allowed (.receive socket chunk.data.length) :=
    ⟨same ▸ mem_of_holds holds, usable, buffer ▸ plain, List.length_pos_of_ne_nil chunk.nonempty,
      chunk.short, by simp [front]⟩
  refine ⟨after.next (.receive socket chunk.data.length), leads.trans (leads_next allowed), ?_, ?_,
    ?_⟩
  · show (after.network.next _).server = _
    rw [server_serve, buffer, front, List.take_left, same]
    rfl
  · simp [Transport.next, Transport.setUplink, Transport.serve, Transport.uplink, Uplink.receive]
    simpa [Transport.uplink] using congrArg (List.drop chunk.data.length) front
  · simp [Transport.next, Transport.setUplink, Transport.serve, buffer, front]
    simp [Transport.uplink]

/-- A call of `ReadClient` that reads the front of what is in flight is a run, and leaves the
socket readable exactly when it returns true. -/
theorem Reads.readClient {before after : Transport} {socket : Socket} {handled : Handled}
    {held : ByteString} (reads : Reads before after socket handled.server held)
    (plain : newline ∉ held) (rehash : Rehash ByteString Socket) (ending : Ending)
    {chunks : List Chunk} (front : received chunks <+: (after.uplink socket).inFlight) :
    ∃ final, transportSystem.Leads before final ∧
      final.server = (handled.readClient socket rehash ending chunks).1.server ∧
      (final.uplink socket).dropped =
        !(handled.readClient socket rehash ending chunks).2.result := by
  induction chunks generalizing after handled held with
  | nil =>
    obtain ⟨leads, same, holds, usable⟩ := reads
    cases ending with
    | wouldBlock => exact ⟨after, leads, same, usable⟩
    | closed | failed =>
      have allowed : after.Allowed (.receiveFails socket) :=
        ⟨same ▸ mem_of_holds holds, usable, by rwa [same, holds.receiveBuffer]⟩
      refine ⟨after.next (.receiveFails socket), leads.trans (leads_next allowed), same, ?_⟩
      simp [Transport.next, Transport.setUplink, Transport.uplink, Handled.readClient,
        Ending.outcome, Outcome.result]
  | cons chunk rest inductionHypothesis =>
    obtain ⟨tail, text⟩ := front
    have text : (after.uplink socket).inFlight = chunk.data ++ (received rest ++ tail) := by
      rw [← text]
      simp [received]
    obtain ⟨arrived, leads, same, inFlight, dropped⟩ := reads.receive plain text
    rw [Handled.readClient, reads.holds.receiveBuffer]
    by_cases long : maxMessageSize < (held ++ chunk.data).length
    · simp only [if_pos long]
      exact ⟨arrived, leads, same, by rw [dropped]; simpa [Outcome.result] using long⟩
    · simp only [if_neg long]
      have reading : Reads before arrived socket
          (⟨handled.server.store socket (held ++ chunk.data), handled.messages⟩ : Handled).server
          (held ++ chunk.data) :=
        ⟨leads, same, reads.holds.store _, by rw [dropped]; simpa using long⟩
      obtain ⟨drained, next, still⟩ := reading.drain rehash
      refine inductionHypothesis next (notMem_cut_open _) ⟨tail, ?_⟩
      rw [still, inFlight]

end Transport

end RemoteControl.SignalingServer

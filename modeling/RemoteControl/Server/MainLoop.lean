/-
This file models the body of the main loop: accept, one read or write for every
client that `select` reported, and the disconnects that were put off to the end
of the round. A round is shown to be a run of the system, so every invariant of
the runs holds between rounds, and inside one.
-/

import RemoteControl.Server.Inbound

namespace RemoteControl.SignalingServer

open Lines

/-! ### One round -/

/-- What `select` reported for a client, with what its socket answers. -/
structure Ready where
  readable : Option (Rehash ByteString Socket × List Chunk × Ending) := none
  writable : Option (List SendResult) := none

/-- `ReadClient` for a readable client; true for one that is not. -/
def Server.readReady (server : Server) (socket : Socket) (ready : Ready) : Server × Bool :=
  match ready.readable with
  | none => (server, true)
  | some (rehash, chunks, ending) =>
    let (handled, outcome) := Handled.readClient socket rehash ending chunks ⟨server, []⟩
    (handled.server, outcome.result)

/-- `WriteClient` for a writable client; true for one that is not. -/
def Server.writeReady (server : Server) (socket : Socket) (ready : Ready) : Server × Bool :=
  match ready.writable, server.clients.lookup socket with
  | some results, some client =>
    (server.next (.write socket results), (client.writeClient results).2.2)
  | _, _ => (server, true)

/-- One client's turn: the server, and the sockets to disconnect. A client whose read fails is
not written. -/
def Server.turn (ready : Socket → Ready) (state : Server × List Socket) (socket : Socket) :
    Server × List Socket :=
  let (read, alive) := state.1.readReady socket (ready socket)
  if alive then
    let (written, alive) := read.writeReady socket (ready socket)
    (written, if alive then state.2 else state.2 ++ [socket])
  else (read, state.2 ++ [socket])

/-- The body of the main loop. `g_clients` is iterated in its order after the accepts; nothing
inside the iteration inserts or erases. -/
def Server.round (server : Server) (accepted : List Accepted) (ready : Socket → Ready) : Server :=
  let opened := server.acceptClients accepted
  let (served, disconnected) := opened.clients.keys.foldl (Server.turn ready) (opened, [])
  disconnected.foldl Server.disconnectClient served

/-! ### A round is a run -/

theorem next_leads {server : Server} (action : Action) (allowed : server.allowed action) :
    system.Leads server (server.next action) := .single allowed

theorem store_leads (server : Server) (socket : Socket) (buffer : ByteString) :
    system.Leads server (server.store socket buffer) :=
  next_leads (.receive socket buffer) trivial

theorem routeMessage_leads (server : Server) (rehash : Rehash ByteString Socket) (sender : Socket)
    (json : ByteString) : system.Leads server (server.routeMessage rehash sender json) :=
  next_leads (.route sender json rehash) trivial

theorem take_leads (handled : Handled) (socket : Socket) (rehash : Rehash ByteString Socket)
    (line rest : ByteString) :
    system.Leads handled.server (handled.take socket rehash line rest).server := by
  have stored := store_leads handled.server socket rest
  rw [Handled.take]
  split
  · exact stored
  · exact stored.trans (routeMessage_leads _ _ _ _)

theorem drain_leads (handled : Handled) (socket : Socket) (rehash : Rehash ByteString Socket)
    (buffer : ByteString) :
    system.Leads handled.server
      (drain newline (Handled.take socket rehash) handled buffer).1.server :=
  (@drain_rule _ _ newline _ (Handled.take socket rehash)
    (fun state _ _ => system.Leads handled.server state.server)
    (fun state _ line rest _ before => before.trans (take_leads state socket rehash line rest))
    handled [] buffer (.refl _)).2

/-- Reading a client is a run: its buffer changes and its lines are routed. -/
theorem readClient_leads (socket : Socket) (rehash : Rehash ByteString Socket) (ending : Ending)
    (chunks : List Chunk) (handled : Handled) :
    system.Leads handled.server (handled.readClient socket rehash ending chunks).1.server := by
  induction chunks generalizing handled with
  | nil => exact .refl _
  | cons chunk rest inductionHypothesis =>
    have stored := store_leads handled.server socket
      (handled.server.receiveBuffer socket ++ chunk.data)
    rw [Handled.readClient]
    split
    · exact stored
    · exact (stored.trans (drain_leads ⟨_, handled.messages⟩ _ _ _)).trans (inductionHypothesis _)

theorem turn_leads (ready : Socket → Ready) (state : Server × List Socket) (socket : Socket) :
    system.Leads state.1 (Server.turn ready state socket).1 := by
  have read : system.Leads state.1 (state.1.readReady socket (ready socket)).1 := by
    rw [Server.readReady]
    split
    · exact .refl _
    · exact readClient_leads _ _ _ _ ⟨state.1, []⟩
  have written (server : Server) :
      system.Leads server (server.writeReady socket (ready socket)).1 := by
    rw [Server.writeReady]
    split
    · exact next_leads (.write socket _) trivial
    · exact .refl _
  rw [Server.turn]
  simp only
  split
  · exact read.trans (written _)
  · exact read

/-- Every connection `accept` returns has a socket that is not open at that moment. -/
def Server.Fresh : Server → List Accepted → Prop
  | _, [] => True
  | server, accepted :: rest =>
    accepted.socket ∉ server.clients ∧ (server.acceptClient accepted).Fresh rest

theorem acceptClients_leads {server : Server} {accepted : List Accepted}
    (fresh : server.Fresh accepted) : system.Leads server (server.acceptClients accepted) := by
  induction accepted generalizing server with
  | nil => exact .refl _
  | cons first rest inductionHypothesis =>
    have opened : system.Leads server (server.acceptClient first) :=
      next_leads (.accept first) fresh.1
    exact opened.trans (inductionHypothesis fresh.2)

/-- What every element of a fold keeps leading on to. -/
theorem foldl_leads {α β : Type*} (view : β → Server) (turn : β → α → β)
    (leads : ∀ state element, system.Leads (view state) (view (turn state element)))
    (elements : List α) (state : β) :
    system.Leads (view state) (view (elements.foldl turn state)) := by
  induction elements generalizing state with
  | nil => exact .refl _
  | cons element rest inductionHypothesis =>
    exact (leads state element).trans (inductionHypothesis _)

/-- A round of the main loop is a run of the system. -/
theorem round_leads {server : Server} {accepted : List Accepted} (fresh : server.Fresh accepted)
    (ready : Socket → Ready) : system.Leads server (server.round accepted ready) := by
  have served (opened : Server) : system.Leads opened
      (opened.clients.keys.foldl (Server.turn ready) (opened, [])).1 :=
    foldl_leads Prod.fst _ (turn_leads ready) _ (opened, [])
  have disconnected (server : Server) (sockets : List Socket) :
      system.Leads server (sockets.foldl Server.disconnectClient server) :=
    foldl_leads id _ (fun server socket =>
      next_leads (.disconnect socket) trivial) sockets server
  exact ((acceptClients_leads fresh).trans (served _)).trans (disconnected _ _)

/-- The states between rounds are states of the system. -/
theorem reachable_round {server : Server} (reachable : system.Reachable server)
    {accepted : List Accepted} (fresh : server.Fresh accepted) (ready : Socket → Ready) :
    system.Reachable (server.round accepted ready) := reachable.leads (round_leads fresh ready)

end RemoteControl.SignalingServer

/-
This file models `ReadClient` with its two nested loops and proves that the
messages it hands to `RouteMessage` do not depend on how TCP split the stream.

The reference is one cut of the whole stream at its newlines. A call appends one
chunk after another to what the client's buffer holds, checks the size, and
drains the complete lines; between two calls the server does anything it likes
to other clients and to this client's queue. The messages are compared with the
reference over a whole connection, from `accept` to the first call that fails.
-/

import RemoteControl.Server.Queues

namespace RemoteControl.SignalingServer

open Lines

/-! ### ReadClient -/

/-- What one successful `recv` returns: between one byte and the size of the buffer. -/
structure Chunk where
  data : ByteString
  nonempty : data ≠ []
  short : data.length ≤ readChunkSize

/-- How the reads of one call end: `recv` returns zero, would block, or fails. -/
inductive Ending where
  | closed
  | wouldBlock
  | failed

/-- Why a call returns. -/
inductive Outcome where
  /-- `recv` would block; the call returns true. -/
  | alive
  /-- The peer closed the connection or `recv` failed. -/
  | lost
  /-- The buffer exceeded `kMaxMessageSize`. -/
  | oversized
  deriving DecidableEq

def Ending.outcome : Ending → Outcome
  | .wouldBlock => .alive
  | _ => .lost

/-- The value `ReadClient` returns. -/
def Outcome.result : Outcome → Bool
  | .alive => true
  | _ => false

/-- One trailing carriage return is removed. -/
def stripReturn (message : ByteString) : ByteString :=
  if message.getLast? = some carriageReturn then message.dropLast else message

/-- What a client's `receive_buffer` holds. -/
def Server.receiveBuffer (server : Server) (socket : Socket) : ByteString :=
  ((server.clients.lookup socket).map Client.receiveBuffer).getD []

/-- Write a client's `receive_buffer`. -/
def Server.store (server : Server) (socket : Socket) (buffer : ByteString) : Server :=
  server.next (.receive socket buffer)

/-- A server and the messages it has handed to `RouteMessage` for one client. -/
structure Handled where
  server : Server
  messages : List ByteString

/-- The body of the inner loop: the line leaves the buffer, loses a carriage return, and is
routed unless it is empty. -/
def Handled.take (socket : Socket) (rehash : Rehash ByteString Socket) (handled : Handled)
    (line rest : ByteString) : Handled :=
  let stored := handled.server.store socket rest
  let message := stripReturn line
  if message = [] then ⟨stored, handled.messages⟩
  else ⟨stored.routeMessage rehash socket message, handled.messages ++ [message]⟩

/-- `ReadClient`, for the chunks `recv` returns and the way they end. -/
def Handled.readClient (socket : Socket) (rehash : Rehash ByteString Socket) (ending : Ending) :
    List Chunk → Handled → Handled × Outcome
  | [], handled => (handled, ending.outcome)
  | chunk :: rest, handled =>
    let buffer := handled.server.receiveBuffer socket ++ chunk.data
    let appended : Handled := ⟨handled.server.store socket buffer, handled.messages⟩
    if maxMessageSize < buffer.length then (appended, .oversized)
    else
      Handled.readClient socket rehash ending rest
        (drain newline (Handled.take socket rehash) appended buffer).1

/-! ### A connection -/

/-- What happens while a client is connected: it is read, or the main loop does something else. -/
inductive Event where
  | read (rehash : Rehash ByteString Socket) (chunks : List Chunk) (ending : Ending)
  | other (action : Action)

/-- The action neither reads from the client nor routes its lines nor disconnects it. -/
def Action.Spares (socket : Socket) : Action → Prop
  | .receive other _ => other ≠ socket
  | .route other _ _ => other ≠ socket
  | .disconnect other => other ≠ socket
  | _ => True

/-- Whatever the main loop does between two reads of a client leaves the client connected. -/
def Event.Spares (socket : Socket) : Event → Prop
  | .read _ _ _ => True
  | .other action => action.Spares socket

/-- The events of a connection, up to the first read that fails. -/
def Handled.serve (socket : Socket) : List Event → Handled → Handled × Outcome
  | [], handled => (handled, .alive)
  | .other action :: rest, handled =>
    Handled.serve socket rest ⟨handled.server.next action, handled.messages⟩
  | .read rehash chunks ending :: rest, handled =>
    match handled.readClient socket rehash ending chunks with
    | (read, .alive) => Handled.serve socket rest read
    | (read, outcome) => (read, outcome)

def received (chunks : List Chunk) : ByteString := chunks.flatMap Chunk.data

def Event.data : Event → ByteString
  | .read _ chunks _ => received chunks
  | .other _ => []

/-- The bytes that arrive on a connection. -/
def stream (events : List Event) : ByteString := events.flatMap Event.data

/-- The messages in complete lines: a carriage return less, and no empty ones. -/
def contents (lines : List ByteString) : List ByteString :=
  (lines.map stripReturn).filter (· ≠ [])

theorem contents_append (first second : List ByteString) :
    contents (first ++ second) = contents first ++ contents second := by
  rw [contents, List.map_append, List.filter_append, contents, contents]

/-! ### What an action leaves alone -/

theorem unmoved_receiveBuffer : Unmoved (fun _ => True) Client.receiveBuffer where
  queued client outgoing _ := by
    rw [Client.queueLine]
    split <;> rfl
  enrolled _ _ := rfl

/-- An action that spares a client leaves its `receive_buffer` as it was. -/
theorem Server.receiveBuffer_next (server : Server) {socket : Socket}
    (present : (server.clients.lookup socket).isSome) {action : Action}
    (spares : action.Spares socket) :
    (server.next action).observed Client.receiveBuffer socket =
      server.observed Client.receiveBuffer socket := by
  refine unmoved_receiveBuffer.next (fun _ _ => trivial) present (server.relays_any action) ?_ ?_ ?_
  · rintro buffer rfl
    exact absurd rfl spares
  · rintro results rfl client
    obtain ⟨buffer, written, -⟩ := client.writeClient_spec results
    rw [written]
  · rintro rfl
    exact absurd rfl spares

/-! ### The loops -/

/-- The client on the socket is connected and its buffer holds the given bytes. -/
def Server.Holds (server : Server) (socket : Socket) (buffer : ByteString) : Prop :=
  server.observed Client.receiveBuffer socket = some buffer

theorem Server.Holds.receiveBuffer {server : Server} {socket : Socket} {buffer : ByteString}
    (holds : server.Holds socket buffer) : server.receiveBuffer socket = buffer := by
  rw [Server.receiveBuffer, ← Server.observed, holds, Option.getD_some]

theorem Server.Holds.store {server : Server} {socket : Socket} {buffer : ByteString}
    (holds : server.Holds socket buffer) (next : ByteString) :
    (server.store socket next).Holds socket next := by
  obtain ⟨client, present, -⟩ := Option.map_eq_some_iff.mp holds
  show Option.map Client.receiveBuffer (AList.lookup socket (Table.modify socket _ _)) = some next
  rw [Table.lookup_modify_self, present]
  rfl

theorem Server.Holds.next {server : Server} {socket : Socket} {buffer : ByteString}
    (holds : server.Holds socket buffer) {action : Action} (spares : action.Spares socket) :
    (server.next action).Holds socket buffer := by
  obtain ⟨client, present, -⟩ := Option.map_eq_some_iff.mp holds
  rw [Server.Holds, server.receiveBuffer_next (by rw [present]; rfl) spares]
  exact holds

/-- One turn of the inner loop. -/
theorem Handled.take_spec {socket : Socket} {handled : Handled} {buffer : ByteString}
    (rehash : Rehash ByteString Socket) (holds : handled.server.Holds socket buffer)
    (line rest : ByteString) :
    (handled.take socket rehash line rest).server.Holds socket rest ∧
      (handled.take socket rehash line rest).messages = handled.messages ++ contents [line] := by
  have stored := holds.store rest
  rw [Handled.take]
  by_cases empty : stripReturn line = []
  · have nothing : contents [line] = [] := by simp [contents, empty]
    rw [if_pos empty, nothing, List.append_nil]
    exact ⟨stored, rfl⟩
  · have message : contents [line] = [stripReturn line] := by simp [contents, empty]
    rw [if_neg empty, message]
    have routed := unmoved_receiveBuffer.routeMessage (fun _ _ => trivial)
      (handled.server.store socket rest) rehash socket
      (Server.relays_any _ (.route socket (stripReturn line) rehash)) socket
    exact ⟨routed.trans stored, rfl⟩

/-- The inner loop hands over the complete lines and leaves the open rest. -/
theorem Handled.drain_spec {socket : Socket} (handled : Handled) {buffer : ByteString}
    (holds : handled.server.Holds socket buffer) (rehash : Rehash ByteString Socket) :
    (drain newline (Handled.take socket rehash) handled buffer).1.server.Holds socket
        (cut newline buffer).2 ∧
      (drain newline (Handled.take socket rehash) handled buffer).1.messages =
        handled.messages ++ contents (cut newline buffer).1 := by
  have turn (state : Handled) (done : List ByteString) (line rest : ByteString)
      (_ : newline ∉ line) (before : state.server.Holds socket (line ++ newline :: rest) ∧
        state.messages = handled.messages ++ contents done) :
      (state.take socket rehash line rest).server.Holds socket rest ∧
        (state.take socket rehash line rest).messages =
          handled.messages ++ contents (done ++ [line]) := by
    obtain ⟨left, added⟩ := Handled.take_spec rehash before.1 line rest
    refine ⟨left, ?_⟩
    rw [added, before.2, contents_append, List.append_assoc]
  exact (@drain_rule _ _ newline _ (Handled.take socket rehash)
    (fun state done rest => state.server.Holds socket rest ∧
      state.messages = handled.messages ++ contents done) turn handled [] buffer
    ⟨holds, (List.append_nil _).symm⟩).2

/-! ### The whole stream -/

/-- The limit below which a line is never too long, wherever the chunks end. -/
def safeLineSize : Nat := maxMessageSize - readChunkSize

/-- Every line of the text is below the limit, its newline included. -/
def Short (text : ByteString) : Prop :=
  (∀ line ∈ (cut newline text).1, line.length + 1 ≤ safeLineSize) ∧
    (cut newline text).2.length ≤ safeLineSize

/-- A text without newlines is no longer than the line it begins. -/
theorem Short.held {held text : ByteString} (missing : newline ∉ held)
    (short : Short (held ++ text)) : held.length ≤ safeLineSize := by
  obtain ⟨line, front, member | same⟩ := held_prefix missing text
  · exact front.length_le.trans ((Nat.le_succ _).trans (short.1 line member))
  · exact front.length_le.trans (same ▸ short.2)

theorem Short.left {first second : ByteString} (short : Short (first ++ second)) : Short first := by
  rw [Short, cut_append] at short
  refine ⟨fun line member => short.1 line (List.mem_append_left _ member), ?_⟩
  exact Short.held (notMem_cut_open first)
    ⟨fun line member => short.1 line (List.mem_append_right _ member), short.2⟩

theorem Short.right {first second : ByteString} (short : Short (first ++ second)) :
    Short ((cut newline first).2 ++ second) := by
  rw [Short, cut_append] at short
  exact ⟨fun line member => short.1 line (List.mem_append_right _ member), short.2⟩

/-- What reading a text did: the messages come from lines at its front that are not too long,
from all of its complete lines if the connection is still alive, and the connection is not
dropped for the size of short lines. -/
structure Framed (socket : Socket) (text : ByteString) (before : List ByteString)
    (result : Handled × Outcome) : Prop where
  front : ∃ lines, lines <+: (cut newline text).1 ∧
    result.1.messages = before ++ contents lines ∧
    (∀ line ∈ lines, line.length ≤ maxMessageSize) ∧
    (result.2 = .alive → lines = (cut newline text).1)
  rest : result.2 = .alive → result.1.server.Holds socket (cut newline text).2 ∧
    (cut newline text).2.length ≤ maxMessageSize
  fits : Short text → result.2 ≠ .oversized

/-- Nothing has been read yet. -/
theorem Framed.nothing {socket : Socket} {held : ByteString} (missing : newline ∉ held)
    {handled : Handled} {outcome : Outcome} (holds : handled.server.Holds socket held)
    (bounded : held.length ≤ maxMessageSize) (fits : outcome ≠ .oversized) :
    Framed socket held handled.messages (handled, outcome) := by
  have uncut := cut_of_notMem missing
  refine ⟨⟨[], List.nil_prefix, (List.append_nil _).symm, ?_, ?_⟩, ?_, fun _ => fits⟩
  · exact fun line member => absurd member List.not_mem_nil
  · rw [uncut]
    exact fun _ => rfl
  · rw [uncut]
    exact fun _ => ⟨holds, bounded⟩

/-- Reading goes on where it stopped. -/
theorem Framed.append {socket : Socket} {first second : ByteString} {before : List ByteString}
    {middle : Handled} {result : Handled × Outcome}
    (head : Framed socket first before (middle, .alive))
    (tail : Framed socket ((cut newline first).2 ++ second) middle.messages result) :
    Framed socket (first ++ second) before result := by
  obtain ⟨lines, -, messages, small, whole⟩ := head.front
  obtain ⟨more, front, added, alsoSmall, alsoWhole⟩ := tail.front
  have all : lines = (cut newline first).1 := whole rfl
  rw [all] at messages small
  refine ⟨⟨(cut newline first).1 ++ more, ?_, ?_, ?_, ?_⟩, ?_, fun short => tail.fits short.right⟩
  · rw [cut_append]
    exact (List.prefix_append_right_inj _).mpr front
  · rw [added, messages, contents_append, List.append_assoc]
  · intro line member
    exact (List.mem_append.mp member).elim (small line) (alsoSmall line)
  · intro alive
    rw [cut_append, alsoWhole alive]
  · intro alive
    rw [cut_append]
    exact tail.rest alive

/-- Once the connection is dropped the rest of the stream is not read. -/
theorem Framed.dropped {socket : Socket} {text : ByteString} {before : List ByteString}
    {result : Handled × Outcome} (framed : Framed socket text before result)
    (dropped : result.2 ≠ .alive) (more : ByteString) :
    Framed socket (text ++ more) before result := by
  obtain ⟨lines, front, messages, small, -⟩ := framed.front
  refine ⟨⟨lines, ?_, messages, small, fun alive => absurd alive dropped⟩,
    fun alive => absurd alive dropped, fun short => framed.fits short.left⟩
  rw [cut_append]
  exact front.trans (List.prefix_append _ _)

/-- One call of `ReadClient`. -/
theorem Handled.readClient_framed {socket : Socket} (rehash : Rehash ByteString Socket)
    (ending : Ending) (chunks : List Chunk) {handled : Handled} {held : ByteString}
    (holds : handled.server.Holds socket held) (missing : newline ∉ held)
    (bounded : held.length ≤ maxMessageSize) :
    Framed socket (held ++ received chunks) handled.messages
      (handled.readClient socket rehash ending chunks) := by
  induction chunks generalizing handled held with
  | nil =>
    rw [received, List.flatMap_nil, List.append_nil]
    exact Framed.nothing missing holds bounded (by cases ending <;> decide)
  | cons chunk rest inductionHypothesis =>
    have stored := holds.store (held ++ chunk.data)
    rw [Handled.readClient, holds.receiveBuffer, received, List.flatMap_cons, ← received,
      ← List.append_assoc]
    split
    · rename_i large
      have refused : Framed socket (held ++ chunk.data) handled.messages
          (⟨handled.server.store socket (held ++ chunk.data), handled.messages⟩, .oversized) := by
        refine ⟨⟨[], List.nil_prefix, (List.append_nil _).symm, ?_, nofun⟩, nofun,
          fun short _ => ?_⟩
        · exact fun line member => absurd member List.not_mem_nil
        · have heldShort := Short.held missing short
          have chunkShort := chunk.short
          have room : readChunkSize ≤ maxMessageSize := by decide
          rw [List.length_append] at large
          unfold safeLineSize at heldShort
          omega
      exact refused.dropped nofun _
    · rename_i small
      rw [not_lt] at small
      obtain ⟨left, messages⟩ := Handled.drain_spec ⟨_, handled.messages⟩ stored rehash
      have open_ : (cut newline (held ++ chunk.data)).2.length ≤ maxMessageSize :=
        (length_cut_open_le _).trans small
      refine Framed.append ⟨⟨_, List.prefix_refl _, messages, fun line member => ?_, fun _ => rfl⟩,
        fun _ => ⟨left, open_⟩, fun _ => nofun⟩
        (inductionHypothesis left (notMem_cut_open _) open_)
      exact (length_lt_of_mem_cut member).le.trans small

/-- A connection, from a buffer that holds no newline to the first read that fails. -/
theorem Handled.serve_framed {socket : Socket} {events : List Event}
    (spares : ∀ event ∈ events, event.Spares socket) {handled : Handled} {held : ByteString}
    (holds : handled.server.Holds socket held) (missing : newline ∉ held)
    (bounded : held.length ≤ maxMessageSize) :
    Framed socket (held ++ stream events) handled.messages (handled.serve socket events) := by
  induction events generalizing handled held with
  | nil =>
    rw [stream, List.flatMap_nil, List.append_nil]
    exact Framed.nothing missing holds bounded (by decide)
  | cons event rest inductionHypothesis =>
    have later : ∀ event ∈ rest, event.Spares socket :=
      fun event member => spares event (List.mem_cons_of_mem _ member)
    cases event with
    | other action =>
      have kept := holds.next (spares (.other action) List.mem_cons_self)
      have after := @inductionHypothesis later ⟨_, handled.messages⟩ _ kept missing bounded
      exact after
    | read rehash chunks ending =>
      have framed := Handled.readClient_framed rehash ending chunks holds missing bounded
      rw [Handled.serve, stream, List.flatMap_cons, ← stream, ← List.append_assoc]
      cases reading : handled.readClient socket rehash ending chunks with
      | mk read outcome =>
        rw [reading] at framed
        cases outcome with
        | alive =>
          obtain ⟨left, small⟩ := framed.rest rfl
          exact framed.append (inductionHypothesis later left (notMem_cut_open _) small)
        | lost => exact framed.dropped nofun _
        | oversized => exact framed.dropped nofun _

/-- However the stream of a connection is divided into `recv` results and calls of `ReadClient`,
and whatever the server does in between: the messages handed to `RouteMessage` are those of
the lines at the front of the stream, none of them too long; they are those of all complete
lines while the connection is alive, and the buffer then holds the open rest; and a stream of
short lines is never dropped for its size. -/
theorem inbound_framing {server : Server} {socket : Socket} {client : Client}
    (present : server.clients.lookup socket = some client) (fresh : client.receiveBuffer = [])
    {events : List Event} (spares : ∀ event ∈ events, event.Spares socket) {after : Handled}
    {outcome : Outcome} (served : Handled.serve socket events ⟨server, []⟩ = (after, outcome)) :
    (∃ lines, lines <+: (cut newline (stream events)).1 ∧ after.messages = contents lines ∧
      (∀ line ∈ lines, line.length ≤ maxMessageSize) ∧
      (outcome.result = true → lines = (cut newline (stream events)).1)) ∧
    (outcome.result = true →
      ∃ client, after.server.clients.lookup socket = some client ∧
        client.receiveBuffer = (cut newline (stream events)).2 ∧
        client.receiveBuffer.length ≤ maxMessageSize ∧ newline ∉ client.receiveBuffer) ∧
    ((∀ line ∈ (cut newline (stream events)).1,
        line.length + 1 ≤ maxMessageSize - readChunkSize) →
      (cut newline (stream events)).2.length ≤ maxMessageSize - readChunkSize →
      outcome ≠ .oversized) := by
  have holds : server.Holds socket [] := by
    rw [Server.Holds, Server.observed, present, Option.map_some, fresh]
  have framed := @Handled.serve_framed socket events spares ⟨server, []⟩ [] holds
    List.not_mem_nil (Nat.zero_le _)
  rw [List.nil_append, served] at framed
  have alive (result : outcome.result = true) : outcome = .alive := by
    cases outcome with
    | alive => rfl
    | lost => cases result
    | oversized => cases result
  obtain ⟨lines, front, messages, small, whole⟩ := framed.front
  refine ⟨⟨lines, front, messages, small, fun result => whole (alive result)⟩, fun result => ?_,
    fun short openShort => framed.fits ⟨short, openShort⟩⟩
  obtain ⟨left, bounded⟩ := framed.rest (alive result)
  obtain ⟨after, there, same⟩ := Option.map_eq_some_iff.mp left
  exact ⟨after, there, same, same ▸ bounded, same ▸ notMem_cut_open _⟩

/-- A heartbeat that arrives in two calls, the second of which also brings an empty line. -/
def splitPing : List Event :=
  [.read .keep [⟨bytes "\x7b\"type\":", by decide, by decide⟩] .wouldBlock,
    .other (.accept ⟨2, true, .keep⟩),
    .read .keep [⟨bytes "\"ping\"\x7d", by decide, by decide⟩,
      ⟨[carriageReturn, newline, newline], by decide, by decide⟩] .wouldBlock]

theorem inbound_framing_splitPing :
    (Handled.serve 1 splitPing ⟨system.run {} [.accept ⟨1, true, .keep⟩], []⟩).1.messages =
      [bytes "\x7b\"type\":\"ping\"\x7d"] := by
  have present : (system.run {} [.accept ⟨1, true, .keep⟩]).clients.lookup 1 =
      some { socket := 1 } := rfl
  have spares : ∀ event ∈ splitPing, event.Spares 1 := by
    simp [splitPing, Event.Spares, Action.Spares]
  obtain ⟨⟨lines, -, messages, -, whole⟩, -, -⟩ :=
    inbound_framing present rfl spares Prod.mk.eta.symm
  rw [messages, whole (by decide)]
  decide

end RemoteControl.SignalingServer

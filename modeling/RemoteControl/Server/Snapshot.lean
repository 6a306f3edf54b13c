/-
This file asks whether the client reads back the users a snapshot lists. It reads
a value behind every occurrence of the quoted name, and a user may be called like
the name: behind that user's value it reads the next user once more. The list
comes back as it is exactly when no such user is followed by another.
-/

import RemoteControl.Server.Insertion
import RemoteControl.Signaling.Presence

namespace RemoteControl.SignalingServer

open ListSearch Quoted SignalingProtocol

/-! ### The text of a snapshot -/

/-- The text behind the name of an entry. -/
def entryBehind (userId more : ByteString) : ByteString :=
  colon :: quote :: (userId ++ quote :: closeBrace :: more)

/-- The text behind the closing brace of an entry, with the entries that follow. -/
def entriesBehind : List ByteString → ByteString
  | [] => bytes "]\x7d"
  | next :: rest => [comma, openBrace] ++ userIdKey ++ entryBehind next (entriesBehind rest)

/-- The front of a snapshot. -/
def snapshotFront : ByteString := bytes "\x7b\"type\":\"presence.snapshot\",\"users\":["

/-- The entry of a registrable user. -/
theorem entry_append {userId : ByteString} (registrable : Registrable userId)
    (more : ByteString) :
    bytes "\x7b\"userId\":\"" ++ escapeJson userId ++ bytes "\"\x7d" ++ more =
      openBrace :: (userIdKey ++ entryBehind userId more) := by
  have opening : bytes "\x7b\"userId\":\"" = openBrace :: (userIdKey ++ [colon, quote]) := by decide
  have closing : bytes "\"\x7d" = [quote, closeBrace] := by decide
  rw [escapeJson_of_registrable registrable, opening, closing, entryBehind]
  simp only [List.cons_append, List.append_assoc, List.nil_append]

/-- The text of a snapshot of registrable users, entry by entry. -/
theorem snapshotLine_cons {first : ByteString} {rest : List ByteString}
    (registrable : ∀ userId ∈ first :: rest, Registrable userId) :
    snapshotLine (first :: rest) =
      snapshotFront ++ openBrace :: (userIdKey ++ entryBehind first (entriesBehind rest)) := by
  rw [snapshotLine, List.append_assoc, ← snapshotFront]
  refine congrArg (snapshotFront ++ ·) ?_
  induction rest generalizing first with
  | nil =>
    rw [List.map_singleton, List.intercalate_singleton]
    exact entry_append (registrable first List.mem_cons_self) _
  | cons next rest ih =>
    have later := ih fun userId among => registrable userId (List.mem_cons_of_mem first among)
    rw [List.map_cons] at later
    rw [List.map_cons, List.map_cons, List.intercalate_cons_cons, List.append_assoc, later,
      List.append_assoc, entry_append (registrable first List.mem_cons_self), entriesBehind]
    rfl

/-! ### Reading behind one entry -/

/-- What the client reads of a list of users. -/
def readIds : List ByteString → List ByteString
  | [] => []
  | userId :: rest =>
    userId :: ((if userId = bytes "userId" then rest.head?.toList else []) ++ readIds rest)

section

variable {userId : ByteString} {rest : List ByteString}

/-- The value behind an entry's name is the entry's user. -/
theorem valueBehind_entryBehind (registrable : Registrable userId) {before : ByteString}
    (missing : colon ∉ before) (more : ByteString) :
    valueBehind (before ++ entryBehind userId more) = userId := by
  rw [valueBehind, valueText_append _ missing, entryBehind, valueText_colon _ (by decide),
    Option.bind_some, openString, if_pos rfl, Option.bind_some,
    clientReader_read_sender registrable]
  rfl

/-- Behind a user that is called like the name, the client reads the next user. -/
theorem valueBehind_closeBrace (registrable : ∀ userId ∈ rest, Registrable userId) :
    valueBehind (closeBrace :: entriesBehind rest) = rest.head?.getD [] := by
  cases rest with
  | nil => decide
  | cons next rest =>
    have missing : colon ∉ closeBrace :: ([comma, openBrace] ++ userIdKey) := by decide
    exact valueBehind_entryBehind (registrable next List.mem_cons_self) missing _

theorem idsBehind_congr {text text' : ByteString}
    (same : afterFirst userIdKey text = afterFirst userIdKey text') (rounds : Nat) :
    idsBehind rounds text = idsBehind rounds text' := by
  cases rounds with
  | zero => rfl
  | succ rounds => rw [idsBehind, idsBehind, same]

theorem afterFirst_closeBrace (more : ByteString) :
    afterFirst userIdKey (closeBrace :: more) = afterFirst userIdKey more := by
  have missing : quote ∉ [closeBrace] := by decide
  exact afterFirst_key_skip more missing

/-- A name occurs in an entry only as its user. -/
theorem afterFirst_entryBehind (registrable : Registrable userId) (more : ByteString) :
    afterFirst userIdKey (entryBehind userId more) =
      if userId = bytes "userId" then some (closeBrace :: more)
      else afterFirst userIdKey more := by
  have front : afterFirst userIdKey (entryBehind userId more) =
      afterFirst userIdKey (quote :: (userId ++ quote :: closeBrace :: more)) := by
    have missing : quote ∉ [colon] := by decide
    exact afterFirst_key_skip _ missing
  have closing :
      afterFirst userIdKey (quote :: closeBrace :: more) = afterFirst userIdKey more := by
    have absent : ¬ userIdKey <+: quote :: closeBrace :: more := fun occurs =>
      absurd (List.cons_prefix_cons.mp (List.cons_prefix_cons.mp occurs).2).1 (by decide)
    rw [afterFirst_cons_of_absent absent, afterFirst_closeBrace]
  rw [front, userIdKey, afterFirst_key_piece _ (by decide) registrable.quote_notMem, ← userIdKey,
    closing]

/-- One round reads an entry's user behind its name. -/
theorem idsBehind_entry (registrable : Registrable userId) {gap : ByteString}
    (missing : quote ∉ gap) (rounds : Nat) (more : ByteString) :
    idsBehind (rounds + 1) (gap ++ (userIdKey ++ entryBehind userId more)) =
      userId :: idsBehind rounds (entryBehind userId more) := by
  have found : afterFirst userIdKey (gap ++ (userIdKey ++ entryBehind userId more)) =
      some (entryBehind userId more) := by
    have occurs : userIdKey <+: userIdKey ++ entryBehind userId more := List.prefix_append _ _
    rw [userIdKey, afterFirst_key_skip _ missing, ← userIdKey]
    exact afterFirst_cons_of_occurs occurs
  have value : valueBehind (entryBehind userId more) = userId :=
    valueBehind_entryBehind registrable List.not_mem_nil more
  rw [idsBehind, found]
  simp only
  rw [value, if_neg registrable.1]
  rfl

/-- The next round reads the following user once more, or goes on to the next entry. -/
theorem idsBehind_entryBehind (registrable : Registrable userId)
    (others : ∀ userId ∈ rest, Registrable userId) (rounds : Nat) :
    idsBehind (rounds + 1) (entryBehind userId (entriesBehind rest)) =
      if userId = bytes "userId" then
        rest.head?.toList ++ idsBehind rounds (entriesBehind rest)
      else idsBehind (rounds + 1) (entriesBehind rest) := by
  split
  · rename_i named
    rw [idsBehind, afterFirst_entryBehind registrable, if_pos named]
    simp only
    rw [valueBehind_closeBrace others, idsBehind_congr (afterFirst_closeBrace _)]
    cases rest with
    | nil => rfl
    | cons next rest =>
      rw [List.head?_cons, Option.getD_some, if_neg (others next List.mem_cons_self).1]
      rfl
  · rename_i other
    refine idsBehind_congr ?_ _
    rw [afterFirst_entryBehind registrable, if_neg other]

/-- The client's loop reads the users of the entries, and some of them twice. -/
theorem idsBehind_entriesBehind {users : List ByteString}
    (registrable : ∀ userId ∈ users, Registrable userId) {rounds : Nat}
    (enough : 2 * users.length < rounds) :
    idsBehind rounds (entriesBehind users) = readIds users := by
  induction users generalizing rounds with
  | nil =>
    obtain ⟨rounds, rfl⟩ := Nat.exists_eq_succ_of_ne_zero (Nat.ne_zero_of_lt enough)
    have absent : afterFirst userIdKey (entriesBehind []) = none := by decide
    rw [idsBehind, absent, readIds]
  | cons userId rest ih =>
    rw [List.length_cons] at enough
    have others := fun userId among => registrable userId (List.mem_cons_of_mem _ among)
    obtain ⟨rounds, rfl⟩ : ∃ later, rounds = later + 2 := ⟨rounds - 2, by omega⟩
    have gap : quote ∉ [comma, openBrace] := by decide
    rw [entriesBehind, List.append_assoc,
      idsBehind_entry (registrable userId List.mem_cons_self) gap,
      idsBehind_entryBehind (registrable userId List.mem_cons_self) others, readIds]
    split
    · rw [ih others (by omega)]
    · rw [ih others (by omega)]
      rfl

end

/-! ### The whole snapshot -/

theorem length_entriesBehind (users : List ByteString) :
    2 * users.length ≤ (entriesBehind users).length := by
  induction users with
  | nil => exact Nat.zero_le _
  | cons userId rest ih =>
    rw [entriesBehind, entryBehind]
    simp only [List.length_cons, List.length_append]
    omega

theorem userIds_snapshotLine {users : List ByteString}
    (registrable : ∀ userId ∈ users, Registrable userId) :
    userIds (snapshotLine users) = readIds users := by
  rw [userIds_eq]
  cases users with
  | nil => decide
  | cons first rest =>
    have missing : quote ∉ [comma, openBrace] := by decide
    have search : afterFirst userIdKey (snapshotLine (first :: rest)) =
        afterFirst userIdKey (entriesBehind (first :: rest)) := by
      rw [snapshotLine_cons registrable, entriesBehind, List.append_assoc, userIdKey,
        afterFirst_append_cons_of_none (key_ne_nil _ _) (by decide) (by decide),
        afterFirst_key_skip _ missing]
    rw [idsBehind_congr search]
    refine idsBehind_entriesBehind registrable ?_
    have longer :
        (entriesBehind (first :: rest)).length ≤ (snapshotLine (first :: rest)).length := by
      have front : 1 ≤ snapshotFront.length := by decide
      rw [snapshotLine_cons registrable, entriesBehind]
      simp only [List.length_append, List.length_cons, List.length_nil]
      omega
    have entries := length_entriesBehind (first :: rest)
    omega

/-! ### Users read twice -/

theorem length_le_readIds (users : List ByteString) : users.length ≤ (readIds users).length := by
  induction users with
  | nil => exact Nat.le_refl _
  | cons userId rest ih =>
    rw [readIds, List.length_cons, List.length_cons, List.length_append]
    omega

/-- A user that is called like the name, and followed by another, is read with it. -/
theorem length_readIds {users : List ByteString} (named : bytes "userId" ∈ users.dropLast) :
    users.length < (readIds users).length := by
  induction users with
  | nil => exact absurd named List.not_mem_nil
  | cons userId rest ih =>
    cases rest with
    | nil => exact absurd named List.not_mem_nil
    | cons next rest =>
      rw [List.dropLast_cons_cons, List.mem_cons] at named
      rw [readIds]
      simp only [List.length_cons, List.length_append] at ih ⊢
      by_cases same : userId = bytes "userId"
      · rw [if_pos same]
        have longer := length_le_readIds (next :: rest)
        rw [List.head?_cons, Option.toList_some, List.length_singleton]
        rw [List.length_cons] at longer
        omega
      · have longer := ih (named.resolve_left fun here => same here.symm)
        omega

theorem readIds_eq_self {users : List ByteString} (named : bytes "userId" ∉ users.dropLast) :
    readIds users = users := by
  induction users with
  | nil => rfl
  | cons userId rest ih =>
    cases rest with
    | nil =>
      rw [readIds, readIds, List.head?_nil]
      simp
    | cons next rest =>
      rw [List.dropLast_cons_cons, List.mem_cons, not_or] at named
      rw [readIds, if_neg fun same => named.1 same.symm, ih named.2]
      rfl

/-- The list the client reads from the snapshot for a user holds every other registered id once, and
nothing else. -/
def Server.SnapshotReadBack (server : Server) (currentUser : ByteString) : Prop :=
  ∀ userId, (userIds (server.buildPresenceSnapshot currentUser).line).count userId =
    if userId ∈ server.users ∧ userId ≠ currentUser then 1 else 0

theorem Server.count_snapshotUsers (server : Server) (currentUser userId : ByteString) :
    (server.snapshotUsers currentUser).count userId =
      if userId ∈ server.users ∧ userId ≠ currentUser then 1 else 0 := by
  have nodup : (server.snapshotUsers currentUser).Nodup := server.users.keys_nodup.filter _
  rw [nodup.count]
  refine if_congr ?_ rfl rfl
  rw [Server.snapshotUsers, List.mem_filter, decide_eq_true_eq, AList.mem_keys]

/-- Two users, the first of them called like the field name. -/
def namesakes : Server :=
  { users := ((∅ : Table ByteString Socket).insert (bytes "bob") 2).insert (bytes "userId") 1 }

/-- The client reads the second user twice. -/
theorem snapshot_read_twice :
    (∀ userId ∈ namesakes.users, Registrable userId) ∧
      ¬ namesakes.SnapshotReadBack (bytes "alice") := by
  refine ⟨?_, fun readBack => ?_⟩
  · intro userId member
    have keys : userId ∈ [bytes "userId", bytes "bob"] := AList.mem_keys.mp member
    have all : ∀ userId ∈ [bytes "userId", bytes "bob"], Registrable userId := by decide
    exact all userId keys
  · have bob := readBack (bytes "bob")
    revert bob
    decide

/-- The users a snapshot lists are read back as they are exactly when no user called like the field
name is followed by another, in the iteration order of the table. -/
theorem snapshot_read_back_iff {server : Server}
    (registrable : ∀ userId ∈ server.users, Registrable userId) (currentUser : ByteString) :
    server.SnapshotReadBack currentUser ↔
      bytes "userId" ∉ (server.snapshotUsers currentUser).dropLast := by
  have listed : ∀ userId ∈ server.snapshotUsers currentUser, Registrable userId :=
    fun userId member => registrable userId (AList.mem_keys.mpr (List.mem_filter.mp member).1)
  have read : userIds (server.buildPresenceSnapshot currentUser).line =
      readIds (server.snapshotUsers currentUser) := userIds_snapshotLine listed
  rw [Server.SnapshotReadBack, read]
  constructor
  · intro once named
    have perm : (readIds (server.snapshotUsers currentUser)).Perm
        (server.snapshotUsers currentUser) := by
      rw [List.perm_iff_count]
      intro userId
      rw [once, server.count_snapshotUsers]
    exact absurd perm.length_eq (length_readIds named).ne'
  · intro other userId
    rw [readIds_eq_self other, server.count_snapshotUsers]

/-- The same two users in the other order. -/
theorem snapshot_read_back_iff_lastNamesake :
    ({ users := ((∅ : Table ByteString Socket).insert (bytes "userId") 1).insert (bytes "bob") 2 } :
        Server).SnapshotReadBack (bytes "alice") := by
  refine (snapshot_read_back_iff ?_ (bytes "alice")).mpr (by decide)
  intro userId member
  have keys : userId ∈ [bytes "bob", bytes "userId"] := AList.mem_keys.mp member
  have all : ∀ userId ∈ [bytes "bob", bytes "userId"], Registrable userId := by decide
  exact all userId keys

end RemoteControl.SignalingServer

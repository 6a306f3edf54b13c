/-
This file models the list of online users and asks whether it follows the
presence changes the server broadcasts. The server tells ids apart by their
bytes; the list box finds an item up to letter case. The list shows exactly the
online users as long as no change is about an id that differs from another
online id in letter case only.

What Windows does is an argument that meets the documented behavior. Only ASCII
ids are considered, whose conversion to UTF-16 widens every byte.
-/

import Mathlib.Data.List.InsertIdx
import RemoteControl.Server.Insertion
import RemoteControl.Signaling.Presence

namespace RemoteControl.Peer

open Quoted SignalingServer

/-! ### The list box -/

/-- Text of Windows. -/
abbrev WideString := List UInt16

def IsAscii (text : ByteString) : Prop := ∀ byte ∈ text, byte < 0x80

instance (text : ByteString) : Decidable (IsAscii text) :=
  List.decidableBAll (fun byte => byte < 0x80) text

/-- ASCII text as UTF-16. -/
def widen (text : ByteString) : WideString := text.map UInt8.toUInt16

/-- The small letter of a capital ASCII letter. -/
def lower (unit : UInt16) : UInt16 := if 0x41 ≤ unit ∧ unit ≤ 0x5A then unit + 0x20 else unit

/-- Equal up to letter case. -/
def SameLetters (first second : WideString) : Prop := first.map lower = second.map lower

instance (first second : WideString) : Decidable (SameLetters first second) :=
  inferInstanceAs (Decidable (first.map lower = second.map lower))

/-- What Windows does for the list: `CA2W` widens ASCII text, and `FindStringExact` finds some
item that equals the text up to letter case, if there is one. -/
structure Windows where
  ca2w : ByteString → WideString
  ascii : ∀ {text}, IsAscii text → ca2w text = widen text
  findStringExact : List WideString → WideString → Option Nat
  found : ∀ {ids : List ByteString} {id : ByteString} {index : Nat}, (∀ id ∈ ids, IsAscii id) →
    IsAscii id → findStringExact (ids.map widen) (widen id) = some index →
      ∃ other, ids[index]? = some other ∧ SameLetters (widen other) (widen id)
  missing : ∀ {ids : List ByteString} {id : ByteString}, (∀ id ∈ ids, IsAscii id) → IsAscii id →
    findStringExact (ids.map widen) (widen id) = none →
      ∀ other ∈ ids, ¬ SameLetters (widen other) (widen id)

/-- The presence branches of `DispatchSignalingMessage`, on the items of the list. -/
def dispatchPresence (windows : Windows) (items : List WideString) (json : ByteString) :
    List WideString :=
  let type := SignalingProtocol.stringField json (bytes "type")
  if type = bytes "presence.snapshot" then (SignalingProtocol.userIds json).map windows.ca2w
  else if type = bytes "presence.changed" then
    let userId := SignalingProtocol.stringField json (bytes "userId")
    if userId = [] then items
    else
      let display := windows.ca2w userId
      let existing := windows.findStringExact items display
      if SignalingProtocol.boolField json (bytes "online") false then
        if existing = none then items ++ [display] else items
      else
        match existing with
        | none => items
        | some index => items.eraseIdx index
  else items

/-! ### Reading a presence change -/

theorem plain_online : PlainName (bytes "online") := by decide +kernel

/-- The flag of a presence change. -/
def onlineMember (online : Bool) : Member where
  name := bytes "online"
  value := .raw (if online then bytes "true" else bytes "false")
  plain := plain_online
  wellFormed := by cases online <;> exact ⟨by decide, _, rfl, by decide⟩

section

variable {userId : ByteString} {online : Bool}

/-- The line of a presence change is a record. -/
theorem presenceLine_eq (registrable : Registrable userId) :
    presenceLine userId online = recordLine SignalingProtocol.escapeWriter
      (stringMember (bytes "type") (bytes "presence.changed") plain_type)
      [stringMember (bytes "userId") userId plain_userId, onlineMember online] := by
  have written : SignalingProtocol.escapeWriter.write userId = userId :=
    escape_of_registrable registrable
  rw [presenceLine, escapeJson_of_registrable registrable]
  simp only [recordLine, behind, stringMember, onlineMember, Member.text, MemberValue.text, key,
    written, List.flatMap_cons, List.flatMap_nil, List.append_assoc, List.cons_append,
    List.nil_append, List.append_nil]
  cases online <;> rfl

theorem stringField_presenceLine_type (registrable : Registrable userId) :
    SignalingProtocol.stringField (presenceLine userId online) (bytes "type") =
      bytes "presence.changed" := by
  rw [presenceLine_eq registrable]
  exact SignalingProtocol.stringField_line plain_type (lookedUp_self _ _ _ _)

theorem stringField_presenceLine_userId (registrable : Registrable userId) :
    SignalingProtocol.stringField (presenceLine userId online) (bytes "userId") = userId := by
  rw [presenceLine_eq registrable]
  exact SignalingProtocol.stringField_line plain_userId (lookedUp_next _ _ _ (by decide))

/-- The flag is read as it was written, even behind an id that is called like the field. -/
theorem boolField_presenceLine (registrable : Registrable userId) :
    SignalingProtocol.boolField (presenceLine userId online) (bytes "online") false = online := by
  have found : lookedUpAt (bytes "online")
      [stringMember (bytes "type") (bytes "presence.changed") plain_type,
        stringMember (bytes "userId") userId plain_userId, onlineMember online] =
      some ((onlineMember online).value, []) := by
    have harmless : ¬ EndsWithName quote (bytes "online") (bytes "presence.changed") := by decide
    have notType : bytes "type" ≠ bytes "online" := by decide
    have notUserId : bytes "userId" ≠ bytes "online" := by decide
    rw [lookedUpAt, if_neg (show (stringMember (bytes "type") _ plain_type).name ≠ _ from notType)]
    show (if EndsWithName quote (bytes "online") (bytes "presence.changed") then _
      else lookedUpAt (bytes "online") _) = _
    rw [if_neg harmless, lookedUpAt,
      if_neg (show (stringMember (bytes "userId") userId plain_userId).name ≠ _ from notUserId)]
    show (if EndsWithName quote (bytes "online") userId then _ else _) = _
    split <;> rfl
  rw [presenceLine_eq registrable, SignalingProtocol.boolField_eq, fieldText_line plain_online,
    found]
  cases online <;> decide

/-- What a presence change of a registrable id does to the list. -/
theorem dispatchPresence_presenceLine (registrable : Registrable userId) (windows : Windows)
    (items : List WideString) :
    dispatchPresence windows items (presenceLine userId online) =
      if online then
        if windows.findStringExact items (windows.ca2w userId) = none then
          items ++ [windows.ca2w userId]
        else items
      else
        match windows.findStringExact items (windows.ca2w userId) with
        | none => items
        | some index => items.eraseIdx index := by
  have notSnapshot : bytes "presence.changed" ≠ bytes "presence.snapshot" := by decide
  rw [dispatchPresence, stringField_presenceLine_type registrable,
    stringField_presenceLine_userId registrable, boolField_presenceLine registrable]
  simp only
  rw [if_neg notSnapshot, if_pos trivial, if_neg registrable.1]

end

/-! ### The online users -/

/-- A presence change the server broadcasts: an id, and whether it is online from now on. -/
structure Change where
  userId : ByteString
  online : Bool

/-- The list after the line of a change. -/
def receive (windows : Windows) (items : List WideString) (change : Change) : List WideString :=
  dispatchPresence windows items (presenceLine change.userId change.online)

/-- The users online after a change. -/
def follow (users : List ByteString) (change : Change) : List ByteString :=
  if change.online then users ++ [change.userId] else users.erase change.userId

/-- The changes are about registrable ASCII ids, which come online when they are not and go
offline when they are. -/
def Follows : List ByteString → List Change → Prop
  | _, [] => True
  | users, change :: rest =>
    (Registrable change.userId ∧ IsAscii change.userId ∧
      (change.online = true ↔ change.userId ∉ users)) ∧ Follows (follow users change) rest

instance decidableFollows : ∀ users changes, Decidable (Follows users changes)
  | _, [] => isTrue trivial
  | users, change :: rest =>
    have := decidableFollows (follow users change) rest
    inferInstanceAs (Decidable ((_ ∧ _ ∧ (_ ↔ _)) ∧ _))

/-- Another id of the list differs from the given one in letter case only. -/
def Clashes (users : List ByteString) (userId : ByteString) : Prop :=
  ∃ other ∈ users, other ≠ userId ∧ SameLetters (widen other) (widen userId)

instance (users : List ByteString) (userId : ByteString) : Decidable (Clashes users userId) :=
  inferInstanceAs (Decidable (∃ other ∈ users, _))

/-- No change is about an id that clashes with an online one. -/
def Distinct : List ByteString → List Change → Prop
  | _, [] => True
  | users, change :: rest =>
    ¬ Clashes users change.userId ∧ Distinct (follow users change) rest

instance decidableDistinct : ∀ users changes, Decidable (Distinct users changes)
  | _, [] => isTrue trivial
  | users, change :: rest =>
    have := decidableDistinct (follow users change) rest
    inferInstanceAs (Decidable (¬ Clashes users change.userId ∧ _))

/-- The list shows exactly the users, each once. -/
def Shows (windows : Windows) (items : List WideString) (users : List ByteString) : Prop :=
  items.Nodup ∧ ∀ text, text ∈ items ↔ ∃ userId ∈ users, windows.ca2w userId = text

theorem widen_injective : Function.Injective widen :=
  List.map_injective_iff.mpr fun _ _ same => UInt8.toUInt16_inj.mp same

section

variable {users : List ByteString} {change : Change} {windows : Windows}

/-- An item found for an id that clashes with nobody is the id's own. -/
theorem found_of_not_clashes (ascii : ∀ userId ∈ users, IsAscii userId) {userId : ByteString}
    (isAscii : IsAscii userId) (distinct : ¬ Clashes users userId) {index : Nat}
    (found : windows.findStringExact (users.map widen) (widen userId) = some index) :
    users[index]? = some userId := by
  obtain ⟨other, there, same⟩ := windows.found ascii isAscii found
  by_contra elsewhere
  refine distinct ⟨other, List.mem_of_getElem? there, fun equal => elsewhere ?_, same⟩
  rw [there, equal]

/-- A change that clashes with nobody does to the list what it does to the users. -/
theorem receive_of_not_clashes (once : users.Nodup) (ascii : ∀ userId ∈ users, IsAscii userId)
    (registrable : Registrable change.userId) (isAscii : IsAscii change.userId)
    (admissible : change.online = true ↔ change.userId ∉ users)
    (distinct : ¬ Clashes users change.userId) :
    receive windows (users.map widen) change = (follow users change).map widen := by
  rw [receive, dispatchPresence_presenceLine registrable, windows.ascii isAscii, follow]
  split
  · rename_i online
    rw [if_pos, List.map_append, List.map_singleton]
    cases found : windows.findStringExact (users.map widen) (widen change.userId) with
    | none => rfl
    | some index =>
      have own := found_of_not_clashes ascii isAscii distinct found
      exact absurd (List.mem_of_getElem? own) (admissible.mp online)
  · rename_i offline
    have listed : change.userId ∈ users := not_not.mp (mt admissible.mpr offline)
    cases found : windows.findStringExact (users.map widen) (widen change.userId) with
    | none => exact absurd rfl (windows.missing ascii isAscii found _ listed)
    | some index =>
      obtain ⟨inside, own⟩ := List.getElem?_eq_some_iff.mp
        (found_of_not_clashes ascii isAscii distinct found)
      simp only
      rw [← own, once.erase_getElem, List.eraseIdx_map]

theorem map_ca2w (windows : Windows) (ascii : ∀ userId ∈ users, IsAscii userId) :
    users.map windows.ca2w = users.map widen :=
  List.map_congr_left fun userId member => windows.ascii (ascii userId member)

/-- A list of the users' own texts shows them. -/
theorem shows_widen (once : users.Nodup) (ascii : ∀ userId ∈ users, IsAscii userId) :
    Shows windows (users.map windows.ca2w) users := by
  refine ⟨?_, fun text => List.mem_map⟩
  rw [map_ca2w windows ascii]
  exact once.map widen_injective

theorem ascii_follow (ascii : ∀ userId ∈ users, IsAscii userId) (isAscii : IsAscii change.userId) :
    ∀ userId ∈ follow users change, IsAscii userId := by
  intro userId member
  rw [follow] at member
  split at member
  · obtain before | here := List.mem_append.mp member
    · exact ascii userId before
    · rw [List.mem_singleton.mp here]
      exact isAscii
  · exact ascii userId (List.mem_of_mem_erase member)

theorem nodup_follow (once : users.Nodup)
    (admissible : change.online = true ↔ change.userId ∉ users) : (follow users change).Nodup := by
  rw [follow]
  split
  · rename_i online
    exact once.append (List.nodup_singleton _)
      (List.disjoint_singleton.mpr (admissible.mp online))
  · exact once.erase _

end

/-! ### A list box with a preference -/

/-- A list box that finds a given item whenever it may. -/
def Windows.preferring (target : WideString) : Windows where
  ca2w := widen
  ascii _ := rfl
  findStringExact items text :=
    if SameLetters target text ∧ target ∈ items then some (items.idxOf target)
    else items.findIdx? fun item => SameLetters item text
  found {ids id index} _ _ found := by
    have listed : ∃ item, (ids.map widen)[index]? = some item ∧ SameLetters item (widen id) := by
      split at found
      · rename_i preferred
        rw [← Option.some_inj.mp found]
        exact ⟨target, List.getElem?_idxOf preferred.2, preferred.1⟩
      · obtain ⟨inside, letters, -⟩ := List.findIdx?_eq_some_iff_getElem.mp found
        exact ⟨_, List.getElem?_eq_getElem inside, of_decide_eq_true letters⟩
    obtain ⟨item, there, letters⟩ := listed
    rw [List.getElem?_map] at there
    obtain ⟨other, held, rfl⟩ := Option.map_eq_some_iff.mp there
    exact ⟨other, held, letters⟩
  missing {ids id} _ _ absent other member letters := by
    split at absent
    · cases absent
    · have none := List.findIdx?_eq_none_iff.mp absent (widen other) (List.mem_map_of_mem member)
      exact of_decide_eq_false none letters

section

variable {users : List ByteString} {change : Change}

/-- A list box may go wrong on an id that clashes with an online one. -/
theorem not_shows_of_clashes (once : users.Nodup) (registrable : Registrable change.userId)
    (admissible : change.online = true ↔ change.userId ∉ users)
    (clashes : Clashes users change.userId) :
    ∃ windows,
      ¬ Shows windows (receive windows (users.map widen) change) (follow users change) := by
  obtain ⟨other, member, different, letters⟩ := clashes
  have listed : widen other ∈ users.map widen := List.mem_map_of_mem member
  refine ⟨Windows.preferring (widen other), fun shows => ?_⟩
  have found : (Windows.preferring (widen other)).findStringExact (users.map widen)
      (widen change.userId) = some ((users.map widen).idxOf (widen other)) :=
    if_pos ⟨letters, listed⟩
  have converted :
      (Windows.preferring (widen other)).ca2w change.userId = widen change.userId := rfl
  rw [receive, dispatchPresence_presenceLine registrable, converted, found, follow] at shows
  cases online : change.online with
  | true =>
    rw [online, if_pos rfl, if_neg (Option.some_ne_none _), if_pos rfl] at shows
    have own : widen change.userId ∈ users.map widen :=
      (shows.2 _).mpr ⟨change.userId, List.mem_append_right _ (List.mem_singleton_self _), rfl⟩
    exact admissible.mp online ((List.mem_map_of_injective widen_injective).mp own)
  | false =>
    rw [online, if_neg Bool.false_ne_true, if_neg Bool.false_ne_true] at shows
    have kept : other ∈ users.erase change.userId := (List.mem_erase_of_ne different).mpr member
    have still := (shows.2 (widen other)).mpr ⟨other, kept, rfl⟩
    have items : (users.map widen).Nodup := once.map widen_injective
    simp only [← List.erase_eq_eraseIdx_of_idxOf rfl] at still
    exact items.not_mem_erase still

end

/-- Bob is listed when another user comes online who is called like him in a capital letter. -/
theorem namesake_not_listed :
    Follows [bytes "bob"] [⟨bytes "Bob", true⟩] ∧
      ¬ Shows (.preferring []) ([⟨bytes "Bob", true⟩].foldl (receive (.preferring []))
        ([bytes "bob"].map widen)) ([⟨bytes "Bob", true⟩].foldl follow [bytes "bob"]) := by
  have follows : Follows [bytes "bob"] [⟨bytes "Bob", true⟩] := by decide
  refine ⟨follows, fun shows => ?_⟩
  have listed : widen (bytes "Bob") ∈ [⟨bytes "Bob", true⟩].foldl (receive (.preferring []))
      ([bytes "bob"].map widen) := (shows.2 _).mpr ⟨bytes "Bob", by decide, rfl⟩
  revert listed
  decide

/-- The list shows the online users after every change, whichever of several matching items is
found, exactly when no change is about an id that clashes with an online one. -/
theorem online_list_follows_iff {initial : List ByteString} {changes : List Change}
    (once : initial.Nodup) (ascii : ∀ userId ∈ initial, IsAscii userId)
    (follows : Follows initial changes) :
    (∀ windows earlier, earlier <+: changes →
      Shows windows (earlier.foldl (receive windows) (initial.map windows.ca2w))
        (earlier.foldl follow initial)) ↔ Distinct initial changes := by
  induction changes generalizing initial with
  | nil =>
    refine iff_of_true (fun windows earlier isPrefix => ?_) trivial
    rw [List.prefix_nil.mp isPrefix]
    exact shows_widen once ascii
  | cons change rest ih =>
    obtain ⟨⟨registrable, isAscii, admissible⟩, later⟩ := follows
    have next := ih (nodup_follow once admissible) (ascii_follow ascii isAscii) later
    -- behind a change that clashes with nobody the list and the users go on alike
    have step : ¬ Clashes initial change.userId → ∀ windows, receive windows
        (initial.map windows.ca2w) change = (follow initial change).map windows.ca2w := by
      intro distinct windows
      rw [map_ca2w windows ascii, map_ca2w windows (ascii_follow ascii isAscii)]
      exact receive_of_not_clashes once ascii registrable isAscii admissible distinct
    constructor
    · intro shows
      have distinct : ¬ Clashes initial change.userId := by
        intro clashes
        obtain ⟨windows, wrong⟩ := not_shows_of_clashes once registrable admissible clashes
        have first := shows windows [change] (List.cons_prefix_cons.mpr ⟨rfl, List.nil_prefix⟩)
        rw [map_ca2w windows ascii, List.foldl_cons, List.foldl_nil, List.foldl_cons,
          List.foldl_nil] at first
        exact wrong first
      refine ⟨distinct, next.mp fun windows earlier isPrefix => ?_⟩
      have whole := shows windows (change :: earlier) (List.cons_prefix_cons.mpr ⟨rfl, isPrefix⟩)
      rwa [List.foldl_cons, List.foldl_cons, step distinct windows] at whole
    · rintro ⟨distinct, others⟩ windows earlier isPrefix
      cases earlier with
      | nil => exact shows_widen once ascii
      | cons first earlier =>
        obtain ⟨rfl, further⟩ := List.cons_prefix_cons.mp isPrefix
        rw [List.foldl_cons, List.foldl_cons, step distinct windows]
        exact next.mpr others windows earlier further

/-- One user comes and another goes. -/
theorem online_list_follows_iff_bob :
    Shows (.preferring [])
      ([⟨bytes "carol", true⟩, ⟨bytes "bob", false⟩].foldl (receive (.preferring []))
        ([bytes "bob"].map widen)) [bytes "carol"] := by
  have follows : Follows [bytes "bob"] [⟨bytes "carol", true⟩, ⟨bytes "bob", false⟩] := by decide
  have distinct : Distinct [bytes "bob"] [⟨bytes "carol", true⟩, ⟨bytes "bob", false⟩] := by
    decide
  exact (online_list_follows_iff (List.nodup_singleton _) (by decide) follows).mpr distinct
    (.preferring []) _ List.prefix_rfl

end RemoteControl.Peer

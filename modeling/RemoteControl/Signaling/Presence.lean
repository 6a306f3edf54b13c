/-
This file models what the client reads presence lines with: `BoolField`, and
`UserIds`, which looks for every occurrence of the quoted name and reads the
value behind each. The loop over positions is the loop over the text behind one
occurrence after the other.
-/

import RemoteControl.Signaling.Protocol

namespace RemoteControl.SignalingProtocol

open ListSearch Quoted

/-! ### BoolField -/

/-- `SignalingProtocol::BoolField`. -/
def boolField (json name : ByteString) (fallback : Bool) : Bool :=
  match findValue json name with
  | none => fallback
  | some position =>
    if (json.drop position).take 4 = bytes "true" then true
    else if (json.drop position).take 5 = bytes "false" then false
    else fallback

/-- The flag read behind the field, wherever the search for the field finds it. -/
theorem boolField_eq (json name : ByteString) (fallback : Bool) :
    boolField json name fallback =
      match fieldText json name with
      | none => fallback
      | some text =>
        if text.take 4 = bytes "true" then true
        else if text.take 5 = bytes "false" then false
        else fallback := by
  rw [boolField, ← findValue_map_drop]
  cases findValue json name <;> rfl

/-! ### UserIds -/

/-- `"userId"`, with its quotes. -/
def userIdKey : ByteString := key quote (bytes "userId")

/-- The loop of `UserIds` from a position on, for at most the given number of rounds. -/
def userIdsFrom (json : ByteString) : Nat → Nat → List ByteString
  | 0, _ => []
  | rounds + 1, position =>
    match find json userIdKey position with
    | none => []
    | some position =>
      let id := stringField (json.drop position) (bytes "userId")
      (if id = [] then [] else [id]) ++ userIdsFrom json rounds (position + 8)

/-- `SignalingProtocol::UserIds`. A round moves on by eight bytes, so there are never more rounds
than bytes. -/
def userIds (json : ByteString) : List ByteString := userIdsFrom json (json.length + 1) 0

/-- The string read behind an occurrence of the name. -/
def valueBehind (rest : ByteString) : ByteString :=
  (((valueText rest).bind openString).bind clientReader.read).getD []

/-- The ids read behind the first occurrences of the name. -/
def idsBehind : Nat → ByteString → List ByteString
  | 0, _ => []
  | rounds + 1, text =>
    match afterFirst userIdKey text with
    | none => []
    | some rest =>
      (if valueBehind rest = [] then [] else [valueBehind rest]) ++ idsBehind rounds rest

/-- From an occurrence on, `StringField` reads the value behind that occurrence. -/
theorem stringField_of_prefix {text : ByteString} (occurs : userIdKey <+: text) :
    stringField text (bytes "userId") = valueBehind (text.drop 8) := by
  have found : afterFirst userIdKey text = some (text.drop 8) := by
    cases text with
    | nil => exact absurd (List.prefix_nil.mp occurs) (key_ne_nil _ _)
    | cons head tail => exact afterFirst_cons_of_occurs occurs
  rw [stringField, stringField_eq, stringText, fieldText, ← userIdKey, found, Option.bind_some,
    valueBehind]

/-- The loop over positions reads the text from each position on. -/
theorem userIdsFrom_eq (json : ByteString) (rounds position : Nat) :
    userIdsFrom json rounds position = idsBehind rounds (json.drop position) := by
  induction rounds generalizing position with
  | zero => rfl
  | succ rounds inductionHypothesis =>
    rw [userIdsFrom, idsBehind, ← find_map_drop]
    cases there : find json userIdKey position with
    | none => rfl
    | some found =>
      have value := stringField_of_prefix (prefix_of_find there)
      rw [List.drop_drop] at value
      simp only [Option.map_some, value, inductionHypothesis]
      rfl

theorem userIds_eq (json : ByteString) : userIds json = idsBehind (json.length + 1) json := by
  rw [userIds, userIdsFrom_eq, List.drop_zero]

end RemoteControl.SignalingProtocol

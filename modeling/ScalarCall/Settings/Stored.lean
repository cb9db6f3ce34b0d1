import ScalarCall.Json.Value
import ScalarCall.Settings.Basic

/-!
Stored settings: a JSON object with a member for each setting. A member that is missing leaves the
default, a member with another name is passed over, and one that is there twice is refused. A list
of values in the order of the settings is read too.
-/

namespace ScalarCall.Settings

open Json

def nullCheckKey : String := "null_check"

def valuesOf (key : String) (members : List (String × Value)) : List Value :=
  (members.filter (·.1 == key)).map (·.2)

def namedMembers? (members : List (List Item × Value)) : Option (List (String × Value)) :=
  members.mapM fun (name, v) => (text? name).map (·, v)

/-- A hint replaced by a value, which has to be a string. -/
def readHint? (s : Settings) (h : Hint) : Value → Option Settings
  | .string items => (text? items).map (s.set h)
  | _ => none

/-- A hint replaced by the only value there is for it, if there is one. -/
def readHints? (members : List (String × Value)) (s : Settings) (h : Hint) : Option Settings :=
  match valuesOf h.key members with
  | [] => some s
  | [v] => s.readHint? h v
  | _ => none

/-- The null check replaced by the only value there is for it, if there is one. -/
def readNullCheck? (members : List (String × Value)) (s : Settings) : Option Settings :=
  match valuesOf nullCheckKey members with
  | [] => some s
  | [.bool b] => some { s with nullCheck := b }
  | _ => none

def ofMembers? (members : List (String × Value)) : Option Settings := do
  let s ← readNullCheck? members {}
  Hint.all.foldlM (readHints? members) s

def readElements? (s : Settings) : List Hint → List Value → Option Settings
  | _, [] => some s
  | [], _ :: _ => none
  | h :: hs, v :: vs => (s.readHint? h v).bind fun s => s.readElements? hs vs

def ofValue? : Value → Option Settings
  | .object members => (namedMembers? members).bind ofMembers?
  | .array [] => some {}
  | .array (.bool b :: rest) => readElements? { nullCheck := b } Hint.all rest
  | _ => none

def ofText (text : String) : Except Fault Settings :=
  match (parse? text).bind ofValue? with
  | some s => s.validate
  | none => .error .malformed

/-- Reads the settings that a file holds; there may be no file. -/
def ofFile : Option ByteArray → Except Fault Settings
  | none => .error .unreadable
  | some bytes =>
    match String.fromUTF8? bytes with
    | some text => ofText text
    | none => .error .unreadable

/-- The members of stored settings, each name with the text of its value. -/
def storedMembers (s : Settings) : List (String × List Char) :=
  (nullCheckKey, (toString s.nullCheck).toList) :: Hint.all.map fun h => (h.key, quote (s.get h))

def storedLine (member : String × List Char) : List Char :=
  ' ' :: ' ' :: (quote member.1 ++ ':' :: ' ' :: member.2)

def storedText (s : Settings) : String :=
  .ofList ('\x7b' :: '\n' ::
    ([',', '\n'].intercalate (s.storedMembers.map storedLine) ++ ['\n', '\x7d']))

end ScalarCall.Settings

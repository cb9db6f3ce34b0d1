import ScalarCall.Settings.Basic

/-!
Overriding settings by environment variables. A variable that is present replaces its setting; what
comes out is checked.
-/

namespace ScalarCall

namespace Settings

/-- A truth value as a word in letters of any case, or as a digit. -/
def parseBool? (value : String) : Option Bool :=
  let letters := value.toList.map Char.toLower
  if letters = "true".toList || letters = "1".toList then some true
  else if letters = "false".toList || letters = "0".toList then some false
  else none

def overrideNullCheck (s : Settings) (lookup : String → Option String) : Except Fault Settings :=
  match lookup nullCheckVariable with
  | none => .ok s
  | some value =>
    match parseBool? value with
    | some b => .ok { s with nullCheck := b }
    | none => .error (.notBoolean value)

def overrideHint (lookup : String → Option String) (s : Settings) (h : Hint) : Settings :=
  match lookup h.variable with
  | some value => s.set h value
  | none => s

def override (s : Settings) (lookup : String → Option String) : Except Fault Settings := do
  let s ← s.overrideNullCheck lookup
  (Hint.all.foldl (overrideHint lookup) s).validate

end Settings

end ScalarCall

/-!
Settings of the generated code: whether nulls are tracked, and the hints that names are made of. A
hint has to be an identifier.
-/

namespace ScalarCall

/-- The hints, in the order in which they are checked. -/
inductive Hint
  | result | externalResult | isNull | functionField | converterField
deriving DecidableEq

def Hint.all : List Hint := [.result, .externalResult, .isNull, .functionField, .converterField]

def Hint.key : Hint → String
  | result => "result_hint"
  | externalResult => "external_result_hint"
  | isNull => "null_hint"
  | functionField => "function_field_prefix"
  | converterField => "converter_field_prefix"

def variableStart : String := "DBX_CODEGEN_"

def nullCheckVariable : String := variableStart ++ "NULL_CHECK"

def Hint.variable : Hint → String
  | result => variableStart ++ "RESULT_HINT"
  | externalResult => variableStart ++ "EXTERNAL_RESULT_HINT"
  | isNull => variableStart ++ "NULL_HINT"
  | functionField => variableStart ++ "FUNCTION_FIELD_PREFIX"
  | converterField => variableStart ++ "CONVERTER_FIELD_PREFIX"

structure Settings where
  /-- Whether generated code tracks nulls. -/
  nullCheck : Bool := true
  /-- The hint of result variables. -/
  resultHint : String := "result"
  /-- The hint of variables that hold the value a function returned. -/
  externalResultHint : String := "externalResult"
  /-- The hint of null indicators. -/
  nullHint : String := "isNull"
  /-- What the field of a function begins with. -/
  functionFieldHint : String := "function_"
  /-- The hint of the fields of converters. -/
  converterFieldHint : String := "converter"
deriving DecidableEq

namespace Settings

inductive Fault
  | notIdentifier (hint : Hint) (value : String)
  | notBoolean (value : String)
  /-- A text that does not spell settings. -/
  | malformed
  /-- A file that is missing or does not hold text. -/
  | unreadable
deriving DecidableEq

/-- The wording of a fault. Faults of files and of their syntax are worded by whoever reads them. -/
def Fault.message? : Fault → Option String
  | notIdentifier h value =>
    some ("config error: " ++ h.key ++ " '" ++ value ++ "' is not a valid identifier")
  | notBoolean value =>
    some ("config error: " ++ nullCheckVariable ++ ": invalid bool '" ++ value ++ "'")
  | malformed | unreadable => none

def get (s : Settings) : Hint → String
  | .result => s.resultHint
  | .externalResult => s.externalResultHint
  | .isNull => s.nullHint
  | .functionField => s.functionFieldHint
  | .converterField => s.converterFieldHint

def set (s : Settings) (h : Hint) (value : String) : Settings :=
  match h with
  | .result => { s with resultHint := value }
  | .externalResult => { s with externalResultHint := value }
  | .isNull => { s with nullHint := value }
  | .functionField => { s with functionFieldHint := value }
  | .converterField => { s with converterFieldHint := value }

theorem get_set (s : Settings) (h k : Hint) (value : String) :
    (s.set h value).get k = if k = h then value else s.get k := by
  cases h <;> cases k <;> rfl

theorem nullCheck_set (s : Settings) (h : Hint) (value : String) :
    (s.set h value).nullCheck = s.nullCheck := by
  cases h <;> rfl

theorem ext_get {s t : Settings} (hn : s.nullCheck = t.nullCheck) (h : ∀ k, s.get k = t.get k) :
    s = t := by
  cases s; cases t
  have h1 := h .result
  have h2 := h .externalResult
  have h3 := h .isNull
  have h4 := h .functionField
  have h5 := h .converterField
  simp only [get] at h1 h2 h3 h4 h5
  simp only at hn
  simp [hn, h1, h2, h3, h4, h5]

/-- A letter or an underscore of ASCII. -/
def isNameStart (c : Char) : Bool := c.isAlpha || c = '_'

/-- A letter, a digit or an underscore of ASCII. -/
def isNamePart (c : Char) : Bool := c.isAlphanum || c = '_'

def isIdentifier (s : String) : Bool :=
  match s.toList with
  | [] => false
  | c :: cs => isNameStart c && cs.all isNamePart

/-- The settings themselves, if every hint is an identifier; else the first that is not. -/
def validate (s : Settings) : Except Fault Settings :=
  match Hint.all.find? fun h => !isIdentifier (s.get h) with
  | some h => .error (.notIdentifier h (s.get h))
  | none => .ok s

end Settings

end ScalarCall

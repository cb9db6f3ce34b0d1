import ScalarCall.Expression
import ScalarCall.Registry
import ScalarCall.SqlType.Classes

/-!
Statements of the generated method, and values that statements put into variables.
-/

namespace ScalarCall

/-- A statement that gives a variable a value. -/
inductive Statement
  | assign (target value : String)
  /-- Declares the variable too. -/
  | define (typeTerm target value : String)
  /-- Does so only where a null indicator is false. -/
  | assignUnless (indicator target value : String)
deriving DecidableEq

namespace Statement

def target : Statement → String
  | assign x _ | define _ x _ | assignUnless _ x _ => x

def text : Statement → String
  | assign x v => x ++ " = " ++ v ++ ";"
  | define t x v => t ++ " " ++ x ++ " = " ++ v ++ ";"
  | assignUnless n x v => "if (!" ++ n ++ ") \x7b\n  " ++ x ++ " = " ++ v ++ ";\n\x7d"

end Statement

def codeOf (statements : List Statement) : String := Registry.lines (statements.map Statement.text)

/-- A value that statements put into a variable. -/
structure Computation where
  statements : List Statement
  term : String
  nullTerm : String
  type : SqlType
deriving DecidableEq

namespace Computation

def expression (c : Computation) : Expression :=
  { code := codeOf c.statements, term := c.term, nullTerm := c.nullTerm, type := c.type }

/-- A term that is never null and needs no statement. -/
def present (t : SqlType) (term : String) : Computation := ⟨[], term, neverNull, t⟩

/-- The internal primitive taken out of its boxed form; other values are as they are. -/
def unboxed (t : SqlType) (input : String) : String :=
  match t.primitive? with
  | some p => input ++ "." ++ p.accessor
  | none => input

/-- Takes a value that may be null into a fresh variable, with an indicator if nulls are tracked. -/
def unbox (t : SqlType) (input : String) : Registering Computation := do
  let settings := (← get).settings
  let result ← declareLocal t.primitiveTerm settings.resultHint
  if settings.nullCheck then
    let indicator ← declareLocal "boolean" settings.nullHint
    return ⟨[.assign indicator (input ++ " == null"), .assign result t.defaultValue,
      .assignUnless indicator result (unboxed t input)], result, indicator, t⟩
  else return ⟨[.assign result (unboxed t input)], result, neverNull, t⟩

end Computation

end ScalarCall

import ScalarCall.Literal
import ScalarCall.Text.Fragment

/-!
Expressions of the generated code: statements to run first, then a term for the value and a term
that says whether it is null.
-/

namespace ScalarCall

/-- The null term of a value that is never null. -/
def neverNull : String := "false"

/-- The null term of a value that is always null. -/
def alwaysNull : String := "true"

structure Expression where
  code : String
  term : String
  nullTerm : String
  type : SqlType
  /-- The value of a literal. -/
  literal? : Option Literal := none
deriving DecidableEq

namespace Expression

/-- A constant. It needs no code, and its null term is constant too. -/
def literal (term : String) (type : SqlType) (value : Literal) : Expression :=
  { code := ""
    term := term
    nullTerm := if value.isNull then alwaysNull else neverNull
    type := type
    literal? := some value }

def withTerm (e : Expression) (term : String) : Expression := { e with term := term }

def withCode (e : Expression) (code : String) : Expression := { e with code := code }

def isLiteral (e : Expression) : Bool := e.literal?.isSome

/-- The value of a constant that is not null. -/
def value? (e : Expression) : Option Literal := e.literal?.filter fun v => !v.isNull

def isNeverNull (e : Expression) : Bool := e.nullTerm == neverNull

end Expression

end ScalarCall

import ScalarCall.BridgedType
import ScalarCall.Literal
import ScalarCall.Function.Overload

/-!
Why a call cannot be generated.
-/

namespace ScalarCall

/-- No signature of a function takes operands of the given types. -/
structure NoOverload where
  function : String
  operands : List SqlType
  candidates : List Overload
deriving DecidableEq

inductive CallError
  | noOverload (cause : NoOverload)
  /-- The type does not accept its class. -/
  | unsupported (type : BridgedType)
  | arity (expected actual : Nat)
  | notOfType (value : Literal) (type : SqlType)
deriving DecidableEq

def CallError.message : CallError → String
  | noOverload e =>
    "cannot resolve eval method of '" ++ e.function ++ "': no eval method accepts (" ++
      ", ".intercalate (e.operands.map SqlType.text) ++ "); candidates: " ++
      Text.listed (e.candidates.map Overload.text)
  | unsupported b =>
    "conversion error for " ++ b.text ++ ": " ++ b.type.text ++ " cannot be converted to " ++
      b.runtimeClass.term
  | arity expected actual =>
    "argument count mismatch: expected " ++ toString expected ++ ", got " ++ toString actual
  | notOfType v t => "literal error: " ++ v.text ++ " is not a literal of " ++ t.text

end ScalarCall

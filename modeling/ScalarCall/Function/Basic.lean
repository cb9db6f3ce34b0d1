import ScalarCall.BridgedType
import ScalarCall.Literal
import ScalarCall.Function.Overload

/-!
User-defined scalar functions, as far as calling them goes.
-/

namespace ScalarCall

/-- A scalar function: its signatures, and what it says of the types of its parameters and its
result. -/
structure Function where
  /-- Tells instances of functions apart. -/
  identifier : String
  /-- The class of the instance. -/
  className : String
  overloads : List Overload
  /-- The types of the parameters of a signature, if the function declares them. -/
  parameterTypes : List RuntimeClass → Option (List BridgedType) := fun _ => none
  /-- The type of the result for given arguments (literals by their values) of given types, if the
  function has a rule for it. -/
  resultType : List (Option ExternalLiteral) → List SqlType → Option BridgedType := fun _ _ => none

namespace Function

/-- Declares the parameter types of a signature. What is declared first for the same classes
counts. -/
def withParameterTypes (f : Function) (classes : List RuntimeClass) (types : List BridgedType) :
    Function :=
  { f with parameterTypes := fun cs =>
      (f.parameterTypes cs).or (if cs = classes then some types else none) }

def withResultRule (f : Function)
    (rule : List (Option ExternalLiteral) → List SqlType → Option BridgedType) : Function :=
  { f with resultType := rule }

/-- The function with its parts named. -/
def detail (f : Function) : String :=
  Text.labelled "ScalarUdf" [("identifier", Text.quote f.identifier),
    ("class_name", Text.quote f.className),
    ("methods", Text.listed (f.overloads.map Overload.detail))]

end Function

end ScalarCall

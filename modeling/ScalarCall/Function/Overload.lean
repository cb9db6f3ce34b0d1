import ScalarCall.RuntimeClass
import ScalarCall.Text.Quoted
import ScalarCall.Text.Term

/-!
The signatures of one method of a function. The last parameter of a variadic one is an array that
takes any number of arguments.
-/

namespace ScalarCall

def Primitive.name : Primitive → String
  | boolean => "Boolean"
  | byte => "Byte"
  | short => "Short"
  | int => "Int"
  | long => "Long"
  | float => "Float"
  | double => "Double"
  | char => "Char"

/-- The text that tells a class by its kind. -/
def RuntimeClass.detail : RuntimeClass → String
  | primitive k => Text.applied "Primitive" [k.name]
  | boxed k => Text.applied "Boxed" [k.name]
  | object name => Text.applied "Object" [Text.quote name]

structure Overload where
  parameters : List RuntimeClass
  result : RuntimeClass
  variadic : Bool := false
deriving DecidableEq

namespace Overload

/-- The text of a last parameter: a variadic array shows its component. -/
def lastText (variadic : Bool) (c : RuntimeClass) : String :=
  match variadic, c.component? with
  | true, some d => d.term ++ "..."
  | _, _ => c.term

def parameterTexts (variadic : Bool) : List RuntimeClass → List String
  | [] => []
  | [c] => [lastText variadic c]
  | c :: cs => c.term :: parameterTexts variadic cs

def text (m : Overload) : String :=
  Text.applied "eval" (parameterTexts m.variadic m.parameters) ++ ": " ++ m.result.term

def detail (m : Overload) : String :=
  Text.labelled "EvalMethod" [
    ("parameter_classes", Text.listed (m.parameters.map RuntimeClass.detail)),
    ("result_class", m.result.detail), ("is_variadic", toString m.variadic)]

/-- The parameter classes for a number of arguments, if the signature takes so many. -/
def expand? (m : Overload) (count : Nat) : Option (List RuntimeClass) :=
  if m.variadic then
    match m.parameters.getLast?.bind RuntimeClass.component? with
    | none => none
    | some component =>
      let fixed := m.parameters.dropLast
      if fixed.length ≤ count then some (fixed ++ List.replicate (count - fixed.length) component)
      else none
  else if m.parameters.length = count then some m.parameters
  else none

end Overload

end ScalarCall

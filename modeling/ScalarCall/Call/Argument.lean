import ScalarCall.Conversion
import ScalarCall.Expression

/-!
Arguments: what stands for an operand in the call of a function.
-/

namespace ScalarCall

def millisecondAccessor : String := "getMillisecond()"

/-- A point in time where a primitive `long` is asked for: its milliseconds. -/
def Expression.asMillis (operand : Expression) (c : RuntimeClass) : Expression :=
  if operand.type.isTimestampLtz && c == .primitive .long then
    operand.withTerm (operand.term ++ "." ++ millisecondAccessor)
  else operand

/-- A term guarded against null, if nulls are tracked. -/
def guarded (s : Settings) (nullTerm term : String) : String :=
  if s.nullCheck then nullTerm ++ " ? null : (" ++ term ++ ")" else term

namespace Converter

/-- The type that an operand is converted to: the parameter's own, or if that is opaque the
operand's, in the parameter's class if it may be passed so. -/
def target (cv : Converter) (declared : BridgedType) (operand : SqlType) : BridgedType :=
  if declared.isGeneric then
    if cv.accepts operand declared.runtimeClass then ⟨operand, declared.runtimeClass⟩
    else .ofType operand
  else declared

/-- The argument for an operand. A primitive is passed as it is. -/
def argument (cv : Converter) (operand : Expression) (c : RuntimeClass) (declared : BridgedType) :
    Generating Expression := do
  let operand := operand.asMillis c
  if c.isPrimitive then return operand
  let external ← cv.toExternal (cv.target declared operand.type) operand.term
  return operand.withTerm (guarded (← get).settings operand.nullTerm external)

/-- The arguments for operands, as far as there are classes and types for them. -/
def argumentList (cv : Converter) :
    List Expression → List RuntimeClass → List BridgedType → Generating (List Expression)
  | e :: es, c :: cs, b :: bs => do
    let a ← cv.argument e c b
    let rest ← cv.argumentList es cs bs
    return a :: rest
  | _, _, _ => return []

/-- The arguments for operands, of which there must be as many as classes and types. -/
def arguments (cv : Converter) (operands : List Expression) (classes : List RuntimeClass)
    (types : List BridgedType) : Generating (List Expression) := do
  if classes.length ≠ operands.length then throw (.arity classes.length operands.length)
  if types.length ≠ operands.length then throw (.arity types.length operands.length)
  cv.argumentList operands classes types

end Converter

end ScalarCall

import ScalarCall.Call.Argument
import ScalarCall.Call.Statement
import ScalarCall.Function.Resolution

/-!
Calls of scalar functions. A signature is resolved, literals are folded for the function's own
rule on its result type, operands become arguments, and the returned value is brought to internal
form. A result that cannot be brought there leaves no function and no variables behind, since this
is tried before the function is registered; what the arguments needed stays.
-/

namespace ScalarCall

/-- What calls are generated with. -/
structure CallGenerator where
  function : Function
  resolver : Resolver := resolve
  converter : Converter := .standard

/-- The code of one call, apart from how its parts are joined. -/
structure CallBlock where
  arguments : List Expression
  /-- The statements that call the function and keep what it returns. -/
  assignment : List Statement
  /-- The value of the call. -/
  result : Computation
deriving DecidableEq

/-- The call as an expression: the arguments' code, then the call, then what makes its value. -/
def CallBlock.expression (b : CallBlock) : Expression :=
  b.result.expression.withCode
    (Text.joinFragments
      (b.arguments.map (·.code) ++ [codeOf b.assignment, codeOf b.result.statements]))

def invocation (field : String) (arguments : List Expression) : String :=
  Text.applied (field ++ ".eval") (arguments.map (·.term))

/-- What a function returned, as far as its class takes part: milliseconds that stand for a point in
time become one. -/
def returnedValue (t : SqlType) (c : RuntimeClass) (call : String) : String :=
  if t.isTimestampLtz && c == .primitive .long then
    "TimestampData.fromEpochMillis(" ++ call ++ ")"
  else call

namespace CallGenerator

/-- The value of a literal operand; none for other operands. -/
def fold (g : CallGenerator) (operand : Expression) : Except CallError (Option ExternalLiteral) :=
  match operand.literal? with
  | none => .ok none
  | some .null => .ok (some .null)
  | some v => (g.converter.literal v operand.type).map some

/-- The values of literal operands, up to the first that is not of its type. -/
def foldAll (g : CallGenerator) :
    List Expression → Except CallError (List (Option ExternalLiteral))
  | [] => .ok []
  | e :: es => do
    let v ← g.fold e
    let vs ← g.foldAll es
    return v :: vs

def signature (g : CallGenerator) (types : List SqlType) : Except CallError Signature :=
  match g.resolver g.function types with
  | .ok m => .ok (.of g.function m types)
  | .error e => .error (.noOverload e)

/-- The type from which the returned value is converted: what the function's rule says, or else the
type of the call, each in the result class if it may be passed so; or what the class stands for. -/
def resultType (g : CallGenerator) (arguments : List (Option ExternalLiteral))
    (types : List SqlType) (returnType : SqlType) (c : RuntimeClass) : BridgedType :=
  match g.function.resultType arguments types with
  | some declared =>
    if g.converter.accepts declared.type c then declared.bridgedTo c else declared
  | none => if g.converter.accepts returnType c then ⟨returnType, c⟩ else .ofClass c

def ref (g : CallGenerator) : FunctionRef := ⟨g.function.identifier, g.function.className⟩

/-- A call that returns a primitive. It is never null, and its value is used as it is. -/
def primitiveBlock (g : CallGenerator) (arguments : List Expression) (returnType : SqlType)
    (c : RuntimeClass) : Registering CallBlock := do
  let field ← functionField g.ref
  let result ← declareLocal returnType.primitiveTerm (← get).settings.resultHint
  return {
    arguments
    assignment := [.assign result (returnedValue returnType c (invocation field arguments))]
    result := .present returnType result }

/-- A call that returns an object, which may be null. The object is kept under the name `external`,
brought to internal form by `internal`, and unboxed. -/
def objectBlock (g : CallGenerator) (arguments : List Expression) (returnType : SqlType)
    (c : RuntimeClass) (external internal : String) : Registering CallBlock := do
  let field ← functionField g.ref
  let kept ← declareLocal returnType.boxedTerm (← get).settings.resultHint
  let result ← Computation.unbox returnType kept
  return {
    arguments
    assignment := [
      .define c.term external ("(" ++ c.term ++ ") " ++ invocation field arguments),
      .assign kept (external ++ " == null ? null : (" ++ internal ++ ")")]
    result }

/-- Calls the function with its arguments, and brings what it returns to internal form. An object is
converted before the function is registered. -/
def invoke (g : CallGenerator) (arguments : List Expression) (types : List SqlType)
    (returnType : SqlType) (c : RuntimeClass) (folded : List (Option ExternalLiteral)) :
    Generating CallBlock := do
  if c.isPrimitive then g.primitiveBlock arguments returnType c
  else
    let external ← freshName (← get).settings.externalResultHint
    let internal ← g.converter.toInternal (g.resultType folded types returnType c) external
    g.objectBlock arguments returnType c external internal

def block (g : CallGenerator) (operands : List Expression) (returnType : SqlType) :
    Generating CallBlock := do
  let types := operands.map (·.type)
  let signature ← g.signature types
  let folded ← g.foldAll operands
  let arguments ← g.converter.arguments operands signature.parameters signature.types
  g.invoke arguments types returnType signature.result folded

def generate (g : CallGenerator) (operands : List Expression) (returnType : SqlType) :
    Generating Expression := do
  return (← g.block operands returnType).expression

end CallGenerator

end ScalarCall

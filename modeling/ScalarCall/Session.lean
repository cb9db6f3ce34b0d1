import ScalarCall.Call.Block

/-!
Sessions: requests to one registry, one after the other. A request that fails does not end the
session.
-/

namespace ScalarCall

/-- What a registry can be asked for. Conversions, arguments and calls may be made with any set of
conversions. -/
inductive Request
  | name (hint : String)
  | localVariable (typeTerm hint : String)
  | function (ref : FunctionRef)
  | converter (type : BridgedType)
  | convertBy (converter : Converter) (type : BridgedType) (direction : Direction) (term : String)
  | argumentsBy (converter : Converter) (operands : List Expression) (classes : List RuntimeClass)
      (types : List BridgedType)
  | present (type : SqlType) (term : String)
  | unbox (type : SqlType) (term : String)
  | generate (generator : CallGenerator) (operands : List Expression) (returnType : SqlType)

inductive Answer
  | term (text : String)
  | expressions (es : List Expression)
  | value (computation : Computation)
  | call (block : CallBlock)
deriving DecidableEq

namespace Request

def convert (b : BridgedType) (d : Direction) (term : String) : Request :=
  convertBy .standard b d term

def arguments (accepts : SqlType → RuntimeClass → Bool) (operands : List Expression)
    (classes : List RuntimeClass) (types : List BridgedType) : Request :=
  argumentsBy (Converter.standard.accepting accepts) operands classes types

/-- A call with the conversions of this library, under a rule of what may be passed. -/
def call (f : Function) (resolver : Resolver) (accepts : SqlType → RuntimeClass → Bool)
    (operands : List Expression) (returnType : SqlType) : Request :=
  generate ⟨f, resolver, Converter.standard.accepting accepts⟩ operands returnType

def perform : Request → Generating Answer
  | name hint => return .term (← freshName hint)
  | localVariable typeTerm hint => return .term (← declareLocal typeTerm hint)
  | function ref => return .term (← functionField ref)
  | converter b => return .term (← converterField b)
  | convertBy cv b d term => return .term (← cv.convert b d term)
  | argumentsBy cv operands classes types =>
    return .expressions (← cv.arguments operands classes types)
  | present t term => return .value (.present t term)
  | unbox t term => return .value (← Computation.unbox t term)
  | generate g operands returnType => return .call (← g.block operands returnType)

end Request

def Answer.expression? : Answer → Option Expression
  | value c => some c.expression
  | call b => some b.expression
  | _ => none

namespace Registry

def perform (r : Registry) (q : Request) : Except CallError Answer × Registry :=
  q.perform.run.run r

def after (r : Registry) (qs : List Request) : Registry := qs.foldl (fun r q => (r.perform q).2) r

def answers (r : Registry) : List Request → List (Except CallError Answer)
  | [] => []
  | q :: qs => (r.perform q).1 :: answers (r.perform q).2 qs

end Registry

end ScalarCall

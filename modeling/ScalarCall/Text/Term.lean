/-!
Texts of structured values: a name with arguments, a name with labelled parts, and a list.
-/

namespace ScalarCall.Text

def applied (name : String) (arguments : List String) : String :=
  name ++ "(" ++ ", ".intercalate arguments ++ ")"

def labelled (name : String) (parts : List (String × String)) : String :=
  name ++ " \x7b " ++ ", ".intercalate (parts.map fun p => p.1 ++ ": " ++ p.2) ++ " \x7d"

def listed (elements : List String) : String := "[" ++ ", ".intercalate elements ++ "]"

end ScalarCall.Text

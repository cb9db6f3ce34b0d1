import ScalarCall.Text.Blank

/-!
Fragments of code and how they are joined: each is trimmed, the empty ones are left out, and the
rest stand on lines of their own.
-/

namespace ScalarCall.Text

/-- The fragments that `joinFragments` keeps, trimmed. -/
def fragments (parts : List String) : List String :=
  (parts.map trim).filter (· != "")

/-- Joins fragments in order, one to a line. -/
def joinFragments (parts : List String) : String :=
  "\n".intercalate (fragments parts)

end ScalarCall.Text

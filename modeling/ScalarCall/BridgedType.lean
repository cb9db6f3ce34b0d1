import ScalarCall.SqlType.Classes
import ScalarCall.SqlType.Display

/-!
A SQL type together with the class in which its values are passed to and from functions.
-/

namespace ScalarCall

/-- A SQL type and the class in which its values are passed. -/
structure BridgedType where
  type : SqlType
  runtimeClass : RuntimeClass
deriving DecidableEq

namespace BridgedType

def ofType (t : SqlType) : BridgedType := ⟨t, t.defaultClass⟩

/-- A class with the type it stands for. -/
def ofClass (c : RuntimeClass) : BridgedType := ⟨.ofClass c, c⟩

/-- The same type in another class. -/
def bridgedTo (b : BridgedType) (c : RuntimeClass) : BridgedType := ⟨b.type, c⟩

/-- Whether the type is opaque, so that it takes any operand. -/
def isGeneric (b : BridgedType) : Bool := b.type.isRaw

def isInternal (b : BridgedType) : Bool := b.runtimeClass == b.type.internalClass

def isSupported (b : BridgedType) : Bool := b.type.accepts b.runtimeClass

def text (b : BridgedType) : String := b.type.text ++ " <" ++ b.runtimeClass.term ++ ">"

end BridgedType

end ScalarCall

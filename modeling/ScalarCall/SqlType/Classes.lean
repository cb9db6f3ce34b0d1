import ScalarCall.RuntimeClass
import ScalarCall.SqlType.Basic

/-!
The classes of a type's values: the internal one, the one that a function gets if it asks for no
other, and all that it may ask for.
-/

namespace ScalarCall

open RuntimeClass

namespace SimpleType

/-- The primitive that holds a value internally. Dates are days and times are milliseconds. -/
def primitive? : SimpleType → Option Primitive
  | boolean => some .boolean
  | tinyint => some .byte
  | smallint => some .short
  | int | date | time _ => some .int
  | bigint => some .long
  | float => some .float
  | double => some .double
  | _ => none

def internalClass : SimpleType → RuntimeClass
  | boolean => .primitive .boolean
  | tinyint => .primitive .byte
  | smallint => .primitive .short
  | int | date | time _ => .primitive .int
  | bigint => .primitive .long
  | float => .primitive .float
  | double => .primitive .double
  | decimal .. => decimalData
  | char _ | varchar _ => stringData
  | binary _ | varbinary _ => byteArray
  | timestamp _ | timestampLtz _ => timestampData

/-- The class that a function gets if it asks for no other. -/
def defaultClass : SimpleType → RuntimeClass
  | boolean => .boxed .boolean
  | tinyint => .boxed .byte
  | smallint => .boxed .short
  | int => .boxed .int
  | bigint => .boxed .long
  | float => .boxed .float
  | double => .boxed .double
  | decimal .. => bigDecimal
  | char _ | varchar _ => RuntimeClass.text
  | binary _ | varbinary _ => byteArray
  | date => localDate
  | time _ => localTime
  | timestamp _ => localDateTime
  | timestampLtz _ => instant

/-- The classes accepted beside those two and the internal primitive with its boxed form. -/
def furtherClasses : SimpleType → List RuntimeClass
  | char _ | varchar _ => [byteArray]
  | date => [sqlDate]
  | time _ => [sqlTime, .primitive .long, .boxed .long]
  | timestamp _ => [sqlTimestamp]
  | timestampLtz _ => [sqlTimestamp, .primitive .long, .boxed .long]
  | _ => []

/-- Whether a class is of the same primitive kind as the internal form. -/
def sharesPrimitive (t : SimpleType) (c : RuntimeClass) : Bool :=
  match t.primitive?, c.kind? with
  | some p, some k => p == k
  | _, _ => false

/-- Whether values can be handed out and taken back as the class. -/
def accepts (t : SimpleType) (c : RuntimeClass) : Bool :=
  c == t.internalClass || c == t.defaultClass || t.sharesPrimitive c || t.furtherClasses.contains c

def ofPrimitive : Primitive → SimpleType
  | .boolean => boolean
  | .byte => tinyint
  | .short => smallint
  | .int => int
  | .long => bigint
  | .float => float
  | .double => double
  | .char => char 1

def ofClass? (c : RuntimeClass) : Option SimpleType :=
  if c = RuntimeClass.text then some (varchar maxLength)
  else if c = bigDecimal then some (decimal 38 18)
  else if c = byteArray then some (varbinary maxLength)
  else if c = localDate || c = sqlDate then some date
  else if c = localTime || c = sqlTime then some (time 0)
  else if c = localDateTime || c = sqlTimestamp then some (timestamp 9)
  else if c = instant then some (timestampLtz 9)
  else none

end SimpleType

namespace SqlType

/-- The primitive that holds a value internally. -/
def primitive? : SqlType → Option Primitive
  | simple t _ => t.primitive?
  | _ => none

def internalClass : SqlType → RuntimeClass
  | null => anyObject
  | simple t _ => t.internalClass
  | raw .. => rawValueData
  | array .. => arrayData
  | map .. => mapData
  | row .. => rowData

/-- The class that a function gets if it asks for no other. -/
def defaultClass : SqlType → RuntimeClass
  | null => anyObject
  | simple t _ => t.defaultClass
  | raw c _ => .object c
  | array e _ => e.defaultClass.arrayOf
  | map .. => RuntimeClass.map
  | row .. => RuntimeClass.row

/-- Whether values can be handed out and taken back as the class. An array can be every list, and
every array whose component its elements can be; null can be every class that is not primitive. -/
def accepts : SqlType → RuntimeClass → Bool
  | null, c => !c.isPrimitive
  | simple t _, c => t.accepts c
  | raw name _, c => c == rawValueData || c == .object name
  | array e n, c =>
    c == arrayData || c == (array e n).defaultClass || c == list ||
      match c.component? with
      | some d => e.accepts d
      | none => false
  | map .., c => c == mapData || c == RuntimeClass.map
  | row .., c => c == rowData || c == RuntimeClass.row

def primitiveTerm (t : SqlType) : String := t.internalClass.term

def boxedTerm (t : SqlType) : String := t.internalClass.boxedForm.term

/-- What a variable of the internal class holds while its value is null. -/
def defaultValue (t : SqlType) : String :=
  match t.primitive? with
  | some p => p.defaultValue
  | none => "null"

/-- The type that a class stands for. A primitive excludes null; a class without a type of its own
is an array of what its component stands for, or else opaque. -/
def ofClass : RuntimeClass → SqlType
  | .primitive p => simple (.ofPrimitive p) false
  | .boxed p => simple (.ofPrimitive p) true
  | .object name =>
    match SimpleType.ofClass? (.object name) with
    | some t => simple t true
    | none =>
      match _h : (RuntimeClass.object name).component? with
      | some d => array (ofClass d) true
      | none => raw name true
termination_by c => c.depth
decreasing_by exact depth_component _h

end SqlType

end ScalarCall

import ScalarCall.Text.Blank

/-!
Classes of the generated code: primitives, their boxed forms, and all others by name. An array
class is named by its component followed by `[]`; taking components shortens the name, so it comes
to an end.
-/

namespace ScalarCall

/-- The primitive kinds. Their values are never null. -/
inductive Primitive
  | boolean | byte | short | int | long | float | double | char
deriving DecidableEq

namespace Primitive

def all : List Primitive := [boolean, byte, short, int, long, float, double, char]

def term : Primitive → String
  | boolean => "boolean"
  | byte => "byte"
  | short => "short"
  | int => "int"
  | long => "long"
  | float => "float"
  | double => "double"
  | char => "char"

def boxedTerm : Primitive → String
  | boolean => "java.lang.Boolean"
  | byte => "java.lang.Byte"
  | short => "java.lang.Short"
  | int => "java.lang.Integer"
  | long => "java.lang.Long"
  | float => "java.lang.Float"
  | double => "java.lang.Double"
  | char => "java.lang.Character"

/-- The call that takes the value out of the boxed form. -/
def accessor : Primitive → String
  | boolean => "booleanValue()"
  | byte => "byteValue()"
  | short => "shortValue()"
  | int => "intValue()"
  | long => "longValue()"
  | float => "floatValue()"
  | double => "doubleValue()"
  | char => "charValue()"

/-- What a variable holds while its value is null. -/
def defaultValue : Primitive → String
  | boolean => "false"
  | byte => "(byte) -1"
  | short => "(short) -1"
  | int => "-1"
  | long => "-1L"
  | float => "-1.0f"
  | double => "-1.0d"
  | char => "'\\0'"

end Primitive

/-- A class in the signature of a function. -/
inductive RuntimeClass
  | primitive (kind : Primitive)
  | boxed (kind : Primitive)
  | object (name : String)
deriving DecidableEq

namespace RuntimeClass

def term : RuntimeClass → String
  | primitive k => k.term
  | boxed k => k.boxedTerm
  | object name => name

def ofName (name : String) : RuntimeClass :=
  match Primitive.all.find? (·.term == name) with
  | some k => primitive k
  | none =>
    match Primitive.all.find? (·.boxedTerm == name) with
    | some k => boxed k
    | none => object name

def parse (name : String) : RuntimeClass := ofName (Text.trim name)

def isPrimitive : RuntimeClass → Bool
  | primitive _ => true
  | _ => false

/-- The primitive kind of a primitive or of a boxed form. -/
def kind? : RuntimeClass → Option Primitive
  | primitive k | boxed k => some k
  | object _ => none

/-- The boxed form of a primitive; any other class is its own. -/
def boxedForm : RuntimeClass → RuntimeClass
  | primitive k => boxed k
  | c => c

/-- The characters before a final `[]`. -/
def beforeBrackets? (cs : List Char) : Option (List Char) :=
  match cs.reverse with
  | ']' :: '[' :: rest => some rest.reverse
  | _ => none

/-- The class of the elements of an array class. -/
def component? : RuntimeClass → Option RuntimeClass
  | object name => (beforeBrackets? name.toList).map fun cs => parse (.ofList cs)
  | _ => none

def arrayOf (c : RuntimeClass) : RuntimeClass := object (c.term ++ "[]")

/-! ### Components end -/

/-- The length of the name that components are taken from. -/
def depth : RuntimeClass → Nat
  | object name => name.toList.length
  | _ => 0

theorem beforeBrackets?_eq_some {cs ds : List Char} :
    beforeBrackets? cs = some ds ↔ cs = ds ++ ['[', ']'] := by
  unfold beforeBrackets?
  split
  · next rest h =>
    rw [List.reverse_eq_cons_iff] at h
    subst h
    simp only [Option.some.injEq, List.reverse_cons, List.append_assoc, List.cons_append,
      List.nil_append, List.append_cancel_right_eq]
  · next h =>
    simp only [reduceCtorEq, false_iff]
    rintro rfl
    exact h ds.reverse (by simp)

theorem depth_ofName_le (name : String) : (ofName name).depth ≤ name.toList.length := by
  unfold ofName
  split
  · exact Nat.zero_le _
  · split
    · exact Nat.zero_le _
    · exact Nat.le_refl _

theorem depth_parse_le (name : String) : (parse name).depth ≤ name.toList.length := by
  have h := depth_ofName_le (Text.trim name)
  rw [Text.toList_trim] at h
  exact Nat.le_trans h (Text.length_trimChars_le _)

theorem depth_component {c d : RuntimeClass} (h : c.component? = some d) : d.depth < c.depth := by
  cases c with
  | object name =>
    simp only [component?, Option.map_eq_some_iff, beforeBrackets?_eq_some] at h
    obtain ⟨cs, hcs, rfl⟩ := h
    have h := depth_parse_le (.ofList cs)
    rw [String.toList_ofList] at h
    have : (object name).depth = cs.length + 2 := by simp [depth, hcs]
    omega
  | primitive k => simp [component?] at h
  | boxed k => simp [component?] at h

/-- The classes reached by taking components, the nearest first. -/
def components (c : RuntimeClass) : List RuntimeClass :=
  match _h : c.component? with
  | some d => d :: d.components
  | none => []
termination_by c.depth
decreasing_by exact depth_component _h

/-! ### Classes known by name -/

/-- The class of every object. -/
def anyObject : RuntimeClass := object "java.lang.Object"
def text : RuntimeClass := object "java.lang.String"
def bigDecimal : RuntimeClass := object "java.math.BigDecimal"
def byteArray : RuntimeClass := object "byte[]"
def localDate : RuntimeClass := object "java.time.LocalDate"
def localTime : RuntimeClass := object "java.time.LocalTime"
def localDateTime : RuntimeClass := object "java.time.LocalDateTime"
def instant : RuntimeClass := object "java.time.Instant"
def sqlDate : RuntimeClass := object "java.sql.Date"
def sqlTime : RuntimeClass := object "java.sql.Time"
def sqlTimestamp : RuntimeClass := object "java.sql.Timestamp"
def list : RuntimeClass := object "java.util.List"
def map : RuntimeClass := object "java.util.Map"
def row : RuntimeClass := object "dbx.types.Row"
def stringData : RuntimeClass := object "StringData"
def decimalData : RuntimeClass := object "DecimalData"
def timestampData : RuntimeClass := object "TimestampData"
def arrayData : RuntimeClass := object "ArrayData"
def mapData : RuntimeClass := object "MapData"
def rowData : RuntimeClass := object "RowData"
/-- The internal form of values of an opaque class. -/
def rawValueData : RuntimeClass := object "RawValueData"

end RuntimeClass

end ScalarCall

import ScalarCall.SqlType.Basic
import ScalarCall.Text.Term

/-!
The texts of types, as SQL writes them.
-/

namespace ScalarCall

def parameterized (name : String) (parameters : List Nat) : String :=
  Text.applied name (parameters.map toString)

namespace SimpleType

/-- The text without nullability. Texts and bytes of the greatest length have names of their own. -/
def text : SimpleType → String
  | boolean => "BOOLEAN"
  | tinyint => "TINYINT"
  | smallint => "SMALLINT"
  | int => "INT"
  | bigint => "BIGINT"
  | float => "FLOAT"
  | double => "DOUBLE"
  | decimal p s => parameterized "DECIMAL" [p.toNat, s.toNat]
  | char n => parameterized "CHAR" [n.toNat]
  | varchar n => if n = maxLength then "STRING" else parameterized "VARCHAR" [n.toNat]
  | binary n => parameterized "BINARY" [n.toNat]
  | varbinary n => if n = maxLength then "BYTES" else parameterized "VARBINARY" [n.toNat]
  | date => "DATE"
  | time p => parameterized "TIME" [p.toNat]
  | timestamp p => parameterized "TIMESTAMP" [p.toNat]
  | timestampLtz p => parameterized "TIMESTAMP_LTZ" [p.toNat]

/-- The family of types, parameters aside. -/
def familyName : SimpleType → String
  | boolean => "Boolean"
  | tinyint => "TinyInt"
  | smallint => "SmallInt"
  | int => "Integer"
  | bigint => "BigInt"
  | float => "Float"
  | double => "Double"
  | decimal .. => "Decimal"
  | char _ => "Char"
  | varchar _ => "VarChar"
  | binary _ => "Binary"
  | varbinary _ => "VarBinary"
  | date => "Date"
  | time _ => "TimeWithoutTimeZone"
  | timestamp _ => "TimestampWithoutTimeZone"
  | timestampLtz _ => "TimestampWithLocalTimeZone"

end SimpleType

namespace SqlType

def nullSuffix (nullable : Bool) : String := if nullable then "" else " NOT NULL"

mutual
def text : SqlType → String
  | null => "NULL"
  | simple t n => t.text ++ nullSuffix n
  | raw c n => "RAW('" ++ c ++ "')" ++ nullSuffix n
  | array e n => "ARRAY<" ++ text e ++ ">" ++ nullSuffix n
  | map k v n => "MAP<" ++ text k ++ ", " ++ text v ++ ">" ++ nullSuffix n
  | row fs n => "ROW<" ++ ", ".intercalate (fieldTexts fs) ++ ">" ++ nullSuffix n
def fieldTexts : List (String × SqlType) → List String
  | [] => []
  | (name, t) :: fs => (name ++ " " ++ text t) :: fieldTexts fs
end

/-- The family of types, parameters aside. -/
def familyName : SqlType → String
  | null => "Null"
  | simple t _ => t.familyName
  | raw .. => "Raw"
  | array .. => "Array"
  | map .. => "Map"
  | row .. => "Row"

end SqlType

end ScalarCall

import ScalarCall.Number.Binary
import ScalarCall.SqlType.Basic
import ScalarCall.Text.Quoted
import ScalarCall.Text.Term

/-!
Literals in internal form and the values that functions see for them.
-/

namespace ScalarCall

open Number

/-- A literal in internal form. -/
inductive Literal
  | null
  | boolean (value : Bool)
  | int8 (value : Int8)
  | int16 (value : Int16)
  | int32 (value : Int32)
  | int64 (value : Int64)
  | float32 (value : Binary32)
  | float64 (value : Binary64)
  | utf8 (value : String)
  | binary (value : List UInt8)
  /-- `unscaled / 10 ^ scale`. -/
  | decimal128 (unscaled : Int) (precision scale : UInt8)
  /-- Days since 1970. -/
  | date32 (days : Int32)
  /-- Milliseconds since midnight. -/
  | time32 (millis : Int32)
  /-- Milliseconds since 1970. -/
  | timestampMillis (millis : Int64)
deriving DecidableEq

namespace Literal

def isNull : Literal → Bool
  | null => true
  | _ => false

def tagged (name payload : String) : String := Text.applied name [payload]

/-- The text that names the variant and shows the payload. -/
def text : Literal → String
  | null => "Null"
  | boolean v => tagged "Boolean" (toString v)
  | int8 v => tagged "Int8" (toString v.toInt)
  | int16 v => tagged "Int16" (toString v.toInt)
  | int32 v => tagged "Int32" (toString v.toInt)
  | int64 v => tagged "Int64" (toString v.toInt)
  | float32 v => tagged "Float32" (v.text .precise)
  | float64 v => tagged "Float64" (v.text .precise)
  | utf8 v => tagged "Utf8" (Text.quote v)
  | binary v => tagged "Binary" (Text.listed (v.map (toString ·.toNat)))
  | decimal128 v p s =>
    Text.labelled "Decimal128" [("value", toString v), ("precision", toString p.toNat),
      ("scale", toString s.toNat)]
  | date32 v => tagged "Date32" (toString v.toInt)
  | time32 v => tagged "Time32" (toString v.toInt)
  | timestampMillis v => tagged "TimestampMillis" (toString v.toInt)

end Literal

/-- A literal as a function sees it. -/
inductive ExternalLiteral
  | null
  | boolean (value : Bool)
  | byte (value : Int8)
  | short (value : Int16)
  | int (value : Int32)
  | long (value : Int64)
  | float (value : Binary32)
  | double (value : Binary64)
  | string (value : String)
  | bytes (value : List UInt8)
  /-- `unscaled / 10 ^ scale`. -/
  | bigDecimal (unscaled : Int) (scale : UInt8)
  /-- Days since 1970. -/
  | localDate (days : Int32)
  /-- Milliseconds since midnight. -/
  | localTime (millis : Int32)
  /-- Milliseconds since 1970. -/
  | localDateTime (millis : Int64)
  /-- Milliseconds since 1970. -/
  | instant (millis : Int64)
deriving DecidableEq

namespace ExternalLiteral

/-- The text of a value. Only numbers whose kind does not show have a suffix. -/
def text : ExternalLiteral → String
  | null => "null"
  | boolean v => toString v
  | byte v => toString v.toInt
  | short v => toString v.toInt
  | int v => toString v.toInt
  | long v => toString v.toInt ++ "L"
  | float v => v.text .plain ++ "f"
  | double v => v.text .plain ++ "d"
  | string v => Text.quote v
  | bytes v => "x'" ++ Text.hexBytes v ++ "'"
  | bigDecimal v s => decimalText v s.toNat
  | localDate v => Literal.tagged "LocalDate" (toString v.toInt)
  | localTime v => Literal.tagged "LocalTime" (toString v.toInt)
  | localDateTime v => Literal.tagged "LocalDateTime" (toString v.toInt)
  | instant v => Literal.tagged "Instant" (toString v.toInt)

end ExternalLiteral

/-- The value that a function sees for a literal of a type; none if the literal is not of that
type. -/
def Literal.external? : Literal → SqlType → Option ExternalLiteral
  | null, _ => some .null
  | boolean v, .simple .boolean _ => some (.boolean v)
  | int8 v, .simple .tinyint _ => some (.byte v)
  | int16 v, .simple .smallint _ => some (.short v)
  | int32 v, .simple .int _ => some (.int v)
  | int64 v, .simple .bigint _ => some (.long v)
  | float32 v, .simple .float _ => some (.float v)
  | float64 v, .simple .double _ => some (.double v)
  | utf8 v, .simple (.char _) _ | utf8 v, .simple (.varchar _) _ => some (.string v)
  | binary v, .simple (.binary _) _ | binary v, .simple (.varbinary _) _ => some (.bytes v)
  | decimal128 v _ s, .simple (.decimal ..) _ => some (.bigDecimal v s)
  | date32 v, .simple .date _ => some (.localDate v)
  | time32 v, .simple (.time _) _ => some (.localTime v)
  | timestampMillis v, .simple (.timestamp _) _ => some (.localDateTime v)
  | timestampMillis v, .simple (.timestampLtz _) _ => some (.instant v)
  | _, _ => none

end ScalarCall

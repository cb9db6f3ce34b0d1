import ScalarCall.Arrow.Basic
import ScalarCall.SqlType.Basic

/-!
The SQL type of an Arrow column, and the Arrow column that holds the values of a SQL type. Neither
way keeps everything: Arrow has one type of text and four precisions of time, and names the parts
of lists and maps.
-/

namespace ScalarCall.Arrow

/-- Why a type has no counterpart. -/
inductive Refusal
  | negativeLength (length : Int32)
  | negativeScale (scale : Int8)
  | malformedEntries (type : ColumnType)
  | noSqlType (type : ColumnType)
  | opaqueClass (className : String)

def Refusal.message : Refusal → String
  | negativeLength n =>
    "arrow error: negative fixed-size binary length " ++ toString n.toInt ++ " is not supported"
  | negativeScale s =>
    "arrow error: negative decimal scale " ++ toString s.toInt ++ " is not supported"
  | malformedEntries t => "arrow error: malformed map entries type " ++ t.text
  | noSqlType t => "arrow error: arrow type " ++ t.text ++ " has no logical type"
  | opaqueClass c => "arrow error: RAW('" ++ c ++ "') cannot be stored in an arrow column"

/-- The number of decimal places of seconds that a unit has. -/
def TimeUnit.precision : TimeUnit → UInt8
  | second => 0
  | millisecond => 3
  | microsecond => 6
  | nanosecond => 9

/-- The coarsest unit with the given number of places, or else the finest one. -/
def TimeUnit.ofPrecision (p : UInt8) : TimeUnit :=
  if p = 0 then second
  else if p ≤ 3 then millisecond
  else if p ≤ 6 then microsecond
  else nanosecond

/-! ### From columns to SQL types -/

def Atom.sqlType (nullable : Bool) : Atom → Except Refusal SqlType
  | null => .ok .null
  | boolean => .ok (.simple .boolean nullable)
  | int8 => .ok (.simple .tinyint nullable)
  | int16 => .ok (.simple .smallint nullable)
  | int32 => .ok (.simple .int nullable)
  | int64 => .ok (.simple .bigint nullable)
  | float32 => .ok (.simple .float nullable)
  | float64 => .ok (.simple .double nullable)
  | utf8 | largeUtf8 => .ok (.simple (.varchar maxLength) nullable)
  | binary | largeBinary => .ok (.simple (.varbinary maxLength) nullable)
  | fixedSizeBinary n =>
    if n < 0 then .error (.negativeLength n) else .ok (.simple (.binary n.toUInt32) nullable)
  | decimal128 p s =>
    if s < 0 then .error (.negativeScale s) else .ok (.simple (.decimal p s.toUInt8) nullable)
  | date32 => .ok (.simple .date nullable)
  | time32 u | time64 u => .ok (.simple (.time u.precision) nullable)
  | timestamp u none => .ok (.simple (.timestamp u.precision) nullable)
  | timestamp u (some _) => .ok (.simple (.timestampLtz u.precision) nullable)
  | a => .error (.noSqlType (.atom a))

mutual
def ColumnType.sqlType (t : ColumnType) (nullable : Bool) : Except Refusal SqlType :=
  match t with
  | .atom a => a.sqlType nullable
  | .list ⟨_, t, n⟩ | .largeList ⟨_, t, n⟩ => do return .array (← t.sqlType n) nullable
  | .struct fs => do return .row (← sqlFields fs) nullable
  | .map ⟨_, .struct [⟨_, k, m⟩, ⟨_, v, n⟩], _⟩ _ => do
    let k ← k.sqlType m
    let v ← v.sqlType n
    return .map k v nullable
  | .map ⟨_, t, _⟩ _ => .error (.malformedEntries t)
  | .listView f => .error (.noSqlType (.listView f))
  | .largeListView f => .error (.noSqlType (.largeListView f))
  | .fixedSizeList f n => .error (.noSqlType (.fixedSizeList f n))
  | .union as mode => .error (.noSqlType (.union as mode))
  | .dictionary k v => .error (.noSqlType (.dictionary k v))
  | .runEndEncoded ends values => .error (.noSqlType (.runEndEncoded ends values))
/-- The fields of a row, up to the first that has no type. -/
def sqlFields : List (Field ColumnType) → Except Refusal (List (String × SqlType))
  | [] => .ok []
  | ⟨name, t, n⟩ :: fs => do
    let t ← t.sqlType n
    let rest ← sqlFields fs
    return (name, t) :: rest
end

def Field.sqlType (f : Field ColumnType) : Except Refusal SqlType := f.type.sqlType f.nullable

/-! ### From SQL types to columns -/

/-- The column type of a simple type. A time of at most three places fits into 32 bits. -/
def atomOf : SimpleType → Atom
  | .boolean => .boolean
  | .tinyint => .int8
  | .smallint => .int16
  | .int => .int32
  | .bigint => .int64
  | .float => .float32
  | .double => .float64
  | .decimal p s => .decimal128 p s.toInt8
  | .char _ | .varchar _ => .utf8
  | .binary n => if n = maxLength then .binary else .fixedSizeBinary n.toInt32
  | .varbinary _ => .binary
  | .date => .date32
  | .time p =>
    match TimeUnit.ofPrecision p with
    | .second => .time32 .second
    | .millisecond => .time32 .millisecond
    | u => .time64 u
  | .timestamp p => .timestamp (.ofPrecision p) none
  | .timestampLtz p => .timestamp (.ofPrecision p) (some "UTC")

mutual
/-- The type of the column that holds the values of a type. Values of an opaque class have none. -/
def columnType : SqlType → Except Refusal ColumnType
  | .null => .ok (.atom .null)
  | .simple t _ => .ok (.atom (atomOf t))
  | .raw c _ => .error (.opaqueClass c)
  | .array e _ => do return .list ⟨"item", ← columnType e, e.isNullable⟩
  | .map k v _ => do
    let key ← columnType k
    let value ← columnType v
    let entries := .struct [⟨"key", key, false⟩, ⟨"value", value, v.isNullable⟩]
    return .map ⟨"entries", entries, false⟩ false
  | .row fs _ => do return .struct (← columnFields fs)
def columnFields : List (String × SqlType) → Except Refusal (List (Field ColumnType))
  | [] => .ok []
  | (name, t) :: fs => do
    let type ← columnType t
    let rest ← columnFields fs
    return ⟨name, type, t.isNullable⟩ :: rest
end

end ScalarCall.Arrow

import ScalarCall.Literal

/-!
The types of Arrow columns and their texts.
-/

namespace ScalarCall.Arrow

open Text (applied labelled listed)

inductive TimeUnit
  | second | millisecond | microsecond | nanosecond
deriving DecidableEq

inductive IntervalUnit
  | yearMonth | dayTime | monthDayNano
deriving DecidableEq

/-- Types without parts. -/
inductive Atom
  | null | boolean
  | int8 | int16 | int32 | int64
  | uint8 | uint16 | uint32 | uint64
  | float16 | float32 | float64
  | utf8 | largeUtf8 | utf8View
  | binary | largeBinary | binaryView
  | fixedSizeBinary (length : Int32)
  | decimal128 (precision : UInt8) (scale : Int8)
  | decimal256 (precision : UInt8) (scale : Int8)
  | date32 | date64
  | time32 (unit : TimeUnit)
  | time64 (unit : TimeUnit)
  | duration (unit : TimeUnit)
  | interval (unit : IntervalUnit)
  | timestamp (unit : TimeUnit) (zone : Option String)
deriving DecidableEq

/-- A named part and whether it may be null. -/
structure Field (α : Type) where
  name : String
  type : α
  nullable : Bool

/-- How the values of a union are laid out. -/
inductive UnionMode
  | sparse | dense
deriving DecidableEq

/-- The type of a column. The alternatives of a union are numbered, in any way. -/
inductive ColumnType
  | atom (type : Atom)
  | list (item : Field ColumnType)
  | largeList (item : Field ColumnType)
  | listView (item : Field ColumnType)
  | largeListView (item : Field ColumnType)
  | fixedSizeList (item : Field ColumnType) (length : Int32)
  | struct (fields : List (Field ColumnType))
  | union (alternatives : List (Int8 × Field ColumnType)) (mode : UnionMode)
  | map (entries : Field ColumnType) (sorted : Bool)
  | dictionary (key value : ColumnType)
  | runEndEncoded (runEnds values : Field ColumnType)

/-! ### Texts -/

def TimeUnit.text : TimeUnit → String
  | second => "Second"
  | millisecond => "Millisecond"
  | microsecond => "Microsecond"
  | nanosecond => "Nanosecond"

def IntervalUnit.text : IntervalUnit → String
  | yearMonth => "YearMonth"
  | dayTime => "DayTime"
  | monthDayNano => "MonthDayNano"

def UnionMode.text : UnionMode → String
  | sparse => "Sparse"
  | dense => "Dense"

def Atom.text : Atom → String
  | null => "Null"
  | boolean => "Boolean"
  | int8 => "Int8"
  | int16 => "Int16"
  | int32 => "Int32"
  | int64 => "Int64"
  | uint8 => "UInt8"
  | uint16 => "UInt16"
  | uint32 => "UInt32"
  | uint64 => "UInt64"
  | float16 => "Float16"
  | float32 => "Float32"
  | float64 => "Float64"
  | utf8 => "Utf8"
  | largeUtf8 => "LargeUtf8"
  | utf8View => "Utf8View"
  | binary => "Binary"
  | largeBinary => "LargeBinary"
  | binaryView => "BinaryView"
  | fixedSizeBinary n => applied "FixedSizeBinary" [toString n.toInt]
  | decimal128 p s => applied "Decimal128" [toString p.toNat, toString s.toInt]
  | decimal256 p s => applied "Decimal256" [toString p.toNat, toString s.toInt]
  | date32 => "Date32"
  | date64 => "Date64"
  | time32 u => applied "Time32" [u.text]
  | time64 u => applied "Time64" [u.text]
  | duration u => applied "Duration" [u.text]
  | interval u => applied "Interval" [u.text]
  | timestamp u none => applied "Timestamp" [u.text, "None"]
  | timestamp u (some z) => applied "Timestamp" [u.text, applied "Some" [Text.quote z]]

mutual
def ColumnType.text : ColumnType → String
  | .atom a => a.text
  | .list f => applied "List" [fieldText f]
  | .largeList f => applied "LargeList" [fieldText f]
  | .listView f => applied "ListView" [fieldText f]
  | .largeListView f => applied "LargeListView" [fieldText f]
  | .fixedSizeList f n => applied "FixedSizeList" [fieldText f, toString n.toInt]
  | .struct fs => applied "Struct" [listed (fieldTexts fs)]
  | .union as mode => applied "Union" [listed (alternativeTexts as), mode.text]
  | .map f sorted => applied "Map" [fieldText f, toString sorted]
  | .dictionary k v => applied "Dictionary" [ColumnType.text k, ColumnType.text v]
  | .runEndEncoded ends values => applied "RunEndEncoded" [fieldText ends, fieldText values]
/-- The text of a field; no field has a dictionary of its own or metadata. -/
def fieldText : Field ColumnType → String
  | ⟨name, type, nullable⟩ =>
    labelled "Field" [("name", Text.quote name), ("data_type", ColumnType.text type),
      ("nullable", toString nullable), ("dict_id", "0"), ("dict_is_ordered", "false"),
      ("metadata", "\x7b\x7d")]
def fieldTexts : List (Field ColumnType) → List String
  | [] => []
  | f :: fs => fieldText f :: fieldTexts fs
def alternativeTexts : List (Int8 × Field ColumnType) → List String
  | [] => []
  | (id, f) :: as => applied "" [toString id.toInt, fieldText f] :: alternativeTexts as
end

/-- Induction over a column type, fields by their types. -/
theorem ColumnType.induct {P : ColumnType → Prop} (atom : ∀ a, P (.atom a))
    (list : ∀ f, P f.type → P (.list f)) (largeList : ∀ f, P f.type → P (.largeList f))
    (listView : ∀ f, P f.type → P (.listView f))
    (largeListView : ∀ f, P f.type → P (.largeListView f))
    (fixedSizeList : ∀ f n, P f.type → P (.fixedSizeList f n))
    (struct : ∀ fs, (∀ f ∈ fs, P f.type) → P (.struct fs))
    (union : ∀ as mode, (∀ a ∈ as, P a.2.type) → P (.union as mode))
    (map : ∀ f s, P f.type → P (.map f s))
    (dictionary : ∀ k v, P k → P v → P (.dictionary k v))
    (runEndEncoded : ∀ e v, P e.type → P v.type → P (.runEndEncoded e v)) (t : ColumnType) : P t :=
  ColumnType.rec (motive_1 := P) (motive_2 := fun f => P f.type)
    (motive_3 := fun fs => ∀ f ∈ fs, P f.type) (motive_4 := fun as => ∀ a ∈ as, P a.2.type)
    (motive_5 := fun a => P a.2.type) atom list largeList listView largeListView fixedSizeList
    struct union map dictionary runEndEncoded (fun _ _ _ h => h) (fun _ h => nomatch h)
    (fun _ _ hf hfs g hg => (List.mem_cons.1 hg).elim (fun e => e ▸ hf) (hfs g))
    (fun _ h => nomatch h)
    (fun _ _ ha has b hb => (List.mem_cons.1 hb).elim (fun e => e ▸ ha) (has b))
    (fun _ _ h => h) t

/-- The type of the column that holds a literal. -/
def columnOf : Literal → ColumnType
  | .null => .atom .null
  | .boolean _ => .atom .boolean
  | .int8 _ => .atom .int8
  | .int16 _ => .atom .int16
  | .int32 _ => .atom .int32
  | .int64 _ => .atom .int64
  | .float32 _ => .atom .float32
  | .float64 _ => .atom .float64
  | .utf8 _ => .atom .utf8
  | .binary _ => .atom .binary
  | .decimal128 _ p s => .atom (.decimal128 p s.toInt8)
  | .date32 _ => .atom .date32
  | .time32 _ => .atom (.time32 .millisecond)
  | .timestampMillis _ => .atom (.timestamp .millisecond none)

end ScalarCall.Arrow

import ScalarCall.Proofs.Arrow.Bridge

/-!
Columns that go through a SQL type. Some column types are read as a SQL type, at every depth, and
the column written for that type is the first one in a normal form.
-/

namespace ScalarCall.Arrow

/-! ### What is read, and what is written back -/

/-- The types without parts that are read. Lengths and scales must not be negative. -/
def Atom.IsReadable : Atom → Prop
  | null | boolean | int8 | int16 | int32 | int64 | float32 | float64 | utf8 | largeUtf8 | binary
  | largeBinary | date32 | time32 _ | time64 _ | timestamp .. => True
  | fixedSizeBinary n => 0 ≤ n
  | decimal128 _ s => 0 ≤ s
  | _ => False

/-- The column types that are read. The entries of a map are a structure of two fields. -/
inductive ColumnType.IsReadable : ColumnType → Prop
  | atom {a : Atom} (h : a.IsReadable) : IsReadable (.atom a)
  | list {f : Field ColumnType} (h : IsReadable f.type) : IsReadable (.list f)
  | largeList {f : Field ColumnType} (h : IsReadable f.type) : IsReadable (.largeList f)
  | struct {fs : List (Field ColumnType)} (h : ∀ f ∈ fs, IsReadable f.type) :
    IsReadable (.struct fs)
  | map {key value : Field ColumnType} (name : String) (nullable sorted : Bool)
    (hk : IsReadable key.type) (hv : IsReadable value.type) :
    IsReadable (.map ⟨name, .struct [key, value], nullable⟩ sorted)

/-- A type without parts as it is written back. Long and short forms become one, a time is as wide
as its unit asks for, and every zone becomes the same. -/
def Atom.rewritten : Atom → Atom
  | largeUtf8 => utf8
  | largeBinary => binary
  | fixedSizeBinary n => if n = 2147483647 then binary else fixedSizeBinary n
  | time32 u | time64 u => if u = .second ∨ u = .millisecond then time32 u else time64 u
  | timestamp u (some _) => timestamp u (some "UTC")
  | a => a

/-- Whether nulls are all that the column holds. -/
def ColumnType.isNull : ColumnType → Bool
  | .atom .null => true
  | _ => false

mutual
/-- A column type as it is written back. The fields of structures keep their names; those of lists
and maps get fixed ones. -/
def ColumnType.rewritten : ColumnType → ColumnType
  | .atom a => .atom a.rewritten
  | .list f | .largeList f => .list (rewrittenField "item" f)
  | .struct fs => .struct (rewrittenFields fs)
  | .map ⟨_, .struct [⟨_, k, _⟩, v], _⟩ _ =>
    .map ⟨"entries", .struct [⟨"key", k.rewritten, false⟩, rewrittenField "value" v], false⟩ false
  | t => t
/-- A field as it is written back, under the given name. A column of nulls may be null. -/
def rewrittenField (name : String) : Field ColumnType → Field ColumnType
  | ⟨_, t, n⟩ => ⟨name, t.rewritten, n || t.isNull⟩
def rewrittenFields : List (Field ColumnType) → List (Field ColumnType)
  | [] => []
  | f :: fs => rewrittenField f.name f :: rewrittenFields fs
end

variable {n : Bool} {t : SqlType} {c : ColumnType} {a : Atom}

/-! ### Types without parts -/

lemma Atom.isReadable_of_sqlType (h : a.sqlType n = .ok t) : a.IsReadable := by
  cases a with
  | fixedSizeBinary l =>
    rw [Atom.sqlType_fixedSizeBinary] at h
    split_ifs at h with hl
    exact Int32.not_lt.1 hl
  | decimal128 p s =>
    rw [Atom.sqlType_decimal128] at h
    split_ifs at h with hs
    exact Int8.not_lt.1 hs
  | uint8 | uint16 | uint32 | uint64 | float16 | utf8View | binaryView | decimal256 | date64
  | duration | interval => cases h
  | _ => trivial

lemma Atom.exists_sqlType (h : a.IsReadable) (n : Bool) : ∃ t, a.sqlType n = .ok t := by
  cases a with
  | fixedSizeBinary l => exact ⟨_, if_neg (Int32.not_lt.2 h)⟩
  | decimal128 p s => exact ⟨_, if_neg (Int8.not_lt.2 h)⟩
  | timestamp u zone => cases zone <;> exact ⟨_, rfl⟩
  | uint8 | uint16 | uint32 | uint64 | float16 | utf8View | binaryView | decimal256 | date64
  | duration | interval => cases h
  | _ => exact ⟨_, rfl⟩

lemma ofPrecision_precision (u : TimeUnit) : TimeUnit.ofPrecision u.precision = u := by
  cases u <;> rfl

lemma toUInt32_eq_maxLength_iff {l : Int32} : l.toUInt32 = maxLength ↔ l = 2147483647 := by
  constructor
  · intro h
    rw [← l.toInt32_toUInt32, h]
    rfl
  · rintro rfl
    rfl

lemma Atom.columnType_of_sqlType (h : a.sqlType n = .ok t) :
    columnType t = .ok (.atom a.rewritten) := by
  cases a with
  | fixedSizeBinary l =>
    rw [Atom.sqlType_fixedSizeBinary] at h
    split_ifs at h
    cases h
    simp only [columnType, atomOf, toUInt32_eq_maxLength_iff, Int32.toInt32_toUInt32, rewritten]
  | decimal128 p s =>
    rw [Atom.sqlType_decimal128] at h
    split_ifs at h
    cases h
    simp only [columnType, atomOf, Int8.toInt8_toUInt8, rewritten]
  | time32 u | time64 u =>
    cases h
    cases u <;> rfl
  | timestamp u zone =>
    cases zone <;> cases h <;> simp only [columnType, atomOf, ofPrecision_precision, rewritten]
  | uint8 | uint16 | uint32 | uint64 | float16 | utf8View | binaryView | decimal256 | date64
  | duration | interval => cases h
  | _ =>
    cases h
    rfl

lemma Atom.isNullable_of_sqlType (h : a.sqlType n = .ok t) :
    t.isNullable = (n || (ColumnType.atom a).isNull) := by
  cases a with
  | null =>
    cases h
    simp [SqlType.isNullable, ColumnType.isNull]
  | fixedSizeBinary | decimal128 =>
    simp only [Atom.sqlType_fixedSizeBinary, Atom.sqlType_decimal128] at h
    split_ifs at h
    cases h
    simp [SqlType.isNullable, ColumnType.isNull]
  | timestamp u zone =>
    cases zone <;> cases h <;> simp [SqlType.isNullable, ColumnType.isNull]
  | uint8 | uint16 | uint32 | uint64 | float16 | utf8View | binaryView | decimal256 | date64
  | duration | interval => cases h
  | _ =>
    cases h
    simp [SqlType.isNullable, ColumnType.isNull]

/-! ### Which columns are read -/

lemma exists_sqlType_of_sqlFields {fs : List (Field ColumnType)} {gs : List (String × SqlType)}
    (h : sqlFields fs = .ok gs) : ∀ f ∈ fs, ∃ t, f.sqlType = .ok t := by
  induction fs generalizing gs with
  | nil => exact fun f hf => absurd hf List.not_mem_nil
  | cons f fs ih =>
    obtain ⟨t, rest, ht, hrest, -⟩ := sqlFields_cons_eq_ok.1 h
    exact List.forall_mem_cons.2 ⟨⟨t, ht⟩, ih hrest⟩

lemma exists_sqlFields {fs : List (Field ColumnType)} (h : ∀ f ∈ fs, ∃ t, f.sqlType = .ok t) :
    ∃ gs, sqlFields fs = .ok gs := by
  induction fs with
  | nil => exact ⟨[], rfl⟩
  | cons f fs ih =>
    obtain ⟨⟨t, ht⟩, hfs⟩ := List.forall_mem_cons.1 h
    obtain ⟨gs, hgs⟩ := ih hfs
    exact ⟨_, sqlFields_cons_eq_ok.2 ⟨t, gs, ht, hgs, rfl⟩⟩

lemma isReadable_of_sqlType (h : c.sqlType n = .ok t) : c.IsReadable := by
  induction c using ColumnType.induct generalizing n t with
  | atom a => exact .atom (Atom.isReadable_of_sqlType (by simpa only [ColumnType.sqlType] using h))
  | list f ih =>
    obtain ⟨e, he, -⟩ := sqlType_list_eq_ok.1 h
    exact .list (ih he)
  | largeList f ih =>
    rw [sqlType_largeList] at h
    obtain ⟨e, he, -⟩ := sqlType_list_eq_ok.1 h
    exact .largeList (ih he)
  | struct fs ih =>
    obtain ⟨gs, hgs, -⟩ := sqlType_struct_eq_ok.1 h
    refine .struct fun f hf => ?_
    obtain ⟨t, ht⟩ := exists_sqlType_of_sqlFields hgs f hf
    exact ih f hf ht
  | map entries sorted ih =>
    obtain ⟨name, type, m⟩ := entries
    obtain ⟨key, value, k, v, rfl, hk, hv, -⟩ := sqlType_map_eq_ok.1 h
    -- the entries are a structure that is read in its own right
    have hfields : sqlFields [key, value] = .ok [(key.name, k), (value.name, v)] :=
      sqlFields_cons_eq_ok.2 ⟨k, _, hk, sqlFields_cons_eq_ok.2 ⟨v, _, hv, rfl, rfl⟩, rfl⟩
    have hstruct := ih (sqlType_struct_eq_ok (n := true).2 ⟨_, hfields, rfl⟩)
    cases hstruct with
    | struct hfs => exact .map name m sorted (hfs key (by simp)) (hfs value (by simp))
  | listView | largeListView | fixedSizeList | union | dictionary | runEndEncoded => cases h

lemma exists_sqlType (h : c.IsReadable) (n : Bool) : ∃ t, c.sqlType n = .ok t := by
  induction h generalizing n with
  | atom h =>
    rw [ColumnType.sqlType]
    exact Atom.exists_sqlType h n
  | @list f h ih =>
    obtain ⟨e, he⟩ := ih f.nullable
    exact ⟨_, sqlType_list_eq_ok.2 ⟨e, he, rfl⟩⟩
  | @largeList f h ih =>
    obtain ⟨e, he⟩ := ih f.nullable
    rw [sqlType_largeList]
    exact ⟨_, sqlType_list_eq_ok.2 ⟨e, he, rfl⟩⟩
  | struct h ih =>
    obtain ⟨gs, hgs⟩ := exists_sqlFields fun f hf => ih f hf f.nullable
    exact ⟨_, sqlType_struct_eq_ok.2 ⟨gs, hgs, rfl⟩⟩
  | @map key value name m sorted hk hv ihk ihv =>
    obtain ⟨k, hk⟩ := ihk key.nullable
    obtain ⟨v, hv⟩ := ihv value.nullable
    exact ⟨_, sqlType_map_eq_ok.2 ⟨key, value, k, v, rfl, hk, hv, rfl⟩⟩

/-! ### Which columns are written back -/

/-- A column that is read admits null if it was said to, or if it holds nothing else. -/
lemma isNullable_of_sqlType (h : c.sqlType n = .ok t) : t.isNullable = (n || c.isNull) := by
  cases c with
  | atom a => exact Atom.isNullable_of_sqlType (by simpa only [ColumnType.sqlType] using h)
  | list f =>
    obtain ⟨e, -, rfl⟩ := sqlType_list_eq_ok.1 h
    simp [SqlType.isNullable, ColumnType.isNull]
  | largeList f =>
    rw [sqlType_largeList] at h
    obtain ⟨e, -, rfl⟩ := sqlType_list_eq_ok.1 h
    simp [SqlType.isNullable, ColumnType.isNull]
  | struct fs =>
    obtain ⟨gs, -, rfl⟩ := sqlType_struct_eq_ok.1 h
    simp [SqlType.isNullable, ColumnType.isNull]
  | map entries sorted =>
    obtain ⟨_, _, k, v, -, -, -, rfl⟩ := sqlType_map_eq_ok.1 h
    simp [SqlType.isNullable, ColumnType.isNull]
  | listView | largeListView | fixedSizeList | union | dictionary | runEndEncoded => cases h

lemma field_eq_rewrittenField {f : Field ColumnType} (ht : f.sqlType = .ok t) (name : String) :
    (⟨name, f.type.rewritten, t.isNullable⟩ : Field ColumnType) = rewrittenField name f := by
  obtain ⟨_, type, m⟩ := f
  rw [isNullable_of_sqlType ht, rewrittenField]

lemma columnFields_of_sqlFields {fs : List (Field ColumnType)} {gs : List (String × SqlType)}
    (h : ∀ f ∈ fs, ∀ t, f.sqlType = .ok t → columnType t = .ok f.type.rewritten)
    (hgs : sqlFields fs = .ok gs) : columnFields gs = .ok (rewrittenFields fs) := by
  induction fs generalizing gs with
  | nil =>
    cases hgs
    rfl
  | cons f fs ih =>
    obtain ⟨hf, hfs⟩ := List.forall_mem_cons.1 h
    obtain ⟨t, rest, ht, hrest, rfl⟩ := sqlFields_cons_eq_ok.1 hgs
    rw [rewrittenFields, ← field_eq_rewrittenField ht]
    exact columnFields_cons_eq_ok.2 ⟨_, _, hf t ht, ih hfs hrest, rfl⟩

lemma columnType_of_sqlType (hc : c.IsReadable) (h : c.sqlType n = .ok t) :
    columnType t = .ok c.rewritten := by
  induction hc generalizing n t with
  | @atom a ha =>
    rw [ColumnType.rewritten]
    exact Atom.columnType_of_sqlType (by simpa only [ColumnType.sqlType] using h)
  | @list f hf ih =>
    obtain ⟨e, he, rfl⟩ := sqlType_list_eq_ok.1 h
    rw [ColumnType.rewritten, ← field_eq_rewrittenField he]
    exact columnType_array_eq_ok.2 ⟨_, ih he, rfl⟩
  | @largeList f hf ih =>
    rw [sqlType_largeList] at h
    obtain ⟨e, he, rfl⟩ := sqlType_list_eq_ok.1 h
    rw [ColumnType.rewritten, ← field_eq_rewrittenField he]
    exact columnType_array_eq_ok.2 ⟨_, ih he, rfl⟩
  | struct hfs ih =>
    obtain ⟨gs, hgs, rfl⟩ := sqlType_struct_eq_ok.1 h
    rw [ColumnType.rewritten]
    exact columnType_row_eq_ok.2
      ⟨_, columnFields_of_sqlFields (fun f hf t ht => ih f hf ht) hgs, rfl⟩
  | @map key value name m sorted hk hv ihk ihv =>
    obtain ⟨_, _, k, v, ⟨⟩, hk, hv, rfl⟩ := sqlType_map_eq_ok.1 h
    obtain ⟨keyName, keyType, l⟩ := key
    rw [ColumnType.rewritten, ← field_eq_rewrittenField hv]
    exact columnType_map_eq_ok.2 ⟨_, _, ihk hk, ihv hv, rfl⟩

/-- **Which columns are read, and how they are written back**: those of the grammar, and no
others, under every nullability; and what is read from one is written as its normal form. -/
theorem columnType_sqlType (c : ColumnType) (n : Bool) :
    ((∃ t, c.sqlType n = .ok t) ↔ c.IsReadable) ∧
    ∀ d, (c.sqlType n >>= columnType) = .ok d ↔ c.IsReadable ∧ d = c.rewritten := by
  refine ⟨⟨fun ⟨t, ht⟩ => isReadable_of_sqlType ht, fun h => exists_sqlType h n⟩, fun d => ?_⟩
  rw [bind_eq_ok]
  constructor
  · rintro ⟨t, ht, hd⟩
    have hc := isReadable_of_sqlType ht
    rw [columnType_of_sqlType hc ht] at hd
    cases hd
    exact ⟨hc, rfl⟩
  · rintro ⟨hc, rfl⟩
    obtain ⟨t, ht⟩ := exists_sqlType hc n
    exact ⟨t, ht, columnType_of_sqlType hc ht⟩

/-- A list that is not a long one is read, but its field does not keep its name. -/
theorem list_field_not_kept :
    let c : ColumnType := .list ⟨"x", .atom .int32, true⟩
    c.IsReadable ∧ (c.sqlType true >>= columnType) = .ok (.list ⟨"item", .atom .int32, true⟩) ∧
      (c.sqlType true >>= columnType) ≠ .ok c := by
  intro c
  have h : (c.sqlType true >>= columnType) = .ok (.list ⟨"item", .atom .int32, true⟩) := rfl
  refine ⟨.list (.atom trivial), h, fun hc => ?_⟩
  rw [h] at hc
  simp only [c, Except.ok.injEq, ColumnType.list.injEq, Field.mk.injEq] at hc
  exact absurd hc.1 (by decide)

end ScalarCall.Arrow

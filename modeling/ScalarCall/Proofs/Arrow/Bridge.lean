import Mathlib.Tactic.Common
import ScalarCall.Arrow.Bridge

/-!
The two ways between SQL types and columns, taken apart. A type made of parts has a counterpart if
all its parts have one, and it is made of theirs.
-/

namespace ScalarCall.Arrow

variable {α β : Type} {n : Bool} {t u : SqlType} {c d : ColumnType}

lemma bind_eq_ok {x : Except Refusal α} {f : α → Except Refusal β} {b : β} :
    (x >>= f) = .ok b ↔ ∃ a, x = .ok a ∧ f a = .ok b := by
  cases x with
  | error e =>
    constructor
    · intro h
      cases h
    · rintro ⟨a, ha, -⟩
      cases ha
  | ok a =>
    constructor
    · intro h
      exact ⟨a, rfl, h⟩
    · rintro ⟨a', ⟨⟩, h⟩
      exact h

lemma pure_eq_ok {a b : α} : (pure a : Except Refusal α) = .ok b ↔ b = a := by
  constructor
  · intro h
    cases h
    rfl
  · rintro rfl
    rfl

/-! ### From columns to SQL types -/

lemma Atom.sqlType_fixedSizeBinary (l : Int32) : (fixedSizeBinary l).sqlType n =
    if l < 0 then .error (.negativeLength l) else .ok (.simple (.binary l.toUInt32) n) := rfl

lemma Atom.sqlType_decimal128 (p : UInt8) (s : Int8) : (decimal128 p s).sqlType n =
    if s < 0 then .error (.negativeScale s) else .ok (.simple (.decimal p s.toUInt8) n) := rfl

lemma sqlType_list_eq_ok {f : Field ColumnType} :
    (ColumnType.list f).sqlType n = .ok t ↔ ∃ e, f.sqlType = .ok e ∧ t = .array e n := by
  obtain ⟨name, item, m⟩ := f
  simp only [ColumnType.sqlType, Field.sqlType, bind_eq_ok, pure_eq_ok]

lemma sqlType_largeList (f : Field ColumnType) :
    (ColumnType.largeList f).sqlType n = (ColumnType.list f).sqlType n := by
  obtain ⟨name, item, m⟩ := f
  rw [ColumnType.sqlType, ColumnType.sqlType]

lemma sqlFields_cons_eq_ok {f : Field ColumnType} {fs : List (Field ColumnType)}
    {gs : List (String × SqlType)} : sqlFields (f :: fs) = .ok gs ↔
      ∃ t rest, f.sqlType = .ok t ∧ sqlFields fs = .ok rest ∧ gs = (f.name, t) :: rest := by
  obtain ⟨name, type, m⟩ := f
  simp only [sqlFields, Field.sqlType, bind_eq_ok, pure_eq_ok]
  constructor
  · rintro ⟨t, ht, rest, hrest, rfl⟩
    exact ⟨t, rest, ht, hrest, rfl⟩
  · rintro ⟨t, rest, ht, hrest, rfl⟩
    exact ⟨t, ht, rest, hrest, rfl⟩

lemma sqlType_struct_eq_ok {fs : List (Field ColumnType)} :
    (ColumnType.struct fs).sqlType n = .ok t ↔ ∃ gs, sqlFields fs = .ok gs ∧ t = .row gs n := by
  simp only [ColumnType.sqlType, bind_eq_ok, pure_eq_ok]

/-- The entries of a map are read if they are a structure of two fields that both are. -/
lemma sqlType_map_eq_ok {entries : Field ColumnType} {sorted : Bool} :
    (ColumnType.map entries sorted).sqlType n = .ok t ↔
      ∃ key value k v, entries.type = .struct [key, value] ∧ key.sqlType = .ok k ∧
        value.sqlType = .ok v ∧ t = .map k v n := by
  constructor
  · intro h
    obtain ⟨name, type, m⟩ := entries
    cases type with
    | struct fs =>
      rcases fs with _ | ⟨key, _ | ⟨value, _ | ⟨other, fs⟩⟩⟩
      · cases h
      · cases h
      · simp only [ColumnType.sqlType, bind_eq_ok, pure_eq_ok] at h
        obtain ⟨k, hk, v, hv, rfl⟩ := h
        exact ⟨key, value, k, v, rfl, hk, hv, rfl⟩
      · cases h
    | atom | list | largeList | listView | largeListView | fixedSizeList | union | map | dictionary
    | runEndEncoded => cases h
  · rintro ⟨⟨key, kt, km⟩, ⟨value, vt, vm⟩, k, v, he, hk, hv, rfl⟩
    obtain ⟨name, type, m⟩ := entries
    obtain rfl : type = _ := he
    simp only [ColumnType.sqlType, bind_eq_ok, pure_eq_ok]
    exact ⟨k, hk, v, hv, rfl⟩

/-! ### From SQL types to columns -/

lemma columnType_array_eq_ok {e : SqlType} : columnType (.array e n) = .ok c ↔
    ∃ d, columnType e = .ok d ∧ c = .list ⟨"item", d, e.isNullable⟩ := by
  simp only [columnType, bind_eq_ok, pure_eq_ok]

lemma columnType_map_eq_ok {k v : SqlType} : columnType (.map k v n) = .ok c ↔
    ∃ key value, columnType k = .ok key ∧ columnType v = .ok value ∧
      c = .map ⟨"entries", .struct [⟨"key", key, false⟩, ⟨"value", value, v.isNullable⟩], false⟩
        false := by
  simp only [columnType, bind_eq_ok, pure_eq_ok]
  constructor
  · rintro ⟨key, hk, value, hv, rfl⟩
    exact ⟨key, value, hk, hv, rfl⟩
  · rintro ⟨key, value, hk, hv, rfl⟩
    exact ⟨key, hk, value, hv, rfl⟩

lemma columnFields_cons_eq_ok {g : String × SqlType} {gs : List (String × SqlType)}
    {fs : List (Field ColumnType)} : columnFields (g :: gs) = .ok fs ↔
      ∃ c rest, columnType g.2 = .ok c ∧ columnFields gs = .ok rest ∧
        fs = ⟨g.1, c, g.2.isNullable⟩ :: rest := by
  simp only [columnFields, bind_eq_ok, pure_eq_ok]
  constructor
  · rintro ⟨c, hc, rest, hrest, rfl⟩
    exact ⟨c, rest, hc, hrest, rfl⟩
  · rintro ⟨c, rest, hc, hrest, rfl⟩
    exact ⟨c, hc, rest, hrest, rfl⟩

lemma columnType_row_eq_ok {gs : List (String × SqlType)} : columnType (.row gs n) = .ok c ↔
    ∃ fs, columnFields gs = .ok fs ∧ c = .struct fs := by
  simp only [columnType, bind_eq_ok, pure_eq_ok]

end ScalarCall.Arrow

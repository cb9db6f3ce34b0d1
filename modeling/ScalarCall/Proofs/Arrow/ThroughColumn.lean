import ScalarCall.Proofs.Arrow.Bridge
import ScalarCall.Proofs.SqlType.Within

/-!
Types that go through a column. A type whose values are stored in a column, and read back from
there, comes back in a normal form, unless it has a part that no column holds.
-/

namespace ScalarCall

open Arrow

/-! ### What comes back -/

/-- The number of places of the coarsest unit of time that has as many as asked for, or else of the
finest. -/
def storedPlaces (p : UInt8) : UInt8 := ([0, 3, 6, 9].find? fun q => p ≤ q).getD 9

/-- A simple type as it comes back: texts and bytes of no fixed length lose their bound, and times
have the places of a unit. -/
def SimpleType.stored : SimpleType → SimpleType
  | char _ | varchar _ => varchar maxLength
  | varbinary _ => varbinary maxLength
  | binary n => if n = maxLength then varbinary maxLength else binary n
  | time p => time (storedPlaces p)
  | timestamp p => timestamp (storedPlaces p)
  | timestampLtz p => timestampLtz (storedPlaces p)
  | t => t

namespace SqlType

mutual
/-- A type as it comes back from a column. The keys of a map exclude null, where they can. -/
def stored : SqlType → SqlType
  | null => null
  | simple t n => simple t.stored n
  | raw c n => raw c n
  | array e n => array (stored e) n
  | map k v n => map (stored k).notNull (stored v) n
  | row fs n => row (storedFields fs) n
def storedFields : List (String × SqlType) → List (String × SqlType)
  | [] => []
  | (name, t) :: fs => (name, stored t) :: storedFields fs
end

/-- Types that do not come back: opaque ones, and those with more decimal places or bytes than a
column can count. -/
def IsLost : SqlType → Prop
  | raw .. => True
  | simple (.decimal _ scale) _ => 127 < scale
  | simple (.binary length) _ => maxLength < length
  | _ => False

def IsStorable (t : SqlType) : Prop := ∀ u : SqlType, u.Within t → ¬ u.IsLost

/-! ### Parts -/

variable {t u : SqlType} {n m : Bool}

lemma isStorable_null : null.IsStorable := forall_within_null_iff.2 id

lemma isStorable_simple_iff {s : SimpleType} :
    (simple s n).IsStorable ↔ ¬ (simple s n).IsLost := forall_within_simple_iff

lemma not_isStorable_raw (c : String) (n : Bool) : ¬ (raw c n).IsStorable :=
  fun h => h _ .self trivial

lemma isStorable_array_iff {e : SqlType} : (array e n).IsStorable ↔ e.IsStorable :=
  forall_within_array_iff.trans (and_iff_right id)

lemma isStorable_map_iff {k v : SqlType} :
    (map k v n).IsStorable ↔ k.IsStorable ∧ v.IsStorable :=
  forall_within_map_iff.trans (and_iff_right id)

lemma isStorable_row_iff {fs : List (String × SqlType)} :
    (row fs n).IsStorable ↔ ∀ f ∈ fs, f.2.IsStorable :=
  forall_within_row_iff.trans (and_iff_right id)

lemma isNullable_stored (t : SqlType) : t.stored.isNullable = t.isNullable := by
  cases t <;> simp only [stored, isNullable]

@[simp] lemma stored_withNullable_isNullable (t : SqlType) :
    t.stored.withNullable t.isNullable = t.stored := by
  rw [← isNullable_stored, withNullable_isNullable]

end SqlType

namespace Arrow

/-! ### Words of fewer bits -/

lemma toInt8_neg_iff {s : UInt8} : s.toInt8 < 0 ↔ 127 < s := by
  have hs := s.toNat_lt
  have h0 : (0 : Int8).toInt = 0 := rfl
  have hm : (127 : UInt8).toNat = 127 := rfl
  rw [Int8.lt_iff_toInt_lt, UInt8.lt_iff_toNat_lt, ← Int8.toInt_toBitVec, UInt8.toBitVec_toInt8,
    BitVec.toInt_eq_toNat_cond, UInt8.toNat_toBitVec, h0, hm]
  split <;> omega

lemma toInt32_neg_iff {n : UInt32} : n.toInt32 < 0 ↔ maxLength < n := by
  have hn := n.toNat_lt
  have h0 : (0 : Int32).toInt = 0 := rfl
  have hm : maxLength.toNat = 2147483647 := rfl
  rw [Int32.lt_iff_toInt_lt, UInt32.lt_iff_toNat_lt, ← Int32.toInt_toBitVec,
    UInt32.toBitVec_toInt32, BitVec.toInt_eq_toNat_cond, UInt32.toNat_toBitVec, h0, hm]
  split <;> omega

lemma precision_ofPrecision (p : UInt8) : (TimeUnit.ofPrecision p).precision = storedPlaces p := by
  have h0 : p ≤ 0 ↔ p = 0 := by
    rw [UInt8.le_iff_toNat_le, ← UInt8.toNat_inj]
    exact Nat.le_zero
  unfold TimeUnit.ofPrecision storedPlaces
  simp only [List.find?_cons, h0]
  split_ifs with h h3 h6
  · simp [h, TimeUnit.precision]
  · simp [h, h3, TimeUnit.precision]
  · simp [h, h3, h6, TimeUnit.precision]
  · -- nine places are given to what asks for more, too
    by_cases h9 : p ≤ 9 <;> simp [h, h3, h6, h9, TimeUnit.precision]

lemma sqlType_atomOf_time (p : UInt8) (n : Bool) :
    (atomOf (.time p)).sqlType n = .ok (.simple (.time (storedPlaces p)) n) := by
  rw [← precision_ofPrecision, atomOf]
  cases TimeUnit.ofPrecision p <;> rfl

lemma sqlType_atomOf_eq_ok {t : SimpleType} {n m : Bool} {u : SqlType} :
    (atomOf t).sqlType n = .ok u ↔ ¬ (SqlType.simple t m).IsLost ∧ u = .simple t.stored n := by
  cases t with
  | decimal p s =>
    simp only [atomOf, Atom.sqlType_decimal128, toInt8_neg_iff, UInt8.toUInt8_toInt8,
      SqlType.IsLost, SimpleType.stored]
    split_ifs with h <;> simp [h, eq_comm]
  | binary l =>
    simp only [atomOf, SqlType.IsLost, SimpleType.stored]
    split_ifs with h
    · have hb : Atom.binary.sqlType n = .ok (.simple (.varbinary maxLength) n) := rfl
      simp [h, hb, eq_comm]
    · simp only [Atom.sqlType_fixedSizeBinary, toInt32_neg_iff, UInt32.toUInt32_toInt32]
      split_ifs with h' <;> simp [h', eq_comm]
  | time p =>
    rw [sqlType_atomOf_time]
    simp [SqlType.IsLost, SimpleType.stored, eq_comm]
  | timestamp p | timestampLtz p =>
    show Except.ok (SqlType.simple _ n) = .ok u ↔ _
    simp [precision_ofPrecision, SqlType.IsLost, SimpleType.stored, eq_comm]
  | _ =>
    show Except.ok (SqlType.simple _ n) = .ok u ↔ _
    simp [SqlType.IsLost, SimpleType.stored, eq_comm]

/-! ### Through a column and back -/

def ReadAs (t : SqlType) (n : Bool) (u : SqlType) : Prop :=
  ∃ c, columnType t = .ok c ∧ c.sqlType n = .ok u

variable {n m : Bool} {t u : SqlType}

lemma readAs_null_iff : ReadAs .null n u ↔ u = .null := by
  have h : Atom.null.sqlType n = .ok .null := rfl
  simp [ReadAs, columnType, ColumnType.sqlType, h, eq_comm]

lemma readAs_simple_iff {s : SimpleType} : ReadAs (.simple s m) n u ↔
    (SqlType.simple s m).IsStorable ∧ u = .simple s.stored n := by
  rw [SqlType.isStorable_simple_iff, ← sqlType_atomOf_eq_ok]
  simp [ReadAs, columnType, ColumnType.sqlType]

lemma not_readAs_raw (c : String) : ¬ ReadAs (.raw c m) n u := by
  simp [ReadAs, columnType]

lemma readAs_array_iff {e : SqlType} : ReadAs (.array e m) n u ↔
    ∃ f, ReadAs e e.isNullable f ∧ u = .array f n := by
  simp only [ReadAs, columnType_array_eq_ok]
  constructor
  · rintro ⟨_, ⟨c, hc, rfl⟩, h⟩
    obtain ⟨f, hf, rfl⟩ := sqlType_list_eq_ok.1 h
    exact ⟨f, ⟨c, hc, hf⟩, rfl⟩
  · rintro ⟨f, ⟨c, hc, hf⟩, rfl⟩
    exact ⟨_, ⟨c, hc, rfl⟩, sqlType_list_eq_ok.2 ⟨f, hf, rfl⟩⟩

lemma readAs_map_iff {k v : SqlType} : ReadAs (.map k v m) n u ↔
    ∃ l w, ReadAs k false l ∧ ReadAs v v.isNullable w ∧ u = .map l w n := by
  simp only [ReadAs, columnType_map_eq_ok]
  constructor
  · rintro ⟨_, ⟨key, value, hk, hv, rfl⟩, h⟩
    obtain ⟨_, _, l, w, ⟨⟩, hl, hw, rfl⟩ := sqlType_map_eq_ok.1 h
    exact ⟨l, w, ⟨key, hk, hl⟩, ⟨value, hv, hw⟩, rfl⟩
  · rintro ⟨l, w, ⟨key, hk, hl⟩, ⟨value, hv, hw⟩, rfl⟩
    exact ⟨_, ⟨key, value, hk, hv, rfl⟩, sqlType_map_eq_ok.2 ⟨_, _, l, w, rfl, hl, hw, rfl⟩⟩

lemma readAs_row_iff {fs : List (String × SqlType)} : ReadAs (.row fs m) n u ↔
    ∃ gs, (∃ cs, columnFields fs = .ok cs ∧ sqlFields cs = .ok gs) ∧ u = .row gs n := by
  simp only [ReadAs, columnType_row_eq_ok]
  constructor
  · rintro ⟨_, ⟨cs, hcs, rfl⟩, h⟩
    obtain ⟨gs, hgs, rfl⟩ := sqlType_struct_eq_ok.1 h
    exact ⟨gs, ⟨cs, hcs, hgs⟩, rfl⟩
  · rintro ⟨gs, ⟨cs, hcs, hgs⟩, rfl⟩
    exact ⟨_, ⟨cs, hcs, rfl⟩, sqlType_struct_eq_ok.2 ⟨gs, hgs, rfl⟩⟩

/-- Fields are read one by one, as far as each of them is. -/
lemma sqlFields_columnFields_iff {fs gs : List (String × SqlType)}
    (h : ∀ f ∈ fs, ∀ u, ReadAs f.2 f.2.isNullable u ↔ f.2.IsStorable ∧ u = f.2.stored) :
    (∃ cs, columnFields fs = .ok cs ∧ sqlFields cs = .ok gs) ↔
      (∀ f ∈ fs, f.2.IsStorable) ∧ gs = SqlType.storedFields fs := by
  induction fs generalizing gs with
  | nil => simp [columnFields, sqlFields, SqlType.storedFields, eq_comm]
  | cons f fs ih =>
    have hf := h f List.mem_cons_self
    have ih := fun gs => @ih gs fun g hg => h g (List.mem_cons_of_mem f hg)
    rw [List.forall_mem_cons, SqlType.storedFields]
    constructor
    · rintro ⟨_, hfs, hgs⟩
      obtain ⟨c, cs, hc, hcs, rfl⟩ := columnFields_cons_eq_ok.1 hfs
      obtain ⟨t, rest, ht, hrest, rfl⟩ := sqlFields_cons_eq_ok.1 hgs
      obtain ⟨hs, rfl⟩ := (hf t).1 ⟨c, hc, ht⟩
      obtain ⟨hall, rfl⟩ := (ih rest).1 ⟨cs, hcs, hrest⟩
      exact ⟨⟨hs, hall⟩, rfl⟩
    · rintro ⟨⟨hs, hall⟩, rfl⟩
      obtain ⟨c, hc, ht⟩ := (hf _).2 ⟨hs, rfl⟩
      obtain ⟨cs, hcs, hrest⟩ := (ih _).2 ⟨hall, rfl⟩
      exact ⟨_, columnFields_cons_eq_ok.2 ⟨c, cs, hc, hcs, rfl⟩,
        sqlFields_cons_eq_ok.2 ⟨_, _, ht, hrest, rfl⟩⟩

/-- What a type's column is read as, under any nullability. -/
theorem readAs_iff : ReadAs t n u ↔ t.IsStorable ∧ u = t.stored.withNullable n := by
  induction t generalizing n u with
  | null => simp [readAs_null_iff, SqlType.isStorable_null, SqlType.stored, SqlType.withNullable]
  | simple s m => rw [readAs_simple_iff, SqlType.stored, SqlType.withNullable]
  | raw c m =>
    exact ⟨fun h => absurd h (not_readAs_raw c), fun h => absurd h.1 (SqlType.not_isStorable_raw c m)⟩
  | array e m ih =>
    rw [readAs_array_iff, SqlType.isStorable_array_iff, SqlType.stored, SqlType.withNullable]
    simp only [ih, SqlType.stored_withNullable_isNullable, and_assoc, exists_and_left,
      exists_eq_left]
  | map k v m ihk ihv =>
    rw [readAs_map_iff, SqlType.isStorable_map_iff, SqlType.stored, SqlType.withNullable]
    simp only [ihk, ihv, SqlType.stored_withNullable_isNullable, SqlType.notNull]
    constructor
    · rintro ⟨_, _, ⟨hk, rfl⟩, ⟨hv, rfl⟩, rfl⟩
      exact ⟨⟨hk, hv⟩, rfl⟩
    · rintro ⟨⟨hk, hv⟩, rfl⟩
      exact ⟨_, _, ⟨hk, rfl⟩, ⟨hv, rfl⟩, rfl⟩
  | row fs m ih =>
    have hfs : ∀ f ∈ fs, ∀ u, ReadAs f.2 f.2.isNullable u ↔ f.2.IsStorable ∧ u = f.2.stored := by
      intro f hf u
      rw [ih f hf, SqlType.stored_withNullable_isNullable]
    rw [readAs_row_iff, SqlType.isStorable_row_iff, SqlType.stored, SqlType.withNullable]
    simp only [sqlFields_columnFields_iff hfs, and_assoc, exists_and_left, exists_eq_left]

/-- **Which types come back from a column, and as what**: those within which nothing is lost, in
their normal form. -/
theorem sqlType_columnType_eq_ok_iff (t u : SqlType) :
    (columnType t >>= fun c => c.sqlType t.isNullable) = .ok u ↔ t.IsStorable ∧ u = t.stored := by
  rw [bind_eq_ok, ← t.stored_withNullable_isNullable]
  exact readAs_iff

end Arrow

end ScalarCall

import ScalarCall.Proofs.SqlType.Within
import ScalarCall.Proofs.Text.Separated
import ScalarCall.SqlType.Display

/-!
The text of a type says which type it is. Reading from the left, the first word tells the kind of a
type, and then its numbers, names and parts end where they have to, so that all of the text of a
type can be told from what follows it.
-/

namespace ScalarCall

open Text

/-! ### Words -/

/-- The characters of the words that types begin with. -/
def isWordPart (c : Char) : Bool := c.isUpper || c == '_'

/-- No word goes on. -/
def EndsWord (x : List Char) : Prop := ∀ c ∈ x.head?, isWordPart c = false

/-- Neither a word goes on nor do the numbers of a type begin. -/
def EndsSimple (x : List Char) : Prop := EndsWord x ∧ x.head? ≠ some '('

/-- What may follow a type: a comma or a bracket that closes, or nothing. -/
def EndsType (x : List Char) : Prop := ∀ c ∈ x.head?, c = ',' ∨ c = '>'

variable {x y : List Char} {m n : Bool}

lemma endsType_cons_comma (x : List Char) : EndsType (',' :: x) := by
  rintro c ⟨⟩
  exact .inl rfl

lemma endsType_cons_bracket (x : List Char) : EndsType ('>' :: x) := by
  rintro c ⟨⟩
  exact .inr rfl

lemma endsType_of_followsItem (h : FollowsItem '>' x) : EndsType x := by
  cases h with
  | next x => exact endsType_cons_comma _
  | last x => exact endsType_cons_bracket x

lemma EndsType.endsSimple (h : EndsType x) : EndsSimple x := by
  refine ⟨fun c hc => ?_, fun hc => ?_⟩
  · rcases h c hc with rfl | rfl <;> rfl
  · rcases h '(' hc with e | e <;> cases e

/-! ### Numbers -/

def parameterList : List Nat → List Char
  | [] => []
  | p :: ps => '(' :: ([',', ' '].intercalate ((p :: ps).map (Nat.toDigits 10)) ++ [')'])

lemma isDigit_of_head?_toDigits_append {c : Char} {p : Nat} {z : List Char}
    (h : (Nat.toDigits 10 p ++ z).head? = some c) : c.isDigit = true := by
  obtain ⟨d, ds, hd⟩ := List.exists_cons_of_ne_nil (Nat.toDigits_ne_nil (b := 10) (n := p))
  obtain rfl : d = c := by simpa [hd] using h
  exact Nat.isDigit_of_mem_toDigits (by omega) (by omega) (hd ▸ List.mem_cons_self)

/-- A number ends before what is no digit. -/
lemma toDigits_append_inj {p q : Nat} {z w : List Char} (hz : FollowsItem ')' z)
    (hw : FollowsItem ')' w) (h : Nat.toDigits 10 p ++ z = Nat.toDigits 10 q ++ w) :
    p = q ∧ z = w := by
  have hdigits : ∀ (k : Nat), ∀ c ∈ Nat.toDigits 10 k, c.isDigit = true :=
    fun k c hc => Nat.isDigit_of_mem_toDigits (by omega) (by omega) hc
  have hstop : ∀ {v : List Char}, FollowsItem ')' v → ∀ c ∈ v.head?, c.isDigit = false := by
    rintro v (_ | _) c ⟨⟩ <;> rfl
  obtain ⟨hpq, hzw⟩ := append_inj_of_forall (hdigits p) (hdigits q) (hstop hz) (hstop hw) h
  have hvalue := congrArg (fun ds => Nat.ofDigitChars 10 ds 0) hpq
  exact ⟨by simpa using hvalue, hzw⟩

lemma parameterList_append_inj {ps qs : List Nat} (hx : x.head? ≠ some '(')
    (hy : y.head? ≠ some '(') (h : parameterList ps ++ x = parameterList qs ++ y) :
    ps = qs ∧ x = y := by
  cases ps with
  | nil =>
    cases qs with
    | nil => exact ⟨rfl, h⟩
    | cons q qs => exact absurd (congrArg List.head? h) hx
  | cons p ps =>
    cases qs with
    | nil => exact absurd (congrArg List.head? h).symm hy
    | cons q qs =>
      refine intercalate_append_inj (by decide) (fun a _ z hhead => ?_)
        (fun a _ b _ z w hz hw => toDigits_append_inj hz hw) (x := x) (y := y) (by
          simpa [parameterList] using h)
      have hdigit := isDigit_of_head?_toDigits_append hhead
      cases hdigit

/-! ### Simple types -/

namespace SimpleType

def keyword : SimpleType → String
  | boolean => "BOOLEAN"
  | tinyint => "TINYINT"
  | smallint => "SMALLINT"
  | int => "INT"
  | bigint => "BIGINT"
  | float => "FLOAT"
  | double => "DOUBLE"
  | decimal .. => "DECIMAL"
  | char _ => "CHAR"
  | varchar n => if n = maxLength then "STRING" else "VARCHAR"
  | binary _ => "BINARY"
  | varbinary n => if n = maxLength then "BYTES" else "VARBINARY"
  | date => "DATE"
  | time _ => "TIME"
  | timestamp _ => "TIMESTAMP"
  | timestampLtz _ => "TIMESTAMP_LTZ"

def parameters : SimpleType → List Nat
  | decimal p s => [p.toNat, s.toNat]
  | char n | binary n => [n.toNat]
  | varchar n | varbinary n => if n = maxLength then [] else [n.toNat]
  | time p | timestamp p | timestampLtz p => [p.toNat]
  | _ => []

def ofSignature? : String → List Nat → Option SimpleType
  | "BOOLEAN", [] => some boolean
  | "TINYINT", [] => some tinyint
  | "SMALLINT", [] => some smallint
  | "INT", [] => some int
  | "BIGINT", [] => some bigint
  | "FLOAT", [] => some float
  | "DOUBLE", [] => some double
  | "DECIMAL", [p, s] => some (decimal (.ofNat p) (.ofNat s))
  | "CHAR", [n] => some (char (.ofNat n))
  | "STRING", [] => some (varchar maxLength)
  | "VARCHAR", [n] => some (varchar (.ofNat n))
  | "BINARY", [n] => some (binary (.ofNat n))
  | "BYTES", [] => some (varbinary maxLength)
  | "VARBINARY", [n] => some (varbinary (.ofNat n))
  | "DATE", [] => some date
  | "TIME", [p] => some (time (.ofNat p))
  | "TIMESTAMP", [p] => some (timestamp (.ofNat p))
  | "TIMESTAMP_LTZ", [p] => some (timestampLtz (.ofNat p))
  | _, _ => none

lemma ofSignature?_keyword (t : SimpleType) : ofSignature? t.keyword t.parameters = some t := by
  cases t with
  | varchar n | varbinary n =>
    by_cases h : n = maxLength
    · simp [keyword, parameters, ofSignature?, h]
    · simp [keyword, parameters, ofSignature?, h]
  | _ => simp [keyword, parameters, ofSignature?]

lemma isWordPart_of_mem_keyword (t : SimpleType) :
    ∀ c ∈ t.keyword.toList, isWordPart c = true := by
  rw [← List.all_eq_true]
  cases t with
  | varchar n | varbinary n =>
    dsimp only [keyword]
    split <;> decide
  | _ =>
    dsimp only [keyword]
    decide

lemma keyword_notMem (t : SimpleType) : t.keyword ∉ ["NULL", "RAW", "ARRAY", "MAP", "ROW"] := by
  cases t with
  | varchar n | varbinary n =>
    dsimp only [keyword]
    split <;> decide
  | _ =>
    dsimp only [keyword]
    decide

lemma toList_text (t : SimpleType) :
    t.text.toList = t.keyword.toList ++ parameterList t.parameters := by
  cases t with
  | varchar n | varbinary n =>
    by_cases h : n = maxLength
    · simp [text, keyword, parameters, parameterList, h]
    · simp [text, keyword, parameters, parameterList, parameterized, applied, h]
  | _ => simp [text, keyword, parameters, parameterList, parameterized, applied]

lemma endsWord_parameterList_append {ps : List Nat} (hx : EndsWord x) :
    EndsWord (parameterList ps ++ x) := by
  cases ps with
  | nil => exact hx
  | cons p ps =>
    rintro c ⟨⟩
    rfl

/-- The text of a simple type can be told from what follows. -/
lemma text_append_inj {t u : SimpleType} (hx : EndsSimple x) (hy : EndsSimple y)
    (h : t.text.toList ++ x = u.text.toList ++ y) : t = u ∧ x = y := by
  rw [toList_text, toList_text, List.append_assoc, List.append_assoc] at h
  obtain ⟨hword, hrest⟩ := append_inj_of_forall t.isWordPart_of_mem_keyword
    u.isWordPart_of_mem_keyword (endsWord_parameterList_append hx.1)
    (endsWord_parameterList_append hy.1) h
  obtain ⟨hnumbers, hxy⟩ := parameterList_append_inj hx.2 hy.2 hrest
  have ht := ofSignature?_keyword t
  rw [String.toList_inj.1 hword, hnumbers, ofSignature?_keyword u] at ht
  exact ⟨(Option.some.inj ht).symm, hxy⟩

end SimpleType

namespace SqlType

/-! ### The names in a type -/

/-- The names that a type itself has are no part of what surrounds them: those of a row's fields
are without spaces, commas and angle brackets, and the class of an opaque type is without a
quote. -/
def HasPlainNames : SqlType → Prop
  | row fs _ => ∀ f ∈ fs, ∀ c ∈ f.1.toList, c ∉ [' ', ',', '<', '>']
  | raw className _ => '\'' ∉ className.toList
  | _ => True

def IsPlain (t : SqlType) : Prop := ∀ u : SqlType, u.Within t → u.HasPlainNames

/-! ### The text of a type -/

def word : SqlType → String
  | null => "NULL"
  | simple t _ => t.keyword
  | raw .. => "RAW"
  | array .. => "ARRAY"
  | map .. => "MAP"
  | row .. => "ROW"

variable {a b t : SqlType}

def fieldText (f : String × SqlType) : List Char := f.1.toList ++ ' ' :: f.2.text.toList

lemma map_toList_fieldTexts (fs : List (String × SqlType)) :
    (fieldTexts fs).map String.toList = fs.map fieldText := by
  induction fs with
  | nil => rfl
  | cons f fs ih => simp [fieldTexts, fieldText, ih]

lemma toList_text_simple (t : SimpleType) (n : Bool) (x : List Char) :
    (simple t n).text.toList ++ x = t.text.toList ++ ((nullSuffix n).toList ++ x) := by
  simp [text]

lemma toList_text_raw (c : String) (n : Bool) (x : List Char) :
    (raw c n).text.toList ++ x =
      "RAW".toList ++ '(' :: '\'' :: (c.toList ++ '\'' :: ')' :: ((nullSuffix n).toList ++ x)) := by
  simp [text]

lemma toList_text_array (e : SqlType) (n : Bool) (x : List Char) :
    (array e n).text.toList ++ x =
      "ARRAY".toList ++ '<' :: (e.text.toList ++ '>' :: ((nullSuffix n).toList ++ x)) := by
  simp [text]

lemma toList_text_map (k v : SqlType) (n : Bool) (x : List Char) :
    (map k v n).text.toList ++ x =
      "MAP".toList ++ '<' :: (k.text.toList ++ ',' :: ' ' ::
        (v.text.toList ++ '>' :: ((nullSuffix n).toList ++ x))) := by
  simp [text]

lemma toList_text_row (fs : List (String × SqlType)) (n : Bool) (x : List Char) :
    (row fs n).text.toList ++ x =
      "ROW".toList ++ '<' ::
        ([',', ' '].intercalate (fs.map fieldText) ++ '>' :: ((nullSuffix n).toList ++ x)) := by
  simp [text, String.toList_intercalate, map_toList_fieldTexts]

lemma endsSimple_nullSuffix_append (n : Bool) (hx : EndsType x) :
    EndsSimple ((nullSuffix n).toList ++ x) := by
  cases n with
  | true => exact hx.endsSimple
  | false =>
    refine ⟨?_, fun h => ?_⟩
    · rintro c ⟨⟩
      rfl
    · cases h

lemma nullSuffix_append_inj (hx : EndsType x) (hy : EndsType y)
    (h : (nullSuffix m).toList ++ x = (nullSuffix n).toList ++ y) : m = n ∧ x = y := by
  have hspace : ∀ {z : List Char}, EndsType z → z.head? ≠ some ' ' := by
    intro z hz hc
    rcases hz ' ' hc with e | e <;> cases e
  cases m with
  | true =>
    cases n with
    | true => exact ⟨rfl, h⟩
    | false => exact absurd (congrArg List.head? h) (hspace hx)
  | false =>
    cases n with
    | true => exact absurd (congrArg List.head? h).symm (hspace hy)
    | false => exact ⟨rfl, List.append_cancel_left h⟩

/-! ### The first word -/

lemma exists_word_append (t : SqlType) (hx : EndsType x) :
    ∃ z, t.text.toList ++ x = t.word.toList ++ z ∧ EndsWord z := by
  cases t with
  | null => exact ⟨x, rfl, hx.endsSimple.1⟩
  | simple t n =>
    refine ⟨parameterList t.parameters ++ ((nullSuffix n).toList ++ x), ?_,
      SimpleType.endsWord_parameterList_append (endsSimple_nullSuffix_append n hx).1⟩
    rw [toList_text_simple, SimpleType.toList_text, List.append_assoc]
    rfl
  | raw c n => exact ⟨_, toList_text_raw c n x, by rintro c ⟨⟩; rfl⟩
  | array e n => exact ⟨_, toList_text_array e n x, by rintro c ⟨⟩; rfl⟩
  | map k v n => exact ⟨_, toList_text_map k v n x, by rintro c ⟨⟩; rfl⟩
  | row fs n => exact ⟨_, toList_text_row fs n x, by rintro c ⟨⟩; rfl⟩

lemma isWordPart_of_mem_word (t : SqlType) : ∀ c ∈ t.word.toList, isWordPart c = true := by
  cases t with
  | simple t n => exact t.isWordPart_of_mem_keyword
  | _ =>
    rw [← List.all_eq_true]
    dsimp only [word]
    decide

/-- Types of the same kind, whatever their numbers, names and parts. -/
inductive SameKind : SqlType → SqlType → Prop
  | null : SameKind null null
  | simple (s t : SimpleType) (m n : Bool) : SameKind (simple s m) (simple t n)
  | raw (c d : String) (m n : Bool) : SameKind (raw c m) (raw d n)
  | array (e f : SqlType) (m n : Bool) : SameKind (array e m) (array f n)
  | map (k l v w : SqlType) (m n : Bool) : SameKind (map k v m) (map l w n)
  | row (fs gs : List (String × SqlType)) (m n : Bool) : SameKind (row fs m) (row gs n)

lemma sameKind_of_word_eq (h : a.word = b.word) : a.SameKind b := by
  cases a with
  | simple s m =>
    cases b with
    | simple t n => exact .simple s t m n
    | _ => exact absurd (by simp [show s.keyword = _ from h, word]) s.keyword_notMem
  | _ =>
    cases b with
    | simple t n => exact absurd (by simp [show t.keyword = _ from h.symm, word]) t.keyword_notMem
    | _ =>
      first
      | constructor
      | simp [word] at h

/-- Types whose texts begin alike begin with the same word. -/
lemma sameKind_of_text_append (hx : EndsType x) (hy : EndsType y)
    (h : a.text.toList ++ x = b.text.toList ++ y) : a.SameKind b := by
  obtain ⟨z, hz, hza⟩ := a.exists_word_append hx
  obtain ⟨w, hw, hwb⟩ := b.exists_word_append hy
  rw [hz, hw] at h
  have hword := append_inj_of_forall a.isWordPart_of_mem_word b.isWordPart_of_mem_word hza hwb h
  exact sameKind_of_word_eq (String.toList_inj.1 hword.1)

/-! ### The whole text -/

lemma fieldText_append_inj {f g : String × SqlType}
    (hf : ' ' ∉ f.1.toList) (hg : ' ' ∉ g.1.toList)
    (htype : f.2.text.toList ++ x = g.2.text.toList ++ y → f.2 = g.2 ∧ x = y)
    (h : fieldText f ++ x = fieldText g ++ y) : f = g ∧ x = y := by
  rw [fieldText, fieldText, List.append_assoc, List.append_assoc] at h
  obtain ⟨hname, hrest⟩ := append_cons_inj hf hg h
  obtain ⟨ht, hxy⟩ := htype hrest
  exact ⟨Prod.ext (String.toList_inj.1 hname) ht, hxy⟩

lemma head?_fieldText_append {f : String × SqlType} (hf : '>' ∉ f.1.toList) (z : List Char) :
    (fieldText f ++ z).head? ≠ some '>' := by
  intro h
  cases hname : f.1.toList with
  | nil => simp [fieldText, hname] at h
  | cons c cs =>
    obtain rfl : c = '>' := by simpa [fieldText, hname] using h
    exact hf (by simp [hname])

/-- The text of a type with plain names can be told from what follows it. The induction is on the
one type, and its first word gives the kind of the other one. -/
theorem text_append_inj (ha : a.IsPlain) (hb : b.IsPlain) (hx : EndsType x) (hy : EndsType y)
    (h : a.text.toList ++ x = b.text.toList ++ y) : a = b ∧ x = y := by
  induction a generalizing b x y with
  | null =>
    cases sameKind_of_text_append hx hy h
    exact ⟨rfl, List.append_cancel_left h⟩
  | simple t m =>
    cases sameKind_of_text_append hx hy h with
    | simple _ u _ n =>
      rw [toList_text_simple, toList_text_simple] at h
      obtain ⟨rfl, hrest⟩ := SimpleType.text_append_inj (endsSimple_nullSuffix_append m hx)
        (endsSimple_nullSuffix_append n hy) h
      obtain ⟨rfl, hxy⟩ := nullSuffix_append_inj hx hy hrest
      exact ⟨rfl, hxy⟩
  | raw c m =>
    cases sameKind_of_text_append hx hy h with
    | raw _ d _ n =>
      rw [toList_text_raw, toList_text_raw] at h
      have hquoted := (List.cons.inj (List.cons.inj (List.append_cancel_left h)).2).2
      obtain ⟨hname, hrest⟩ := append_cons_inj (ha _ .self) (hb _ .self) hquoted
      obtain ⟨rfl, hxy⟩ := nullSuffix_append_inj hx hy (List.cons.inj hrest).2
      exact ⟨by rw [String.toList_inj.1 hname], hxy⟩
  | array e m ih =>
    cases sameKind_of_text_append hx hy h with
    | array _ f _ n =>
      rw [toList_text_array, toList_text_array] at h
      have hparts := (List.cons.inj (List.append_cancel_left h)).2
      obtain ⟨rfl, hrest⟩ := ih (forall_within_array_iff.1 ha).2 (forall_within_array_iff.1 hb).2
        (endsType_cons_bracket _) (endsType_cons_bracket _) hparts
      obtain ⟨rfl, hxy⟩ := nullSuffix_append_inj hx hy (List.cons.inj hrest).2
      exact ⟨rfl, hxy⟩
  | map k v m ihk ihv =>
    cases sameKind_of_text_append hx hy h with
    | map _ l _ w _ n =>
      obtain ⟨-, hk, hv⟩ := forall_within_map_iff.1 ha
      obtain ⟨-, hl, hw⟩ := forall_within_map_iff.1 hb
      rw [toList_text_map, toList_text_map] at h
      have hparts := (List.cons.inj (List.append_cancel_left h)).2
      obtain ⟨rfl, hvalues⟩ := ihk hk hl (endsType_cons_comma _) (endsType_cons_comma _) hparts
      obtain ⟨rfl, hrest⟩ := ihv hv hw (endsType_cons_bracket _) (endsType_cons_bracket _)
        (List.cons.inj (List.cons.inj hvalues).2).2
      obtain ⟨rfl, hxy⟩ := nullSuffix_append_inj hx hy (List.cons.inj hrest).2
      exact ⟨rfl, hxy⟩
  | row fs m ih =>
    cases sameKind_of_text_append hx hy h with
    | row _ gs _ n =>
      obtain ⟨hfs, hfts⟩ := forall_within_row_iff.1 ha
      obtain ⟨hgs, hgts⟩ := forall_within_row_iff.1 hb
      rw [toList_text_row, toList_text_row] at h
      have hstart : ∀ f ∈ fs ++ gs, ∀ z, (fieldText f ++ z).head? ≠ some '>' := by
        intro f hf
        refine head?_fieldText_append fun hc => ?_
        exact (List.mem_append.1 hf).elim (hfs f · _ hc (by decide)) (hgs f · _ hc (by decide))
      have hitem : ∀ f ∈ fs, ∀ g ∈ gs, ∀ z w, FollowsItem '>' z → FollowsItem '>' w →
          fieldText f ++ z = fieldText g ++ w → f = g ∧ z = w := by
        intro f hf g hg z w hz hw
        exact fieldText_append_inj (fun hc => hfs f hf _ hc (by decide))
          (fun hc => hgs g hg _ hc (by decide))
          (ih f hf (hfts f hf) (hgts g hg) (endsType_of_followsItem hz) (endsType_of_followsItem hw))
      obtain ⟨rfl, hrest⟩ := intercalate_append_inj (by decide) hstart hitem
        (List.cons.inj (List.append_cancel_left h)).2
      obtain ⟨rfl, hxy⟩ := nullSuffix_append_inj hx hy hrest
      exact ⟨rfl, hxy⟩

/-- Types with plain names have the same text only if they are the same, with all nullability,
numbers and names. -/
theorem text_eq_iff (ha : a.IsPlain) (hb : b.IsPlain) : a.text = b.text ↔ a = b := by
  constructor
  · intro h
    have hempty : EndsType [] := by
      rintro c ⟨⟩
    exact (text_append_inj ha hb hempty hempty (by rw [h])).1
  · rintro rfl
    rfl

/-- Whether the elements or the array exclude null shows in the text of a row. -/
theorem text_ne_text_row :
    let a := row [("a", array (simple .int false) true)] true
    let b := row [("a", array (simple .int true) false)] true
    a.IsPlain ∧ b.IsPlain ∧ a.text ≠ b.text := by
  intro a b
  have hplain : ∀ m n, (row [("a", array (simple .int m) n)] true).IsPlain := by
    intro m n
    simp [IsPlain, forall_within_row_iff, forall_within_array_iff, forall_within_simple_iff,
      HasPlainNames]
  have ha : a.IsPlain := hplain false true
  have hb : b.IsPlain := hplain true false
  exact ⟨ha, hb, mt (text_eq_iff ha hb).1 (by decide)⟩

end SqlType

end ScalarCall

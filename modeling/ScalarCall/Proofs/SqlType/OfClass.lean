import ScalarCall.Proofs.RuntimeClass.Component
import ScalarCall.SqlType.Classes

/-!
The type that a class stands for accepts the class, unless the class is an array of characters at
its innermost, or a character itself: these stand for texts, which no character can be.
-/

namespace ScalarCall

open RuntimeClass

lemma component?_byteArray : byteArray.component? = some (.primitive .byte) := by decide +kernel

lemma innermost_byteArray : byteArray.innermost = .primitive .byte := by
  rw [innermost_of_some component?_byteArray, innermost_of_none rfl]

namespace SimpleType

/-- Of the classes known by name only byte sequences are arrays. -/
lemma ofClass?_eq_none {c d : RuntimeClass} (h : c.component? = some d) (hb : c ≠ byteArray) :
    ofClass? c = none := by
  have hne : ∀ e : RuntimeClass, e.component? = none → c ≠ e := by
    rintro e he rfl
    rw [h] at he
    cases he
  unfold ofClass?
  rw [if_neg (hne _ rfl), if_neg (hne _ rfl), if_neg hb]
  simp [hne localDate rfl, hne sqlDate rfl, hne localTime rfl, hne sqlTime rfl,
    hne localDateTime rfl, hne sqlTimestamp rfl, hne instant rfl]

lemma accepts_of_ofClass?_eq_some {c : RuntimeClass} {t : SimpleType} (h : ofClass? c = some t) :
    t.accepts c = true := by
  unfold ofClass? at h
  simp only [Bool.or_eq_true, decide_eq_true_eq] at h
  split_ifs at h with h1 h2 h3 h4 h5 h6 h7 <;> cases h
  · subst h1; rfl
  · subst h2; rfl
  · subst h3; rfl
  · rcases h4 with rfl | rfl <;> rfl
  · rcases h5 with rfl | rfl <;> rfl
  · rcases h6 with rfl | rfl <;> rfl
  · subst h7; rfl

lemma accepts_primitive_iff {p : Primitive} :
    (ofPrimitive p).accepts (.primitive p) = true ↔ p ≠ .char := by
  cases p <;> decide

lemma accepts_boxed_iff {p : Primitive} :
    (ofPrimitive p).accepts (.boxed p) = true ↔ p ≠ .char := by
  cases p <;> decide

end SimpleType

namespace SqlType

lemma accepts_defaultClass (t : SqlType) : t.accepts t.defaultClass = true := by
  cases t with
  | null => rfl
  | simple t n => simp [accepts, SimpleType.accepts, defaultClass]
  | raw | array | map | row => simp [accepts, defaultClass]

/-- The classes that an array type takes as a whole, whatever their components are. -/
def TakesWhole (t : SqlType) (c : RuntimeClass) : Prop :=
  c = arrayData ∨ c = t.defaultClass ∨ c = list

lemma accepts_array_iff {e : SqlType} {n : Bool} {c : RuntimeClass} :
    (array e n).accepts c = true ↔
      (array e n).TakesWhole c ∨ ∃ d, c.component? = some d ∧ e.accepts d = true := by
  rw [accepts, TakesWhole]
  cases c.component? with
  | none => simp [or_assoc]
  | some d => simp [or_assoc]

/-! ### What a class stands for -/

lemma ofClass_of_ofClass? {name : String} {t : SimpleType}
    (h : SimpleType.ofClass? (.object name) = some t) : ofClass (.object name) = simple t true := by
  rw [ofClass]
  split
  · next h' => rw [h] at h'; cases h'; rfl
  · next h' => rw [h] at h'; cases h'

lemma ofClass_of_component? {c d : RuntimeClass} (h : c.component? = some d)
    (hn : SimpleType.ofClass? c = none) : ofClass c = array (ofClass d) true := by
  cases c with
  | object name =>
    rw [ofClass]
    split
    · next h' => rw [hn] at h'; cases h'
    · split
      · next h' => rw [h] at h'; cases h'; rfl
      · next h' => rw [h] at h'; cases h'
  | primitive | boxed => cases h

lemma ofClass_of_unknown {name : String} (h : (RuntimeClass.object name).component? = none)
    (hn : SimpleType.ofClass? (.object name) = none) :
    ofClass (.object name) = raw name true := by
  rw [ofClass]
  split
  · next h' => rw [hn] at h'; cases h'
  · split
    · next h' => rw [h] at h'; cases h'
    · rfl

/-- Arrays of characters are not byte sequences. -/
lemma ofClass_of_char {c d : RuntimeClass} (h : c.component? = some d)
    (hk : c.innermost.kind? = some .char) : ofClass c = array (ofClass d) true := by
  refine ofClass_of_component? h (SimpleType.ofClass?_eq_none h ?_)
  rintro rfl
  rw [innermost_byteArray] at hk
  cases hk

/-- What characters stand for has texts as its default class, nested in as many arrays. -/
lemma defaultClass_ofClass_of_char {c : RuntimeClass} (hk : c.innermost.kind? = some .char) :
    (ofClass c).defaultClass.IsCanonical ∧
      (ofClass c).defaultClass.innermost = RuntimeClass.text := by
  induction c using induct_component with
  | innermost c h =>
    rw [innermost_of_none h] at hk
    have hd : (ofClass c).defaultClass = RuntimeClass.text := by
      cases c with
      | primitive p | boxed p =>
        cases hk
        rw [ofClass]
        rfl
      | object name => cases hk
    rw [hd]
    exact ⟨by decide +kernel, innermost_of_none rfl⟩
  | array c d h ih =>
    have hkd := hk
    rw [innermost_of_some h] at hkd
    obtain ⟨hc, hi⟩ := ih hkd
    rw [ofClass_of_char h hk]
    exact ⟨hc.arrayOf, (innermost_of_some (component?_arrayOf hc)).trans hi⟩

/-- **When the type of a class accepts it**: unless its innermost component is a character. -/
theorem accepts_ofClass_iff {c : RuntimeClass} :
    (ofClass c).accepts c = true ↔ c.innermost.kind? ≠ some .char := by
  induction c using induct_component with
  | innermost c h =>
    rw [innermost_of_none h]
    cases c with
    | primitive p =>
      rw [ofClass]
      exact SimpleType.accepts_primitive_iff.trans (by simp [kind?])
    | boxed p =>
      rw [ofClass]
      exact SimpleType.accepts_boxed_iff.trans (by simp [kind?])
    | object name =>
      refine ⟨fun _ => by simp [kind?], fun _ => ?_⟩
      cases ht : SimpleType.ofClass? (.object name) with
      | some t =>
        rw [ofClass_of_ofClass? ht]
        exact SimpleType.accepts_of_ofClass?_eq_some ht
      | none =>
        rw [ofClass_of_unknown h ht]
        simp [accepts]
  | array c d h ih =>
    have hi := innermost_of_some h
    cases hn : SimpleType.ofClass? c with
    | some t =>
      -- a known class with a component can only be that of byte sequences
      have hb : c = byteArray := by
        by_contra hb
        rw [SimpleType.ofClass?_eq_none h hb] at hn
        cases hn
      subst hb
      rw [innermost_byteArray, byteArray, ofClass_of_ofClass? hn]
      exact ⟨fun _ => by decide, fun _ => SimpleType.accepts_of_ofClass?_eq_some hn⟩
    | none =>
      rw [ofClass_of_component? h hn, hi, ← ih, accepts_array_iff]
      constructor
      · rintro (hwhole | ⟨e, he, haccepts⟩)
        · rcases hwhole with rfl | hc | rfl
          · cases h
          · -- the default class of such an array leads to texts if it leads to characters
            by_contra hd
            rw [ih, not_not, ← hi] at hd
            have := (defaultClass_ofClass_of_char hd).2
            rw [ofClass_of_component? h hn, ← hc] at this
            rw [this] at hd
            cases hd
          · cases h
        · rw [h] at he
          cases he
          exact haccepts
      · intro haccepts
        exact .inr ⟨d, h, haccepts⟩

end SqlType

end ScalarCall

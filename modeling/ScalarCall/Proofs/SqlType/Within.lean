import Mathlib.Tactic.Common
import ScalarCall.SqlType.Basic

/-!
The parts of a type at every depth. What holds of all of them holds of the type itself and of all
within its direct parts.
-/

namespace ScalarCall.SqlType

/-- A type is within another one at some depth, or is that type. -/
inductive Within (u : SqlType) : SqlType → Prop
  | self : Within u u
  | element {e : SqlType} {n : Bool} (h : Within u e) : Within u (array e n)
  | key {k v : SqlType} {n : Bool} (h : Within u k) : Within u (map k v n)
  | value {k v : SqlType} {n : Bool} (h : Within u v) : Within u (map k v n)
  | field {fs : List (String × SqlType)} {n : Bool} {f : String × SqlType} (hf : f ∈ fs)
    (h : Within u f.2) : Within u (row fs n)

variable {P : SqlType → Prop} {n : Bool}

lemma forall_within_null_iff : (∀ u : SqlType, u.Within null → P u) ↔ P null := by
  constructor
  · intro h
    exact h _ .self
  · rintro h u ⟨⟩
    exact h

lemma forall_within_simple_iff {t : SimpleType} :
    (∀ u : SqlType, u.Within (simple t n) → P u) ↔ P (simple t n) := by
  constructor
  · intro h
    exact h _ .self
  · rintro h u ⟨⟩
    exact h

lemma forall_within_array_iff {e : SqlType} :
    (∀ u : SqlType, u.Within (array e n) → P u) ↔
      P (array e n) ∧ ∀ u : SqlType, u.Within e → P u := by
  constructor
  · intro h
    exact ⟨h _ .self, fun u hu => h u hu.element⟩
  · rintro ⟨hself, he⟩ u hu
    cases hu with
    | self => exact hself
    | element hu => exact he u hu

lemma forall_within_map_iff {k v : SqlType} :
    (∀ u : SqlType, u.Within (map k v n) → P u) ↔
      P (map k v n) ∧ (∀ u : SqlType, u.Within k → P u) ∧ ∀ u : SqlType, u.Within v → P u := by
  constructor
  · intro h
    exact ⟨h _ .self, fun u hu => h u hu.key, fun u hu => h u hu.value⟩
  · rintro ⟨hself, hk, hv⟩ u hu
    cases hu with
    | self => exact hself
    | key hu => exact hk u hu
    | value hu => exact hv u hu

lemma forall_within_row_iff {fs : List (String × SqlType)} :
    (∀ u : SqlType, u.Within (row fs n) → P u) ↔
      P (row fs n) ∧ ∀ f ∈ fs, ∀ u : SqlType, u.Within f.2 → P u := by
  constructor
  · intro h
    exact ⟨h _ .self, fun f hf u hu => h u (.field hf hu)⟩
  · rintro ⟨hself, hfs⟩ u hu
    cases hu with
    | self => exact hself
    | field hf hu => exact hfs _ hf u hu

end ScalarCall.SqlType

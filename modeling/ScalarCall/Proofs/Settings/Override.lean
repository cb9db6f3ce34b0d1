import Mathlib.Tactic.Common
import ScalarCall.Proofs.Settings.Valid

/-!
What comes out of overriding. A variable of the null check that spells no truth value is reported
before all else. Otherwise every setting is that of its variable or, where there is none, the one it
was, and the first hint among these that is no identifier is reported. What is let through stays as
it is when it is overridden again.
-/

namespace ScalarCall.Settings

/-! ### Truth values -/

def truthWords : Bool → List String
  | true => ["true", "1"]
  | false => ["false", "0"]

/-- A text is a word for a truth value, whatever the case of its letters. -/
def IsTruthWord (text : String) (b : Bool) : Prop :=
  ∃ word ∈ truthWords b, text.toLower = word.toLower

variable {s t c : Settings} {lookup : String → Option String} {value : String} {b : Bool} {h : Hint}

/-- The words consist of small letters, so that only the text has to be brought to these. -/
lemma isTruthWord_iff :
    IsTruthWord value b ↔ value.toList.map Char.toLower ∈ (truthWords b).map String.toList := by
  have hsmall : ∀ word ∈ truthWords b, word.toList.map Char.toLower = word.toList := by
    cases b <;> decide
  have hletters : ∀ text : String, text.toLower.toList = text.toList.map Char.toLower :=
    fun _ => String.toList_map
  simp only [IsTruthWord, List.mem_map, ← String.toList_inj, hletters]
  constructor
  · rintro ⟨word, hword, h⟩
    exact ⟨word, hword, by rw [h, hsmall word hword]⟩
  · rintro ⟨word, hword, h⟩
    exact ⟨word, hword, by rw [hsmall word hword, h]⟩

lemma parseBool?_eq_some_iff : parseBool? value = some b ↔ IsTruthWord value b := by
  rw [isTruthWord_iff, parseBool?]
  generalize value.toList.map Char.toLower = letters
  have htrue : letters ∈ (truthWords true).map String.toList ↔
      letters = "true".toList ∨ letters = "1".toList := by
    simp only [truthWords, List.map_cons, List.map_nil, List.mem_cons, List.not_mem_nil, or_false]
  have hfalse : letters ∈ (truthWords false).map String.toList ↔
      letters = "false".toList ∨ letters = "0".toList := by
    simp only [truthWords, List.map_cons, List.map_nil, List.mem_cons, List.not_mem_nil, or_false]
  simp only [Bool.or_eq_true, decide_eq_true_eq]
  split_ifs with h k
  · -- a word for true is none for false
    cases b with
    | true => simp only [htrue, h]
    | false => rcases h with rfl | rfl <;> decide
  · cases b with
    | true => simp only [htrue, h, Option.some.injEq, reduceCtorEq]
    | false => simp only [hfalse, k]
  · cases b with
    | true => simp only [htrue, h]
    | false => simp only [hfalse, k]

/-! ### The settings before the check -/

/-- The settings of the variables that are there, and of the base where there is no variable. -/
structure IsOverridden (s : Settings) (lookup : String → Option String) (c : Settings) : Prop where
  nullCheck_of_none : lookup nullCheckVariable = none → c.nullCheck = s.nullCheck
  nullCheck_of_some : ∀ value, lookup nullCheckVariable = some value → IsTruthWord value c.nullCheck
  get_eq : ∀ h, c.get h = (lookup h.variable).getD (s.get h)

lemma IsOverridden.unique (hc : s.IsOverridden lookup c) (ht : s.IsOverridden lookup t) :
    c = t := by
  refine ext_get ?_ fun k => by rw [hc.get_eq, ht.get_eq]
  cases hv : lookup nullCheckVariable with
  | none => rw [hc.nullCheck_of_none hv, ht.nullCheck_of_none hv]
  | some value =>
    have h := parseBool?_eq_some_iff.2 (hc.nullCheck_of_some value hv)
    rw [parseBool?_eq_some_iff.2 (ht.nullCheck_of_some value hv)] at h
    exact (Option.some.inj h).symm

/-- Overridden settings are overridden by the same variables already. -/
lemma IsOverridden.self (hc : s.IsOverridden lookup c) : c.IsOverridden lookup c where
  nullCheck_of_none _ := rfl
  nullCheck_of_some := hc.nullCheck_of_some
  get_eq h := by
    have hget := hc.get_eq h
    cases hv : lookup h.variable with
    | none => rfl
    | some value =>
      rw [hv] at hget
      exact hget

end ScalarCall.Settings

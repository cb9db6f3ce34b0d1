import Mathlib.Tactic.Common
import ScalarCall.Settings.Override
import ScalarCall.Settings.Stored

/-!
Settings whose hints are all identifiers. Reading and overriding end with a check, so that nothing
else comes out of them.
-/

namespace ScalarCall

lemma Hint.mem_all (h : Hint) : h ∈ all := by cases h <;> decide

namespace Settings

def IsValid (s : Settings) : Prop := ∀ h, isIdentifier (s.get h) = true

variable {s t : Settings}

/-- The check changes nothing, and lets through what is valid. -/
lemma validate_eq_ok_iff : s.validate = .ok t ↔ t = s ∧ s.IsValid := by
  have hfind : (Hint.all.find? fun h => !isIdentifier (s.get h)) = none ↔ s.IsValid := by
    rw [List.find?_eq_none]
    constructor
    · intro h k
      simpa using h k k.mem_all
    · intro h k _
      simp [h k]
  unfold validate
  split
  · next h hbad =>
    constructor
    · intro h
      cases h
    · rintro ⟨-, hvalid⟩
      rw [hfind.2 hvalid] at hbad
      cases hbad
  · next hnone =>
    simp only [Except.ok.injEq, hfind.1 hnone, and_true]
    exact eq_comm

lemma validate_of_validate (h : s.validate = .ok t) : t.validate = .ok t := by
  obtain ⟨rfl, hvalid⟩ := validate_eq_ok_iff.1 h
  exact h

theorem validate_of_ofText {text : String} (h : ofText text = .ok s) : s.validate = .ok s := by
  unfold ofText at h
  split at h
  · exact validate_of_validate h
  · cases h

theorem validate_of_ofFile {file : Option ByteArray} (h : ofFile file = .ok s) :
    s.validate = .ok s := by
  unfold ofFile at h
  split at h
  · cases h
  · split at h
    · exact validate_of_ofText h
    · cases h

theorem validate_of_override {lookup : String → Option String} (h : s.override lookup = .ok t) :
    t.validate = .ok t := by
  unfold override at h
  cases hn : s.overrideNullCheck lookup with
  | error e =>
    rw [hn] at h
    cases h
  | ok u =>
    rw [hn] at h
    exact validate_of_validate h

end Settings

end ScalarCall

import ScalarCall.Proofs.Registry.Alignment
import ScalarCall.Proofs.Registry.Converters
import ScalarCall.Proofs.Registry.Mints

/-!
What is registered once stays registered, under the same field. Converters that have their fields
are not registered again, and a registry that none is added to holds what it held.
-/

namespace ScalarCall.Registry

/-- The type has the field that its conversion needs, if it needs one. -/
def Provides (r : Registry) (b : BridgedType) : Prop :=
  b.needsField = true → ∃ field, r.converterField? b = some field

variable {r s : Registry} {b : BridgedType} {bs : List BridgedType}

lemma GrowsTo.functionField?_eq_some {identifier field : String} (h : r.GrowsTo s)
    (hf : r.functionField? identifier = some field) : s.functionField? identifier = some field := by
  obtain ⟨ms, rfl⟩ := h.exists_mintAll
  rw [functionField?, functionFields_mintAll]
  exact lookup_append_of_some _ hf

lemma GrowsTo.converterField?_eq_some {field : String} (h : r.GrowsTo s)
    (hb : r.converterField? b = some field) : s.converterField? b = some field := by
  obtain ⟨ms, rfl⟩ := h.exists_mintAll
  rw [converterField?, converterFields_mintAll]
  exact lookup_append_of_some _ hb

lemma missing_eq_nil_iff : r.missing bs = [] ↔ ∀ b ∈ bs, r.Provides b := by
  have hdups : ∀ l : List BridgedType, l.eraseDups = [] ↔ l = [] := by
    intro l
    cases l <;> simp [List.eraseDups_cons]
  rw [missing, hdups, List.filter_eq_nil_iff]
  refine forall₂_congr fun b _ => ?_
  rw [Provides, Bool.and_eq_true, not_and, Bool.not_eq_true, Option.isNone_eq_false_iff,
    Option.isSome_iff_exists]

/-! ### Registries that nothing was added to -/

/-- The second registry holds what the first one does: the same functions, converters and variables,
and the same statements about them. -/
structure Untouched (r s : Registry) : Prop where
  references : s.references = r.references
  converters : s.converters = r.converters
  locals : s.locals = r.locals
  declarations : s.declarations = r.declarations
  initializations : s.initializations = r.initializations
  openings : s.openings = r.openings
  closings : s.closings = r.closings

/-- A name alone is not held. -/
lemma untouched_withName_iff {x : String} : r.Untouched (s.withName x) ↔ r.Untouched s := by
  constructor
  · intro h
    exact ⟨h.references, h.converters, h.locals, h.declarations, h.initializations, h.openings,
      h.closings⟩
  · intro h
    exact ⟨h.references, h.converters, h.locals, h.declarations, h.initializations, h.openings,
      h.closings⟩

lemma AddsConverters.untouched_iff (h : r.AddsConverters s bs) : r.Untouched s ↔ bs = [] := by
  constructor
  · intro hs
    have hconverters := h.converters
    rw [hs.converters] at hconverters
    simpa using hconverters
  · rintro rfl
    have hnone : r.newMembers [] = [] := rfl
    refine ⟨h.references, ?_, h.locals, ?_, ?_, ?_, h.closings⟩
    · simp [h.converters]
    · simp [h.declarations, hnone]
    · simp [h.initializations, hnone]
    · simp [h.openings, hnone]

end ScalarCall.Registry

import ScalarCall.Proofs.Registry.Names
import ScalarCall.Proofs.Settings.Valid

/-!
How the names of a registry are spelled. A name is a hint, a `$` and a number; under valid settings
the hints of fields are identifiers, whatever the identifiers of the functions are made of.
-/

namespace ScalarCall

/-- An identifier, a `$` and a number: a letter or an underscore, then letters, digits and
underscores, then the `$`, then digits, of which there is one at least. -/
def IsNumberedIdentifier (x : String) : Prop :=
  ∃ first rest digits, x.toList = first :: rest ++ '$' :: digits ∧
    (first.isAlpha = true ∨ first = '_') ∧ (∀ c ∈ rest, c.isAlphanum = true ∨ c = '_') ∧
    digits ≠ [] ∧ ∀ c ∈ digits, c.isDigit = true

namespace Settings

lemma isIdentifier_iff {x : String} : isIdentifier x = true ↔
    ∃ first rest, x.toList = first :: rest ∧ (first.isAlpha = true ∨ first = '_') ∧
      ∀ c ∈ rest, c.isAlphanum = true ∨ c = '_' := by
  unfold isIdentifier
  cases x.toList with
  | nil => simp
  | cons first rest => simp [isNameStart, isNamePart]

/-- An identifier goes on with any text that is brought to a name. -/
lemma isIdentifier_append_nameOf {x : String} (h : isIdentifier x = true) (identifier : String) :
    isIdentifier (x ++ nameOf identifier) = true := by
  obtain ⟨first, rest, hx, hfirst, hrest⟩ := isIdentifier_iff.1 h
  refine isIdentifier_iff.2 ⟨first, rest ++ (nameOf identifier).toList, ?_, hfirst, ?_⟩
  · rw [String.toList_append, hx, List.cons_append]
  · refine List.forall_mem_append.2 ⟨hrest, fun c hc => ?_⟩
    rw [nameOf, String.toList_ofList] at hc
    obtain ⟨d, -, rfl⟩ := List.mem_map.1 hc
    split_ifs with hd
    · exact .inl hd
    · exact .inr rfl

end Settings

namespace Registry

open Settings

lemma isNumberedIdentifier_numbered {hint : String} (h : isIdentifier hint = true) (n : ℕ) :
    IsNumberedIdentifier (numbered hint n) := by
  obtain ⟨first, rest, hx, hfirst, hrest⟩ := isIdentifier_iff.1 h
  refine ⟨first, rest, n.repr.toList, ?_, hfirst, hrest, ?_, fun c hc => isDigit_of_mem_repr hc⟩
  · simp [numbered, toString, hx]
  · rw [Nat.toList_repr]
    exact Nat.toDigits_ne_nil

def fields (r : Registry) : List String :=
  r.functionFields.map Prod.snd ++ r.converterFields.map Prod.snd

variable {r s : Registry} {x : String}

lemma isNumberedIdentifier_nextName (hr : r.settings.IsValid) (h : Hint) :
    IsNumberedIdentifier (r.nextName (r.settings.get h)) :=
  isNumberedIdentifier_numbered (hr h) _

lemma isNumberedIdentifier_newFunctionField (hr : r.settings.IsValid) (f : FunctionRef) :
    IsNumberedIdentifier (r.newFunctionField f) :=
  isNumberedIdentifier_numbered (isIdentifier_append_nameOf (hr .functionField) f.identifier) _

lemma isNumberedIdentifier_newConverterField (hr : r.settings.IsValid) :
    IsNumberedIdentifier r.newConverterField :=
  isNumberedIdentifier_nextName hr .converterField

lemma mem_fields_withFunction {f : FunctionRef} {field : String} :
    x ∈ ((r.withName field).withFunction f field).fields ↔ x ∈ r.fields ∨ x = field := by
  simp [fields, withFunction, withStatements, withName, or_comm, or_left_comm]

lemma mem_fields_withConverter {b : BridgedType} {field : String} :
    x ∈ ((r.withName field).withConverter b field).fields ↔ x ∈ r.fields ∨ x = field := by
  simp [fields, withConverter, withStatements, withName, or_assoc]

theorem GrowsTo.fields_spelled (h : r.GrowsTo s) (hr : r.settings.IsValid)
    (hfields : ∀ x ∈ r.fields, IsNumberedIdentifier x) :
    ∀ x ∈ s.fields, IsNumberedIdentifier x := by
  induction h with
  | refl => exact hfields
  | name hint _ ih => exact ih
  | localVariable typeTerm hint _ ih => exact ih
  | @function s f h _ ih =>
    intro x hx
    rcases mem_fields_withFunction.1 hx with hx | rfl
    · exact ih x hx
    · exact isNumberedIdentifier_newFunctionField (h.settings_eq ▸ hr) f
  | @converter s b h _ ih =>
    intro x hx
    rcases mem_fields_withConverter.1 hx with hx | rfl
    · exact ih x hx
    · exact isNumberedIdentifier_newConverterField (h.settings_eq ▸ hr)

end Registry

end ScalarCall

import ScalarCall.Proofs.Conversion.Support
import ScalarCall.Proofs.SqlType.OfClass

/-!
Arrays in arrays. An array class stands for a type with as many arrays around it as components can
be taken, and what is in them is what the innermost class stands for. The one class that cuts this
short is that of byte sequences, which is an array class of bytes but stands for no array.
-/

namespace ScalarCall

open RuntimeClass

namespace SqlType

/-- Arrays around a type, the outermost first. Each says whether it admits null. -/
def arrays : List Bool → SqlType → SqlType
  | [], t => t
  | n :: ns, t => array (arrays ns t) n

lemma arrays_replicate_succ (n : ℕ) (t : SqlType) :
    arrays (List.replicate (n + 1) true) t = array (arrays (List.replicate n true) t) true := rfl

lemma ofClass_byteArray : ofClass byteArray = bytes := ofClass_of_ofClass? rfl

lemma ofClass_of_ne_byteArray {c d : RuntimeClass} (h : c.component? = some d)
    (hb : c ≠ byteArray) : ofClass c = array (ofClass d) true :=
  ofClass_of_component? h (SimpleType.ofClass?_eq_none h hb)

lemma componentAt?_succ_byteArray_ne (j : ℕ) :
    componentAt? (j + 1) byteArray ≠ some byteArray := by
  intro h
  rw [componentAt?_succ_of_some component?_byteArray] at h
  cases j <;> cases h

/-- Byte sequences end the arrays one step before the innermost class. -/
lemma ofClass_of_componentAt?_byteArray {c : RuntimeClass} {j : ℕ}
    (h : componentAt? j c = some byteArray) : ofClass c = arrays (List.replicate j true) bytes := by
  induction j generalizing c with
  | zero =>
    cases h
    exact ofClass_byteArray
  | succ j ih =>
    have hb : c ≠ byteArray := by
      rintro rfl
      exact componentAt?_succ_byteArray_ne j h
    obtain ⟨d, hd, hj⟩ := componentAt?_succ_eq_some.1 h
    rw [ofClass_of_ne_byteArray hd hb, ih hj, arrays_replicate_succ]

/-- Without byte sequences on the way there are as many arrays as components. -/
lemma ofClass_of_componentAt?_ne_byteArray {c : RuntimeClass}
    (h : ∀ j < c.components.length, componentAt? j c ≠ some byteArray) :
    ofClass c = arrays (List.replicate c.components.length true) (ofClass c.innermost) := by
  induction c using induct_component with
  | innermost c hc =>
    rw [components_of_none hc, innermost_of_none hc]
    rfl
  | array c d hd ih =>
    have hlen : c.components.length = d.components.length + 1 := by
      rw [components_of_some hd, List.length_cons]
    have hb : c ≠ byteArray := by
      rintro rfl
      exact h 0 (by omega) rfl
    have hrest : ∀ j < d.components.length, componentAt? j d ≠ some byteArray := by
      intro j hj
      rw [← componentAt?_succ_of_some hd]
      exact h (j + 1) (by omega)
    rw [ofClass_of_ne_byteArray hd hb, ih hrest, hlen, innermost_of_some hd,
      arrays_replicate_succ]

lemma length_components_of_componentAt?_byteArray {c : RuntimeClass} {j : ℕ}
    (h : componentAt? j c = some byteArray) : c.components.length = j + 1 := by
  have hone : byteArray.components.length = 1 := by
    rw [components_of_some component?_byteArray, components_of_none rfl]
    rfl
  rw [length_components_of_componentAt? h, hone]

lemma kind?_eq_char_iff {c : RuntimeClass} :
    c.kind? = some .char ↔ c = .primitive .char ∨ c = .boxed .char := by
  cases c <;> simp [kind?]

/-- **What a class stands for can be converted to it**, unless characters are at its innermost.
Components end at a class that is no array. The type has an array for each step on the way, around
what this class stands for; but the last step from byte sequences to bytes is not taken. -/
theorem ofClass_eq_arrays (c : RuntimeClass) :
    let k := c.components.length
    let b := c.innermost
    let extracted := BridgedType.ofClass c
    componentAt? k c = some b ∧ b.component? = none ∧ extracted.runtimeClass = c ∧
    (∀ j, k = j + 1 → componentAt? j c = some (.object "byte[]") →
      extracted.type = arrays (List.replicate j true) bytes) ∧
    ((∀ j, k = j + 1 → componentAt? j c ≠ some (.object "byte[]")) →
      extracted.type = arrays (List.replicate k true) (BridgedType.ofClass b).type) ∧
    (extracted.type.accepts c = true ↔ b ≠ .primitive .char ∧ b ≠ .boxed .char) ∧
    ∀ d term r, (∃ text, ((extracted.convert d term).run.run r).1 = .ok text) ↔
      b ≠ .primitive .char ∧ b ≠ .boxed .char := by
  intro k b extracted
  have haccepts : (ofClass c).accepts c = true ↔ b ≠ .primitive .char ∧ b ≠ .boxed .char := by
    rw [accepts_ofClass_iff, Ne, kind?_eq_char_iff, not_or]
  refine ⟨componentAt?_length_components c, component?_innermost c, rfl, ?_, ?_, haccepts, ?_⟩
  · exact fun j _ hj => ofClass_of_componentAt?_byteArray hj
  · intro h
    refine ofClass_of_componentAt?_ne_byteArray fun j _ hj => ?_
    exact h j (length_components_of_componentAt?_byteArray hj) hj
  · intro d term r
    rw [BridgedType.exists_run_convert_iff]
    exact haccepts

end SqlType

end ScalarCall

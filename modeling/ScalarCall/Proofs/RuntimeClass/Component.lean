import ScalarCall.Proofs.Text.Trim
import ScalarCall.RuntimeClass

/-!
Array classes and their components. A class that its own name is read as is called canonical, and for
these `arrayOf` and `component?` undo each other. Components end at a class that has none, the
innermost one.
-/

namespace ScalarCall.RuntimeClass

open Text

/-! ### Names -/

lemma term_ofName (name : String) : (ofName name).term = name := by
  unfold ofName
  split
  · next k h => exact eq_of_beq (List.find?_some (p := fun k : Primitive => k.term == name) h)
  · split
    · next k h =>
      exact eq_of_beq (List.find?_some (p := fun k : Primitive => k.boxedTerm == name) h)
    · rfl

lemma ofName_eq_object {name : String} (h : ∀ k : Primitive, k.term ≠ name ∧ k.boxedTerm ≠ name) :
    ofName name = object name := by
  have ht : Primitive.all.find? (·.term == name) = none :=
    List.find?_eq_none.2 fun k _ => by simp [(h k).1]
  have hb : Primitive.all.find? (·.boxedTerm == name) = none :=
    List.find?_eq_none.2 fun k _ => by simp [(h k).2]
  unfold ofName
  rw [ht, hb]

/-- No primitive and no boxed form is named like an array. -/
lemma ofName_append_brackets (name : String) : ofName (name ++ "[]") = object (name ++ "[]") := by
  refine ofName_eq_object fun k => ⟨?_, ?_⟩ <;>
  · intro h
    have hlast := congrArg (fun s => s.toList.getLast?) h
    rw [String.toList_append, List.getLast?_append_of_ne_nil _ (by decide)] at hlast
    revert hlast
    cases k <;> decide

lemma parse_term_eq (name : String) : (parse name).term = trim name := term_ofName _

/-! ### Canonical classes -/

/-- The class is the one that its name is read as. -/
def IsCanonical (c : RuntimeClass) : Prop := parse c.term = c

instance (c : RuntimeClass) : Decidable c.IsCanonical :=
  inferInstanceAs (Decidable (parse c.term = c))

lemma IsCanonical.isTrimmed_term {c : RuntimeClass} (h : c.IsCanonical) :
    IsTrimmed c.term.toList := by
  rw [← trim_eq_self_iff, ← parse_term_eq, h]

lemma isTrimmed_append_brackets {s : String} (h : IsTrimmed s.toList) :
    IsTrimmed (s ++ "[]").toList := by
  have hb : IsTrimmed ['[', ']'] := by
    constructor <;> rintro c ⟨⟩ <;> rfl
  rw [String.toList_append]
  by_cases hs : s.toList = []
  · rwa [hs]
  · have := h.append hb hs (by decide) []
    rwa [List.append_nil] at this

lemma IsCanonical.arrayOf {c : RuntimeClass} (h : c.IsCanonical) : c.arrayOf.IsCanonical := by
  show ofName (trim (c.term ++ "[]")) = _
  rw [trim_of_isTrimmed (isTrimmed_append_brackets h.isTrimmed_term), ofName_append_brackets]
  rfl

/-! ### Components -/

lemma component?_object {name : String} {d : RuntimeClass} :
    (object name).component? = some d ↔
      ∃ base : String, name = base ++ "[]" ∧ parse base = d := by
  simp only [component?, Option.map_eq_some_iff, beforeBrackets?_eq_some]
  constructor
  · rintro ⟨cs, hcs, rfl⟩
    refine ⟨.ofList cs, ?_, rfl⟩
    rw [← String.toList_inj, hcs]
    simp
  · rintro ⟨base, rfl, rfl⟩
    exact ⟨base.toList, by simp, by rw [String.ofList_toList]⟩

lemma component?_arrayOf {c : RuntimeClass} (h : c.IsCanonical) : c.arrayOf.component? = some c :=
  component?_object.2 ⟨c.term, rfl, h⟩

/-- Induction from the component of an array class to the class. -/
theorem induct_component {P : RuntimeClass → Prop}
    (innermost : ∀ c, c.component? = none → P c)
    (array : ∀ c d, c.component? = some d → P d → P c) (c : RuntimeClass) : P c :=
  match h : c.component? with
  | none => innermost c h
  | some d => array c d h (induct_component innermost array d)
termination_by c.depth
decreasing_by exact depth_component h

/-- The last class that taking components leads to; the class itself if it is no array. -/
def innermost (c : RuntimeClass) : RuntimeClass := c.components.getLastD c

lemma components_of_none {c : RuntimeClass} (h : c.component? = none) : c.components = [] := by
  unfold components
  split
  · next h' => rw [h] at h'; cases h'
  · rfl

lemma components_of_some {c d : RuntimeClass} (h : c.component? = some d) :
    c.components = d :: d.components := by
  rw [components]
  split
  · next h' => rw [h] at h'; cases h'; rfl
  · next h' => rw [h] at h'; cases h'

lemma innermost_of_none {c : RuntimeClass} (h : c.component? = none) : c.innermost = c := by
  rw [innermost, components_of_none h]
  rfl

lemma innermost_of_some {c d : RuntimeClass} (h : c.component? = some d) :
    c.innermost = d.innermost := by
  rw [innermost, components_of_some h, List.getLastD_cons]
  rfl

lemma component?_innermost (c : RuntimeClass) : c.innermost.component? = none := by
  induction c using induct_component with
  | innermost c h => rwa [innermost_of_none h]
  | array c d h ih => rwa [innermost_of_some h]

def componentAt? : ℕ → RuntimeClass → Option RuntimeClass
  | 0, c => some c
  | n + 1, c => c.component?.bind (componentAt? n)

lemma componentAt?_succ_of_some {c d : RuntimeClass} (h : c.component? = some d) (n : ℕ) :
    componentAt? (n + 1) c = componentAt? n d := by
  rw [componentAt?, h]
  rfl

lemma componentAt?_succ_eq_some {c e : RuntimeClass} {n : ℕ} :
    componentAt? (n + 1) c = some e ↔ ∃ d, c.component? = some d ∧ componentAt? n d = some e := by
  rw [componentAt?, Option.bind_eq_some_iff]

/-- Components end at the innermost class, after as many steps as there are components. -/
theorem componentAt?_length_components (c : RuntimeClass) :
    componentAt? c.components.length c = some c.innermost := by
  induction c using induct_component with
  | innermost c h =>
    rw [components_of_none h, innermost_of_none h]
    rfl
  | array c d h ih =>
    rw [components_of_some h, innermost_of_some h, List.length_cons, componentAt?_succ_of_some h]
    exact ih

/-- The components of a class that was reached are those that are left. -/
lemma length_components_of_componentAt? {c d : RuntimeClass} {n : ℕ}
    (h : componentAt? n c = some d) : c.components.length = n + d.components.length := by
  induction n generalizing c with
  | zero =>
    cases h
    exact (Nat.zero_add _).symm
  | succ n ih =>
    obtain ⟨e, he, hn⟩ := componentAt?_succ_eq_some.1 h
    rw [components_of_some he, List.length_cons, ih hn]
    omega

end ScalarCall.RuntimeClass

import ScalarCall.Proofs.SqlType.Nesting

/-!
The classes of arrays in arrays. With each component that is taken of a class, one array of the type
is left. An array may take the class that is reached there as a whole; if none does, what is in the
arrays has to accept the class that is reached last. Which types admit null makes no difference.
-/

namespace ScalarCall.SqlType

open RuntimeClass

/-! ### Default classes -/

lemma term_defaultClass_arrays (t : SqlType) (flags : List Bool) :
    (arrays flags t).defaultClass.term =
      t.defaultClass.term ++ String.join (List.replicate flags.length "[]") := by
  induction flags with
  | nil =>
    show t.defaultClass.term = t.defaultClass.term ++ ""
    rw [String.append_empty]
  | cons n flags ih =>
    have hlast : String.join (List.replicate (flags.length + 1) "[]") =
        String.join (List.replicate flags.length "[]") ++ "[]" := by
      rw [List.replicate_succ', String.join_append, String.join_cons, String.join_nil,
        String.append_empty]
    calc (arrays (n :: flags) t).defaultClass.term
        = (arrays flags t).defaultClass.term ++ "[]" := rfl
      _ = t.defaultClass.term ++ (String.join (List.replicate flags.length "[]") ++ "[]") := by
          rw [ih, String.append_assoc]
      _ = t.defaultClass.term ++ String.join (List.replicate (n :: flags).length "[]") := by
          rw [← hlast, List.length_cons]

/-- The default class of an array is an object class, whatever the class of its elements is. -/
lemma defaultClass_arrays_cons (t : SqlType) (n : Bool) (flags : List Bool) :
    (arrays (n :: flags) t).defaultClass =
      .object (t.defaultClass.term ++ String.join (List.replicate (flags.length + 1) "[]")) :=
  congrArg object (term_defaultClass_arrays t (n :: flags))

/-! ### Accepted classes -/

/-- Some array on the way in takes the class that is reached there as a whole. -/
def TakenWhole (t : SqlType) (flags : List Bool) (c : RuntimeClass) : Prop :=
  ∃ j < flags.length, ∃ d, componentAt? j c = some d ∧ (arrays (flags.drop j) t).TakesWhole d

lemma not_takenWhole_nil {t : SqlType} {c : RuntimeClass} : ¬TakenWhole t [] c := by
  rintro ⟨j, hj, -⟩
  exact Nat.not_lt_zero j hj

/-- The outermost array takes the class itself; all others come after a component. -/
lemma takenWhole_cons_iff {t : SqlType} {n : Bool} {flags : List Bool} {c : RuntimeClass} :
    TakenWhole t (n :: flags) c ↔
      (arrays (n :: flags) t).TakesWhole c ∨
        ∃ d, c.component? = some d ∧ TakenWhole t flags d := by
  constructor
  · rintro ⟨j, hj, d, hd, htakes⟩
    cases j with
    | zero =>
      cases hd
      exact .inl htakes
    | succ j =>
      obtain ⟨e, he, hd⟩ := componentAt?_succ_eq_some.1 hd
      exact .inr ⟨e, he, j, Nat.lt_of_succ_lt_succ hj, d, hd, htakes⟩
  · rintro (htakes | ⟨e, he, j, hj, d, hd, htakes⟩)
    · exact ⟨0, Nat.zero_lt_succ _, c, rfl, htakes⟩
    · exact ⟨j + 1, Nat.succ_lt_succ hj, d, componentAt?_succ_eq_some.2 ⟨e, he, hd⟩, htakes⟩

/-- The way into the type and the way into the class go in step, by induction on the arrays. -/
lemma accepts_arrays_iff {t : SqlType} {flags : List Bool} {c : RuntimeClass} :
    (arrays flags t).accepts c = true ↔
      TakenWhole t flags c ∨ ∃ d, componentAt? flags.length c = some d ∧ t.accepts d = true := by
  induction flags generalizing c with
  | nil =>
    rw [or_iff_right not_takenWhole_nil]
    constructor
    · intro h
      exact ⟨c, rfl, h⟩
    · rintro ⟨d, hd, h⟩
      cases hd
      exact h
  | cons n flags ih =>
    rw [arrays, accepts_array_iff, takenWhole_cons_iff, or_assoc]
    apply or_congr_right
    -- the component is what the other arrays are asked about
    constructor
    · rintro ⟨d, hd, h⟩
      rcases ih.1 h with htaken | ⟨e, he, h⟩
      · exact .inl ⟨d, hd, htaken⟩
      · exact .inr ⟨e, componentAt?_succ_eq_some.2 ⟨d, hd, he⟩, h⟩
    · rintro (⟨d, hd, htaken⟩ | ⟨e, he, h⟩)
      · exact ⟨d, hd, ih.2 (.inl htaken)⟩
      · obtain ⟨d, hd, he⟩ := componentAt?_succ_eq_some.1 he
        exact ⟨d, hd, ih.2 (.inr ⟨e, he, h⟩)⟩

/-! ### Null -/

mutual
/-- The same type with null among the values of the type and of all types in it. -/
def admittingNull : SqlType → SqlType
  | null => null
  | simple s _ => simple s true
  | raw c _ => raw c true
  | array e _ => array e.admittingNull true
  | map k v _ => map k.admittingNull v.admittingNull true
  | row fs _ => row (fieldsAdmittingNull fs) true
/-- The fields of a row with null among their values, at every depth. -/
def fieldsAdmittingNull : List (String × SqlType) → List (String × SqlType)
  | [] => []
  | (name, t) :: fs => (name, t.admittingNull) :: fieldsAdmittingNull fs
end

lemma defaultClass_admittingNull (t : SqlType) : t.admittingNull.defaultClass = t.defaultClass := by
  induction t with
  | array e n ih => exact congrArg arrayOf ih
  | null | simple | raw | map | row => rfl

lemma accepts_admittingNull (t : SqlType) (c : RuntimeClass) :
    t.admittingNull.accepts c = t.accepts c := by
  induction t generalizing c with
  | array e n ih =>
    have hdefault : (array e.admittingNull true).defaultClass = (array e n).defaultClass :=
      congrArg arrayOf (defaultClass_admittingNull e)
    rw [Bool.eq_iff_iff, admittingNull, accepts_array_iff, accepts_array_iff, TakesWhole, hdefault,
      TakesWhole]
    simp only [ih]
  | null | simple | raw | map | row => rfl

/-- **What nested arrays can be converted to.** Either an array on the way in takes the class that
is reached there as a whole, or what is in the arrays accepts the class that is reached last. The
default class is named like that of what is in the arrays, with brackets for each array. None of
this depends on whether null is admitted, by the arrays or in them. -/
theorem accepts_arrays (t : SqlType) (outermost : Bool) (others : List Bool) (c : RuntimeClass) :
    let flags := outermost :: others
    let n := flags.length
    let type := arrays flags t
    (type.accepts c = true ↔
      (∃ j < n, ∃ d, componentAt? j c = some d ∧ (arrays (flags.drop j) t).TakesWhole d) ∨
        ∃ d, componentAt? n c = some d ∧ t.accepts d = true) ∧
    type.defaultClass = .object (t.defaultClass.term ++ String.join (List.replicate n "[]")) ∧
    type.admittingNull.accepts c = type.accepts c ∧
    type.admittingNull.defaultClass = type.defaultClass := by
  intro flags n type
  refine ⟨accepts_arrays_iff, ?_, ?_, ?_⟩
  · exact defaultClass_arrays_cons t outermost others
  · exact accepts_admittingNull type c
  · exact defaultClass_admittingNull type

-- arrays of lists: the inner array takes the component
example : (arrays [true, true] (simple .int true)).accepts (.object "java.util.List[]") = true := by
  decide +kernel

end ScalarCall.SqlType

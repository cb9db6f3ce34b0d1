import ScalarCall.Call.Argument
import ScalarCall.Proofs.Conversion.Support
import ScalarCall.Proofs.Function.Applicable
import ScalarCall.Proofs.SqlType.OfClass

/-!
Arguments. What an argument does to the registry is what the conversion of its operand does, and an
argument whose class takes its operand is always made.
-/

namespace ScalarCall

namespace Expression

@[simp] lemma withTerm_type (e : Expression) (term : String) : (e.withTerm term).type = e.type :=
  rfl

@[simp] lemma withTerm_code (e : Expression) (term : String) : (e.withTerm term).code = e.code :=
  rfl

lemma asMillis_eq (e : Expression) (c : RuntimeClass) :
    ∃ term, e.asMillis c = e.withTerm term := by
  unfold asMillis
  split
  · exact ⟨_, rfl⟩
  · exact ⟨e.term, rfl⟩

@[simp] lemma asMillis_type (e : Expression) (c : RuntimeClass) : (e.asMillis c).type = e.type := by
  obtain ⟨term, h⟩ := e.asMillis_eq c
  rw [h, withTerm_type]

/-- Only a primitive gets milliseconds. -/
lemma asMillis_of_object {c : RuntimeClass} (hc : c.isPrimitive = false) (e : Expression) :
    e.asMillis c = e := by
  have hlong : (c == .primitive .long) = false := by
    cases c with
    | primitive => cases hc
    | boxed | object => rfl
  simp [asMillis, hlong]

end Expression

namespace Converter

variable (cv : Converter)

lemma run_argument_of_primitive {c : RuntimeClass} (h : c.isPrimitive = true) (e : Expression)
    (b : BridgedType) (r : Registry) :
    (cv.argument e c b).run.run r = (.ok (e.asMillis c), r) := by
  unfold argument
  simp only [h, ↓reduceIte]
  rfl

lemma run_argument_of_object {c : RuntimeClass} (h : c.isPrimitive = false) (e : Expression)
    (b : BridgedType) (r : Registry) :
    (cv.argument e c b).run.run r =
      match (cv.toExternal (cv.target b e.type) (e.asMillis c).term).run.run r with
      | (.error x, s) => (.error x, s)
      | (.ok external, s) => (.ok ((e.asMillis c).withTerm
          (guarded s.settings (e.asMillis c).nullTerm external)), s) := by
  unfold argument
  simp only [h, Bool.false_eq_true, ↓reduceIte, Expression.asMillis_type]
  rw [Generating.run_bind]
  rcases (cv.toExternal (cv.target b e.type) (e.asMillis c).term).run.run r with ⟨_ | _, _⟩ <;> rfl

lemma run_argumentList_cons (e : Expression) (es : List Expression) (c : RuntimeClass)
    (cs : List RuntimeClass) (b : BridgedType) (bs : List BridgedType) (r : Registry) :
    (cv.argumentList (e :: es) (c :: cs) (b :: bs)).run.run r =
      match (cv.argument e c b).run.run r with
      | (.error x, s) => (.error x, s)
      | (.ok a, s) =>
        match (cv.argumentList es cs bs).run.run s with
        | (.error x, t) => (.error x, t)
        | (.ok rest, t) => (.ok (a :: rest), t) := by
  rw [argumentList, Generating.run_bind]
  rcases (cv.argument e c b).run.run r with ⟨_ | a, s⟩
  · rfl
  · dsimp only
    rw [Generating.run_bind]
    rcases (cv.argumentList es cs bs).run.run s with ⟨_ | _, _⟩ <;> rfl

lemma run_arguments_of_length {es : List Expression} {cs : List RuntimeClass}
    {bs : List BridgedType} (hc : cs.length = es.length) (hb : bs.length = es.length)
    (r : Registry) :
    (cv.arguments es cs bs).run.run r = (cv.argumentList es cs bs).run.run r := by
  unfold arguments
  simp [hc, hb]

/-- The number of classes is looked at first. -/
lemma run_arguments_of_classes_ne {es : List Expression} {cs : List RuntimeClass}
    (hc : cs.length ≠ es.length) (bs : List BridgedType) (r : Registry) :
    (cv.arguments es cs bs).run.run r = (.error (.arity cs.length es.length), r) := by
  unfold arguments
  rw [if_pos hc]
  rfl

lemma run_arguments_of_types_ne {es : List Expression} {cs : List RuntimeClass}
    {bs : List BridgedType} (hc : cs.length = es.length) (hb : bs.length ≠ es.length)
    (r : Registry) :
    (cv.arguments es cs bs).run.run r = (.error (.arity bs.length es.length), r) := by
  unfold arguments
  rw [if_neg (not_not_intro hc), if_pos hb]
  rfl

lemma run_argument_eq_ok {e a : Expression} {c : RuntimeClass} {b : BridgedType} {r s : Registry}
    (h : (cv.argument e c b).run.run r = (.ok a, s)) : ∃ term, a = e.withTerm term := by
  obtain ⟨term, hterm⟩ := e.asMillis_eq c
  cases hc : c.isPrimitive with
  | true =>
    rw [run_argument_of_primitive cv hc, hterm] at h
    cases h
    exact ⟨term, rfl⟩
  | false =>
    rw [run_argument_of_object cv hc, hterm] at h
    split at h
    · cases h
    · cases h
      exact ⟨_, rfl⟩

lemma run_arguments_eq_ok {es args : List Expression} {cs : List RuntimeClass}
    {bs : List BridgedType} {r s : Registry}
    (h : (cv.arguments es cs bs).run.run r = (.ok args, s)) :
    cs.length = es.length ∧ bs.length = es.length ∧
      (cv.argumentList es cs bs).run.run r = (.ok args, s) := by
  by_cases hc : cs.length = es.length
  · by_cases hb : bs.length = es.length
    · rw [run_arguments_of_length cv hc hb] at h
      exact ⟨hc, hb, h⟩
    · rw [run_arguments_of_types_ne cv hc hb] at h
      cases h
  · rw [run_arguments_of_classes_ne cv hc] at h
    cases h

/-- There is one argument for each operand, in order. -/
theorem forall₂_of_run_arguments {es args : List Expression} {cs : List RuntimeClass}
    {bs : List BridgedType} {r s : Registry}
    (h : (cv.arguments es cs bs).run.run r = (.ok args, s)) :
    List.Forall₂ (fun a e => ∃ term, a = Expression.withTerm e term) args es := by
  obtain ⟨hc, hb, hl⟩ := cv.run_arguments_eq_ok h
  clear h
  induction es generalizing cs bs args r s with
  | nil =>
    cases hl
    exact .nil
  | cons e es ih =>
    obtain ⟨c, cs, rfl⟩ := List.exists_cons_of_length_eq_add_one hc
    obtain ⟨b, bs, rfl⟩ := List.exists_cons_of_length_eq_add_one hb
    rw [argumentList, Generating.run_bind_eq_ok] at hl
    obtain ⟨a, m, ha, hl⟩ := hl
    rw [Generating.run_bind_eq_ok] at hl
    obtain ⟨rest, n, hrest, hl⟩ := hl
    cases hl
    have hc : cs.length = es.length := Nat.succ.inj hc
    have hb : bs.length = es.length := Nat.succ.inj hb
    exact .cons (cv.run_argument_eq_ok ha) (ih hc hb hrest)

end Converter

/-! ### Arguments of an applicable signature -/

namespace SqlType

/-- The class in which an operand is passed to a parameter: that of the parameter, or if any object
will do the operand's own. -/
def passedAs (t : SqlType) (c : RuntimeClass) : RuntimeClass :=
  if c = .anyObject then t.defaultClass else c

/-- A type is passed as any object only if this is its default. -/
lemma defaultClass_eq_of_accepts_anyObject {t : SqlType} (h : t.accepts .anyObject = true) :
    t.defaultClass = .anyObject := by
  cases t with
  | null => rfl
  | simple t n =>
    have hn : t.accepts .anyObject = false := by cases t <;> rfl
    rw [accepts, hn] at h
    cases h
  | raw name n =>
    have hinternal : (RuntimeClass.anyObject == RuntimeClass.rawValueData) = false := by decide
    rw [accepts, hinternal, Bool.false_or, beq_iff_eq] at h
    exact h.symm
  | array e n =>
    have hcomponent : RuntimeClass.anyObject.component? = none := by decide
    rcases accepts_array_iff.1 h with hwhole | ⟨d, hd, -⟩
    · rcases hwhole with hinternal | hdefault | hlist
      · exact absurd hinternal (by decide)
      · exact hdefault.symm
      · exact absurd hlist (by decide)
    · rw [hcomponent] at hd
      cases hd
  | map k v n => cases h
  | row fs n => cases h

lemma accepts_passedAs {t : SqlType} {c : RuntimeClass} (h : c.Takes t) :
    t.accepts (t.passedAs c) = true := by
  unfold passedAs
  split_ifs with ho
  · exact t.accepts_defaultClass
  · exact h.resolve_left ho

end SqlType

lemma parameterType_anyObject (t : SqlType) :
    parameterType .anyObject t = ⟨.raw "java.lang.Object" true, .anyObject⟩ := by
  unfold parameterType
  simp only [ne_eq, not_true_eq_false, decide_false, Bool.false_and, Bool.false_eq_true,
    ↓reduceIte, BridgedType.ofClass, RuntimeClass.anyObject]
  rw [SqlType.ofClass_of_unknown rfl rfl]

lemma parameterType_of_accepts {c : RuntimeClass} {t : SqlType} (ho : c ≠ .anyObject)
    (h : t.accepts c = true) : parameterType c t = ⟨t, c⟩ := by
  simp [parameterType, ho, h]

lemma Signature.types_of {f : Function} {m : Resolved} {types : List SqlType}
    (hp : f.parameterTypes m.parameters = none) :
    (Signature.of f m types).types = List.zipWith parameterType m.parameters types := by
  unfold Signature.of
  rw [hp, Option.getD_none]

namespace Converter

lemma accepts_standard : standard.accepts = SqlType.accepts := rfl

lemma target_of_takes {c : RuntimeClass} {t : SqlType} (h : c.Takes t) :
    standard.target (parameterType c t) t = ⟨t, t.passedAs c⟩ := by
  by_cases ho : c = .anyObject
  · subst ho
    rw [parameterType_anyObject, SqlType.passedAs, if_pos rfl]
    show (if t.accepts .anyObject then _ else _ : BridgedType) = _
    split_ifs with hc
    · rw [SqlType.defaultClass_eq_of_accepts_anyObject hc]
    · rfl
  · have ha : t.accepts c = true := h.resolve_left ho
    rw [parameterType_of_accepts ho ha, SqlType.passedAs, if_neg ho, target, accepts_standard]
    simp only [ha, ↓reduceIte, ite_self]

lemma isSupported_target {c : RuntimeClass} {t : SqlType} (h : c.Takes t) :
    (standard.target (parameterType c t) t).isSupported = true := by
  rw [target_of_takes h]
  exact SqlType.accepts_passedAs h

lemma run_argument_of_takes {c : RuntimeClass} {e : Expression} (h : c.Takes e.type)
    (r : Registry) :
    ∃ a s, (standard.argument e c (parameterType c e.type)).run.run r = (.ok a, s) := by
  cases hc : c.isPrimitive with
  | true => exact ⟨_, _, run_argument_of_primitive _ hc e _ r⟩
  | false =>
    rw [run_argument_of_object _ hc]
    obtain ⟨text, ht⟩ := BridgedType.run_convert_of_supported (isSupported_target h) .toExternal
      (e.asMillis c).term r
    have hs : (standard.toExternal (standard.target (parameterType c e.type) e.type)
        (e.asMillis c).term).run.run r = _ := ht
    rw [hs]
    exact ⟨_, _, rfl⟩

/-- **The arguments of an applicable signature are always made**, if the function declares no types
for its parameters. -/
theorem run_arguments_of_takes {es : List Expression} {cs : List RuntimeClass}
    (h : List.Forall₂ RuntimeClass.Takes cs (es.map (·.type))) (r : Registry) :
    ∃ args s, (standard.arguments es cs
      (List.zipWith parameterType cs (es.map (·.type)))).run.run r = (.ok args, s) := by
  have hl : cs.length = es.length := by simpa using h.length_eq
  rw [run_arguments_of_length _ hl (by simp [hl])]
  clear hl
  induction es generalizing cs r with
  | nil =>
    cases h
    exact ⟨_, _, rfl⟩
  | cons e es ih =>
    obtain _ | ⟨hc, hcs⟩ := h
    rw [List.map_cons, List.zipWith_cons_cons, run_argumentList_cons]
    obtain ⟨a, s, ha⟩ := run_argument_of_takes hc r
    obtain ⟨args, t, hargs⟩ := ih hcs s
    rw [ha]
    dsimp only
    rw [hargs]
    exact ⟨_, _, rfl⟩

end Converter

end ScalarCall

import ScalarCall.Proofs.Call.Argument
import ScalarCall.Proofs.Registry.Converters

/-!
What arguments register. Each gives the type that its operand is converted to the field that this
needs, in order, and they end with the first type that is not supported.
-/

namespace ScalarCall

open Registry

lemma BridgedType.run_convert_provides {b : BridgedType} (h : b.isSupported = true) (d : Direction)
    (term : String) (r : Registry) :
    ∃ text, (b.convert d term).run.run r = (.ok text, r.provide b) := by
  obtain ⟨text, ht⟩ := run_convert_of_supported h d term r
  refine ⟨text, ht.trans ?_⟩
  rw [provide, needsField]
  cases b.isIdentity <;> cases b.type.isStructured <;> rfl

namespace Converter

/-- What operands are converted to, in order. A primitive is passed without a conversion. -/
def targets (cv : Converter) :
    List Expression → List RuntimeClass → List BridgedType → List BridgedType
  | e :: es, c :: cs, b :: bs =>
    if c.isPrimitive then cv.targets es cs bs else cv.target b e.type :: cv.targets es cs bs
  | _, _, _ => []

lemma run_argument_of_supported {c : RuntimeClass} {e : Expression} {b : BridgedType}
    (hc : c.isPrimitive = false) (h : (standard.target b e.type).isSupported = true)
    (r : Registry) : ∃ a, (standard.argument e c b).run.run r =
      (.ok a, r.provide (standard.target b e.type)) := by
  obtain ⟨text, ht⟩ := BridgedType.run_convert_provides h .toExternal (e.asMillis c).term r
  have hs : (standard.toExternal (standard.target b e.type) (e.asMillis c).term).run.run r = _ := ht
  rw [run_argument_of_object _ hc, hs]
  exact ⟨_, rfl⟩

lemma run_argument_of_not_supported {c : RuntimeClass} {e : Expression} {b : BridgedType}
    (hc : c.isPrimitive = false) (h : (standard.target b e.type).isSupported = false)
    (r : Registry) : (standard.argument e c b).run.run r =
      (.error (.unsupported (standard.target b e.type)), r) := by
  have hs : (standard.toExternal (standard.target b e.type) (e.asMillis c).term).run.run r = _ :=
    BridgedType.run_convert_of_not_supported h .toExternal (e.asMillis c).term r
  rw [run_argument_of_object _ hc, hs]

/-- The first target that is not supported ends the list. -/
structure Stops (targets before : List BridgedType) (b : BridgedType) : Prop where
  split : ∃ after, targets = before ++ b :: after
  supported : ∀ t ∈ before, t.isSupported = true
  refused : b.isSupported = false

/-- Arguments are made up to the first that is refused, and those before it have what they need. -/
lemma run_argumentList_cases (es : List Expression) (cs : List RuntimeClass)
    (bs : List BridgedType) (r : Registry) :
    ((∀ t ∈ standard.targets es cs bs, t.isSupported = true) ∧
      ∃ args, (standard.argumentList es cs bs).run.run r =
        (.ok args, r.provideAll (standard.targets es cs bs))) ∨
    ∃ before b, Stops (standard.targets es cs bs) before b ∧
      (standard.argumentList es cs bs).run.run r =
        (.error (.unsupported b), r.provideAll before) := by
  fun_induction targets standard es cs bs generalizing r with
  | case1 e es c cs b bs hc ih =>
    -- a primitive is passed as it is, and registers nothing
    rw [run_argumentList_cons, run_argument_of_primitive _ hc]
    dsimp only
    rcases ih r with ⟨hs, args, hrun⟩ | ⟨before, t, hstop, hrun⟩
    · rw [hrun]
      exact .inl ⟨hs, _, rfl⟩
    · rw [hrun]
      exact .inr ⟨before, t, hstop, rfl⟩
  | case2 e es c cs b bs hc ih =>
    have hc : c.isPrimitive = false := Bool.eq_false_iff.2 hc
    rw [run_argumentList_cons]
    cases ht : (standard.target b e.type).isSupported with
    | false =>
      rw [run_argument_of_not_supported hc ht]
      refine .inr ⟨[], _, ⟨⟨_, rfl⟩, ?_, ht⟩, rfl⟩
      exact fun t h => absurd h List.not_mem_nil
    | true =>
      obtain ⟨a, ha⟩ := run_argument_of_supported hc ht r
      rw [ha]
      dsimp only
      rcases ih (r.provide (standard.target b e.type)) with ⟨hs, args, hrun⟩ | ⟨before, t, hstop, hrun⟩
      · rw [hrun]
        exact .inl ⟨List.forall_mem_cons.2 ⟨ht, hs⟩, _, rfl⟩
      · rw [hrun]
        obtain ⟨⟨after, hafter⟩, hs, hrefused⟩ := hstop
        refine .inr ⟨_ :: before, t, ⟨⟨after, ?_⟩, List.forall_mem_cons.2 ⟨ht, hs⟩, hrefused⟩, rfl⟩
        rw [hafter, List.cons_append]
  | case3 es cs bs h =>
    refine .inl ⟨fun t h => absurd h List.not_mem_nil, [], ?_⟩
    rw [argumentList]
    · rfl
    · exact h

lemma run_arguments_cases (es : List Expression) (cs : List RuntimeClass)
    (bs : List BridgedType) (r : Registry) :
    (∃ m n, (standard.arguments es cs bs).run.run r = (.error (.arity m n), r)) ∨
    ((∀ t ∈ standard.targets es cs bs, t.isSupported = true) ∧
      ∃ args, (standard.arguments es cs bs).run.run r =
        (.ok args, r.provideAll (standard.targets es cs bs))) ∨
    ∃ before b, Stops (standard.targets es cs bs) before b ∧
      (standard.arguments es cs bs).run.run r =
        (.error (.unsupported b), r.provideAll before) := by
  by_cases hc : cs.length = es.length
  · by_cases hb : bs.length = es.length
    · rw [run_arguments_of_length _ hc hb]
      exact .inr (run_argumentList_cases es cs bs r)
    · exact .inl ⟨_, _, run_arguments_of_types_ne _ hc hb r⟩
  · exact .inl ⟨_, _, run_arguments_of_classes_ne _ hc bs r⟩

/-- Arguments that are made have registered what they needed. -/
lemma addsConverters_of_run_arguments {cv : Converter} {es args : List Expression}
    {cs : List RuntimeClass} {bs : List BridgedType} {r s : Registry} (hcv : cv = standard)
    (h : (cv.arguments es cs bs).run.run r = (.ok args, s)) :
    r.AddsConverters s (r.missing (cv.targets es cs bs)) := by
  subst hcv
  rcases run_arguments_cases es cs bs r with ⟨m, n, ha⟩ | ⟨-, args', ha⟩ | ⟨before, b, -, ha⟩
  · rw [ha] at h
    cases h
  · rw [ha] at h
    cases h
    exact addsConverters_provideAll r _
  · rw [ha] at h
    cases h

end Converter

end ScalarCall

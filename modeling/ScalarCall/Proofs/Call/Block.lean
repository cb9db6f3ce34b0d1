import ScalarCall.Call.Block
import ScalarCall.Proofs.Call.Argument

/-!
The stages of a call: resolution, folding, arguments, the result. A stage that fails ends the call
with its error and with the registry as that stage left it.
-/

namespace ScalarCall

/-- Unboxing declares a variable for the value and, if nulls are tracked, one for the indicator. -/
lemma Computation.run_unbox (t : SqlType) (input : String) (r : Registry) :
    (unbox t input).run r =
      let result := r.nextName r.settings.resultHint
      let s := (r.withName result).withLocal ⟨t.primitiveTerm, result⟩
      let indicator := s.nextName r.settings.nullHint
      if r.settings.nullCheck then
        (⟨[.assign indicator (input ++ " == null"), .assign result t.defaultValue,
          .assignUnless indicator result (unboxed t input)], result, indicator, t⟩,
          (s.withName indicator).withLocal ⟨"boolean", indicator⟩)
      else (⟨[.assign result (unboxed t input)], result, neverNull, t⟩, s) := by
  unfold unbox
  cases hn : r.settings.nullCheck <;> simp [hn] <;> rfl

namespace CallGenerator

variable {g : CallGenerator} {operands args : List Expression} {returnType : SqlType}
  {r s t : Registry} {sig : Signature} {folded : List (Option ExternalLiteral)} {e : CallError}

lemma signature_of_error {types : List SqlType} {x : NoOverload}
    (h : g.resolver g.function types = .error x) : g.signature types = .error (.noOverload x) := by
  unfold signature
  rw [h]

lemma signature_of_ok {types : List SqlType} {m : Resolved}
    (h : g.resolver g.function types = .ok m) : g.signature types = .ok (.of g.function m types) := by
  unfold signature
  rw [h]

lemma run_block_of_signature_error (hs : g.signature (operands.map (·.type)) = .error e) :
    (g.block operands returnType).run.run r = (.error e, r) := by
  unfold block
  rw [Generating.run_bind, Generating.run_ofExcept, hs]

lemma run_block_of_fold_error (hs : g.signature (operands.map (·.type)) = .ok sig)
    (hf : g.foldAll operands = .error e) :
    (g.block operands returnType).run.run r = (.error e, r) := by
  unfold block
  rw [Generating.run_bind, Generating.run_ofExcept, hs]
  dsimp only
  rw [Generating.run_bind, Generating.run_ofExcept, hf]

lemma run_block_of_arguments_error (hs : g.signature (operands.map (·.type)) = .ok sig)
    (hf : g.foldAll operands = .ok folded)
    (ha : (g.converter.arguments operands sig.parameters sig.types).run.run r = (.error e, s)) :
    (g.block operands returnType).run.run r = (.error e, s) := by
  unfold block
  rw [Generating.run_bind, Generating.run_ofExcept, hs]
  dsimp only
  rw [Generating.run_bind, Generating.run_ofExcept, hf]
  dsimp only
  rw [Generating.run_bind, ha]

lemma run_block_of_arguments (hs : g.signature (operands.map (·.type)) = .ok sig)
    (hf : g.foldAll operands = .ok folded)
    (ha : (g.converter.arguments operands sig.parameters sig.types).run.run r = (.ok args, s)) :
    (g.block operands returnType).run.run r =
      (g.invoke args (operands.map (·.type)) returnType sig.result folded).run.run s := by
  unfold block
  rw [Generating.run_bind, Generating.run_ofExcept, hs]
  dsimp only
  rw [Generating.run_bind, Generating.run_ofExcept, hf]
  dsimp only
  rw [Generating.run_bind, ha]

/-! ### The result -/

variable {c : RuntimeClass} {types : List SqlType}

/-- A primitive result needs no conversion, so that nothing can fail. -/
lemma run_invoke_of_primitive (hc : c.isPrimitive = true) :
    (g.invoke args types returnType c folded).run.run s =
      (.ok ((g.primitiveBlock args returnType c).run s).1,
        ((g.primitiveBlock args returnType c).run s).2) := by
  unfold invoke
  rw [if_pos hc, Generating.run_lift]

/-- The name that a returned object is kept under. -/
def externalName (s : Registry) : String := s.nextName s.settings.externalResultHint

lemma run_toInternal (hg : g.converter = .standard) (b : BridgedType) (term : String)
    (r : Registry) :
    (g.converter.toInternal b term).run.run r = (b.convert .toInternal term).run.run r := by
  rw [hg]
  rfl

lemma run_invoke_of_object (hc : c.isPrimitive = false) :
    (g.invoke args types returnType c folded).run.run s =
      match (g.converter.toInternal (g.resultType folded types returnType c)
          (externalName s)).run.run (s.withName (externalName s)) with
      | (.error e, t) => (.error e, t)
      | (.ok internal, t) =>
        (.ok ((g.objectBlock args returnType c (externalName s) internal).run t).1,
          ((g.objectBlock args returnType c (externalName s) internal).run t).2) := by
  unfold invoke externalName
  rw [if_neg (by rw [hc]; exact Bool.false_ne_true), Generating.run_get_bind, Generating.run_bind,
    Generating.run_lift, run_freshName]
  dsimp only
  rw [Generating.run_bind]
  rcases (g.converter.toInternal (g.resultType folded types returnType c)
    (s.nextName s.settings.externalResultHint)).run.run
      (s.withName (s.nextName s.settings.externalResultHint)) with ⟨_ | _, _⟩
  · rfl
  · dsimp only
    rw [Generating.run_lift]

/-! ### Calls that succeed -/

def withField (g : CallGenerator) (r : Registry) : Registry := ((functionField g.ref).run r).2

def field (g : CallGenerator) (r : Registry) : String := ((functionField g.ref).run r).1

lemma run_primitiveBlock (g : CallGenerator) (r : Registry) :
    (g.primitiveBlock args returnType c).run r =
      let s := g.withField r
      let result := s.nextName s.settings.resultHint
      ({ arguments := args
         assignment := [.assign result (returnedValue returnType c (invocation (g.field r) args))]
         result := .present returnType result },
        (s.withName result).withLocal ⟨returnType.primitiveTerm, result⟩) := rfl

/-- A call that returns an object declares a variable to keep it in and those of its unboxing. -/
lemma run_objectBlock (g : CallGenerator) (external internal : String) (r : Registry) :
    (g.objectBlock args returnType c external internal).run r =
      let s := g.withField r
      let kept := s.nextName s.settings.resultHint
      let m := (s.withName kept).withLocal ⟨returnType.boxedTerm, kept⟩
      ({ arguments := args
         assignment := [
          .define c.term external ("(" ++ c.term ++ ") " ++ invocation (g.field r) args),
          .assign kept (external ++ " == null ? null : (" ++ internal ++ ")")]
         result := ((Computation.unbox returnType kept).run m).1 },
        ((Computation.unbox returnType kept).run m).2) := rfl

lemma run_block_eq_ok {b : CallBlock}
    (h : (g.block operands returnType).run.run r = (.ok b, s)) :
    ∃ sig folded args m,
      g.signature (operands.map (·.type)) = .ok sig ∧ g.foldAll operands = .ok folded ∧
      (g.converter.arguments operands sig.parameters sig.types).run.run r = (.ok args, m) ∧
      (g.invoke args (operands.map (·.type)) returnType sig.result folded).run.run m
        = (.ok b, s) := by
  unfold block at h
  obtain ⟨sig, r₁, hs, hrest⟩ := Generating.run_bind_eq_ok.1 h
  obtain ⟨folded, r₂, hf, hrest⟩ := Generating.run_bind_eq_ok.1 hrest
  obtain ⟨args, m, ha, hinvoke⟩ := Generating.run_bind_eq_ok.1 hrest
  rw [Generating.run_ofExcept, Prod.mk.injEq] at hs hf
  obtain ⟨hsig, rfl⟩ := hs
  obtain ⟨hfolded, rfl⟩ := hf
  exact ⟨sig, folded, args, m, hsig, hfolded, ha, hinvoke⟩

/-- The value of a successful call is a primitive, or an object that could be converted. -/
lemma run_invoke_eq_ok {b : CallBlock}
    (h : (g.invoke args types returnType c folded).run.run s = (.ok b, t)) :
    (c.isPrimitive = true ∧ (g.primitiveBlock args returnType c).run s = (b, t)) ∨
    (c.isPrimitive = false ∧ ∃ internal m,
      (g.converter.toInternal (g.resultType folded types returnType c)
        (externalName s)).run.run (s.withName (externalName s)) = (.ok internal, m) ∧
      (g.objectBlock args returnType c (externalName s) internal).run m = (b, t)) := by
  cases hc : c.isPrimitive with
  | true =>
    rw [run_invoke_of_primitive hc] at h
    cases h
    exact .inl ⟨rfl, rfl⟩
  | false =>
    rw [run_invoke_of_object hc] at h
    split at h
    · cases h
    · next internal m hi =>
      cases h
      exact .inr ⟨rfl, internal, m, hi, rfl⟩

/-- A call passes its operands with their code. -/
theorem codes_of_run_block {b : CallBlock}
    (h : (g.block operands returnType).run.run r = (.ok b, s)) :
    b.arguments.map (·.code) = operands.map (·.code) := by
  obtain ⟨sig, folded, args, m, -, -, ha, hinvoke⟩ := run_block_eq_ok h
  have hargs : args.map (·.code) = operands.map (·.code) := by
    have hterms := g.converter.forall₂_of_run_arguments ha
    clear ha hinvoke h
    induction hterms with
    | nil => rfl
    | cons hae _ ih =>
      obtain ⟨term, rfl⟩ := hae
      rw [List.map_cons, List.map_cons, ih, Expression.withTerm_code]
  obtain ⟨-, hb⟩ | ⟨-, internal, n, -, hb⟩ := run_invoke_eq_ok hinvoke
  · rw [run_primitiveBlock] at hb
    cases hb
    exact hargs
  · rw [run_objectBlock] at hb
    cases hb
    exact hargs

lemma run_generate (g : CallGenerator) (operands : List Expression) (returnType : SqlType)
    (r : Registry) :
    (g.generate operands returnType).run.run r =
      match (g.block operands returnType).run.run r with
      | (.error e, s) => (.error e, s)
      | (.ok b, s) => (.ok b.expression, s) := by
  unfold generate
  rw [Generating.run_bind]
  rcases (g.block operands returnType).run.run r with ⟨_ | _, _⟩ <;> rfl

lemma run_generate_eq_ok {e : Expression}
    (h : (g.generate operands returnType).run.run r = (.ok e, s)) :
    ∃ b, (g.block operands returnType).run.run r = (.ok b, s) ∧ e = b.expression := by
  rw [run_generate] at h
  split at h
  · cases h
  · next b t hb =>
    cases h
    exact ⟨b, hb, rfl⟩

lemma run_generate_eq_error (h : (g.generate operands returnType).run.run r = (.error e, s)) :
    (g.block operands returnType).run.run r = (.error e, s) := by
  rw [run_generate] at h
  split at h
  · next hb =>
    cases h
    exact hb
  · cases h

end CallGenerator

end ScalarCall

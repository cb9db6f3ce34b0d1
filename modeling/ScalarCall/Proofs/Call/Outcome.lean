import ScalarCall.Proofs.Call.Block
import ScalarCall.Proofs.Call.Folding

/-!
How the generation of a call ends, for functions that say nothing of their types. Resolution
decides first, then the literals, and after these only the result can be refused: arguments never
are, and neither is their number.
-/

namespace ScalarCall

inductive Ending
  | unresolved | foreignLiteral | misaligned | inconvertible | generated
deriving DecidableEq

def Ending.of {α : Type} : Except CallError α → Ending
  | .ok _ => generated
  | .error (.noOverload _) => unresolved
  | .error (.notOfType ..) => foreignLiteral
  | .error (.arity ..) => misaligned
  | .error (.unsupported _) => inconvertible

def Function.HasApplicable (f : Function) (types : List SqlType) : Prop :=
  ∃ m ∈ f.overloads, m.IsApplicable types

/-- The resolved signature returns an object that the type of the call does not accept and that is,
at its innermost, a character. -/
def Function.ReturnsCharacters (f : Function) (types : List SqlType) (returnType : SqlType) :
    Prop :=
  ∃ m, resolve f types = .ok m ∧ m.result.isPrimitive = false ∧
    returnType.accepts m.result = false ∧ m.result.innermost.kind? = some .char

namespace Function

variable {f : Function} {types : List SqlType} {m : Resolved}

lemma hasApplicable_of_resolve_ok (h : resolve f types = .ok m) : f.HasApplicable types := by
  by_contra hn
  obtain ⟨e, he⟩ := resolve_eq_error_iff.2 fun m hmem happ => hn ⟨m, hmem, happ⟩
  rw [h] at he
  cases he

lemma not_hasApplicable_of_resolve_error {e : NoOverload} (h : resolve f types = .error e) :
    ¬ f.HasApplicable types := by
  rintro ⟨m, hmem, happ⟩
  exact resolve_eq_error_iff.1 ⟨e, h⟩ m hmem happ

lemma returnsCharacters_iff (h : resolve f types = .ok m) (returnType : SqlType) :
    f.ReturnsCharacters types returnType ↔
      ¬ (m.result.isPrimitive = true ∨ returnType.accepts m.result = true ∨
        m.result.innermost.kind? ≠ some .char) := by
  unfold ReturnsCharacters
  simp [h]

end Function

namespace CallGenerator

variable {g : CallGenerator} {operands args : List Expression} {returnType : SqlType}
  {r s : Registry} {m : Resolved}

lemma run_arguments_of_resolve {f : Function} (hp : ∀ cs, f.parameterTypes cs = none)
    (h : resolve f (operands.map (·.type)) = .ok m) (r : Registry) :
    ∃ args s, (Converter.standard.arguments operands m.parameters
      (Signature.of f m (operands.map (·.type))).types).run.run r = (.ok args, s) := by
  obtain ⟨-, -, -, ht, -⟩ := resolve_eq_ok h
  rw [Signature.types_of (hp _)]
  exact Converter.run_arguments_of_takes ht r

/-- The result has a conversion from the type of the call, or from what its class stands for. -/
lemma isSupported_resultType_iff (hg : g.converter = .standard)
    (hr : ∀ as ts, g.function.resultType as ts = none) (folded : List (Option ExternalLiteral))
    (types : List SqlType) (returnType : SqlType) (c : RuntimeClass) :
    (g.resultType folded types returnType c).isSupported = true ↔
      (returnType.accepts c = true ∨ c.innermost.kind? ≠ some .char) := by
  have hb : g.resultType folded types returnType c =
      if returnType.accepts c = true then ⟨returnType, c⟩ else .ofClass c := by
    unfold resultType
    rw [hr, hg]
    rfl
  rw [hb]
  by_cases ha : returnType.accepts c = true
  · rw [if_pos ha]
    exact ⟨fun _ => .inl ha, fun _ => ha⟩
  · have hc : (BridgedType.ofClass c).isSupported = (SqlType.ofClass c).accepts c := rfl
    rw [if_neg ha, hc, SqlType.accepts_ofClass_iff]
    exact ⟨.inr, fun h => h.resolve_left ha⟩

/-- After the arguments a call is generated, unless its object is one of characters. -/
lemma ending_invoke (hg : g.converter = .standard)
    (hr : ∀ as ts, g.function.resultType as ts = none) (folded : List (Option ExternalLiteral))
    (types : List SqlType) (c : RuntimeClass) :
    Ending.of ((g.invoke args types returnType c folded).run.run s).1 =
      if c.isPrimitive = true ∨ returnType.accepts c = true ∨ c.innermost.kind? ≠ some .char
      then .generated else .inconvertible := by
  cases hc : c.isPrimitive with
  | true =>
    rw [run_invoke_of_primitive hc, if_pos (.inl rfl)]
    rfl
  | false =>
    have hiff := isSupported_resultType_iff hg hr folded types returnType c
    rw [run_invoke_of_object hc, run_toInternal hg]
    cases hs : (g.resultType folded types returnType c).isSupported with
    | true =>
      obtain ⟨text, ht⟩ := BridgedType.run_convert_of_supported hs .toInternal (externalName s)
        (s.withName (externalName s))
      have hpos : false = true ∨ returnType.accepts c = true ∨ c.innermost.kind? ≠ some .char :=
        .inr (hiff.1 hs)
      rw [ht, if_pos hpos]
      rfl
    | false =>
      have hn : ¬ (returnType.accepts c = true ∨ c.innermost.kind? ≠ some .char) := by
        rw [← hiff, hs]
        exact Bool.false_ne_true
      rw [BridgedType.run_convert_of_not_supported hs, if_neg]
      · rfl
      · rintro (h | h)
        · cases h
        · exact hn h

lemma ending_generate_eq (g : CallGenerator) (operands : List Expression) (returnType : SqlType)
    (r : Registry) :
    Ending.of ((g.generate operands returnType).run.run r).1 =
      Ending.of ((g.block operands returnType).run.run r).1 := by
  rw [run_generate]
  rcases (g.block operands returnType).run.run r with ⟨e | _, _⟩
  · cases e <;> rfl
  · rfl

/-- **How the generation of a call ends**, for a function that declares no types of parameters and
has no rule on its result. It ends without a signature if none is applicable; else with a literal
that is not of its type if there is one; else with a result that cannot be converted, if that is an
object of characters that the type of the call does not accept; and else with an expression. It
never ends with a mismatch of numbers, and the arguments of a resolved signature never fail. -/
theorem ending_generate {f : Function} (hp : ∀ cs, f.parameterTypes cs = none)
    (hr : ∀ as ts, f.resultType as ts = none) (operands : List Expression) (returnType : SqlType)
    (r : Registry) :
    let g : CallGenerator := { function := f }
    let types := operands.map (·.type)
    let ending := Ending.of ((g.generate operands returnType).run.run r).1
    let foreign := ∃ e ∈ operands, e.IsForeign
    (ending = .unresolved ↔ ¬ f.HasApplicable types) ∧
    (ending = .foreignLiteral ↔ f.HasApplicable types ∧ foreign) ∧
    (ending = .inconvertible ↔
      f.HasApplicable types ∧ ¬ foreign ∧ f.ReturnsCharacters types returnType) ∧
    (ending = .generated ↔
      f.HasApplicable types ∧ ¬ foreign ∧ ¬ f.ReturnsCharacters types returnType) ∧
    ending ≠ .misaligned ∧
    ∀ m, resolve f types = .ok m → ∃ args s, (Converter.standard.arguments operands m.parameters
      (Signature.of f m types).types).run.run r = (.ok args, s) := by
  intro g types ending foreign
  have hargs := fun m (h : resolve f types = .ok m) => run_arguments_of_resolve hp h r
  have hending : ending = Ending.of ((g.block operands returnType).run.run r).1 :=
    g.ending_generate_eq operands returnType r
  cases hm : resolve f types with
  | error e =>
    have ha := Function.not_hasApplicable_of_resolve_error hm
    have he : ending = .unresolved := by
      rw [hending, run_block_of_signature_error (signature_of_error hm)]
      rfl
    rw [he]
    simp [ha]
  | ok m =>
    have hs : g.signature types = .ok (.of f m types) := signature_of_ok hm
    have ha := Function.hasApplicable_of_resolve_ok hm
    cases hf : g.foldAll operands with
    | error x =>
      have hforeign : foreign := (exists_foldAll_eq_error_iff rfl).1 ⟨x, hf⟩
      obtain ⟨v, t, -, rfl⟩ := (foldAll_eq_error_iff rfl).1 hf
      have he : ending = .foreignLiteral := by
        rw [hending, run_block_of_fold_error hs hf]
        rfl
      rw [he]
      simpa [ha, hforeign] using hargs m hm
    | ok folded =>
      have hforeign : ¬ foreign := by
        intro hforeign
        obtain ⟨x, hx⟩ := (exists_foldAll_eq_error_iff (g := g) rfl).2 hforeign
        rw [hf] at hx
        cases hx
      obtain ⟨args, s, hrun⟩ := hargs m hm
      have he : ending = if m.result.isPrimitive = true ∨ returnType.accepts m.result = true ∨
          m.result.innermost.kind? ≠ some .char then .generated else .inconvertible := by
        rw [hending, run_block_of_arguments hs hf hrun]
        exact ending_invoke rfl hr folded types m.result
      rw [he, Function.returnsCharacters_iff hm]
      split_ifs with h <;> simpa [ha, hforeign, h] using hargs m hm

/-- A variadic function of any objects takes an integer and an array of integers, but its array of
characters is no long integer. -/
theorem ending_generate_chars :
    let f : Function :=
      { identifier := "f"
        className := "F"
        overloads := [⟨[.object "java.lang.Object[]"], .object "char[]", true⟩] }
    let operands : List Expression :=
      [.literal "5" (.simple .int false) (.int32 5),
        { code := "", term := "a", nullTerm := "n", type := .array (.simple .int true) true }]
    Ending.of ((({ function := f } : CallGenerator).generate operands
      (.simple .bigint true)).run.run {}).1 = .inconvertible := by
  intro f operands
  have h := ending_generate (f := f) (fun _ => rfl) (fun _ _ => rfl) operands
    (.simple .bigint true) {}
  obtain ⟨-, -, hchars, -⟩ := h
  have hobject : (RuntimeClass.object "java.lang.Object[]").component? = some .anyObject := by
    decide +kernel
  have hchar : (RuntimeClass.object "char[]").component? = some (.primitive .char) := by
    decide +kernel
  refine hchars.2 ⟨?_, ?_, ?_⟩
  · exact ⟨_, List.mem_singleton_self _, [.anyObject, .anyObject],
      @Overload.Expands.variadic _ [] _ _ rfl rfl hobject 2,
      .cons (.inl rfl) (.cons (.inl rfl) .nil)⟩
  · rintro ⟨e, he, v, hv, hof⟩
    simp only [operands, List.mem_cons, List.not_mem_nil, or_false] at he
    rcases he with rfl | rfl
    · cases hv
      exact hof (.int 5 false)
    · cases hv
  · refine ⟨⟨[.anyObject, .anyObject], .object "char[]"⟩, by decide +kernel, rfl, rfl, ?_⟩
    rw [RuntimeClass.innermost_of_some hchar, RuntimeClass.innermost_of_none rfl]
    rfl

end CallGenerator

end ScalarCall

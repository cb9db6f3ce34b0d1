import ScalarCall.Proofs.Call.Failure
import ScalarCall.Proofs.Call.Invocation

/-!
What the function's rule on the result type is asked about: for every operand, in order, the value
of a literal, and nothing for an operand that is none. A literal with a value that is not of its
type ends the call before anything is registered, and the first of these is reported.
-/

namespace ScalarCall

namespace Expression

/-- What stands for an operand where the rule is asked. -/
structure FoldsTo (e : Expression) (a : Option ExternalLiteral) : Prop where
  eq_none_iff : a = none ↔ e.isLiteral = false
  eq_null_iff : a = some .null ↔ e.literal? = some .null
  value_of_some : ∀ v, e.value? = some v → ∃ x, a = some x ∧ x.payload? = v.payload? ∧
    x.runtimeClass? = some e.type.defaultClass

end Expression

open Expression

namespace CallGenerator

variable {g : CallGenerator} {operands : List Expression} {returnType : SqlType}
  {types : List SqlType} {r s : Registry} {e : Expression} {es : List Expression} {x : CallError}
  {a : Option ExternalLiteral} {args : List (Option ExternalLiteral)} {v : Literal} {t : SqlType}

/-! ### One operand -/

lemma foldsTo_of_fold (hg : g.converter = .standard) (h : g.fold e = .ok a) : e.FoldsTo a := by
  cases hv : e.value? with
  | some v =>
    -- a value, which is of the operand's type since folding succeeds
    have hl := literal?_of_value? hv
    have hof : v.IsOf e.type := by
      by_contra hof
      exact not_isForeign_of_fold hg h ⟨v, hv, hof⟩
    obtain ⟨y, hy, hpayload, hclass⟩ := hof.exists_external?
    have hfold : g.fold e = .ok (some y) := by
      rw [fold_of_value?_eq_some hv, hg]
      show (Converter.literalValue v e.type).map some = _
      unfold Converter.literalValue
      rw [hy]
      rfl
    rw [hfold] at h
    cases h
    refine ⟨by simp [isLiteral, hl], ?_, fun w hw => ?_⟩
    · have hne : y ≠ .null := by
        rintro rfl
        cases hclass
      simp [hl, hne, ne_null_of_value? hv]
    · rw [hv] at hw
      cases hw
      exact ⟨y, rfl, hpayload, hclass⟩
  | none =>
    unfold fold at h
    unfold value? at hv
    cases hl : e.literal? with
    | none =>
      rw [hl] at h
      cases h
      exact ⟨by simp [isLiteral, hl], by simp [hl], by simp [value?, hl]⟩
    | some w =>
      rw [hl] at h hv
      cases w with
      | null =>
        cases h
        exact ⟨by simp [isLiteral, hl], by simp [hl], by simp [value?, hl, Literal.isNull]⟩
      | _ => cases hv

/-! ### All operands -/

lemma forall₂_foldsTo_of_foldAll (hg : g.converter = .standard) (h : g.foldAll es = .ok args) :
    List.Forall₂ FoldsTo es args := by
  induction es generalizing args with
  | nil =>
    cases h
    exact .nil
  | cons e es ih =>
    rw [foldAll_cons] at h
    cases he : g.fold e with
    | error x =>
      rw [he] at h
      cases h
    | ok a =>
      cases hes : g.foldAll es with
      | error x =>
        simp only [he, hes] at h
        cases h
      | ok rest =>
        simp only [he, hes] at h
        cases h
        exact .cons (foldsTo_of_fold hg he) (ih hes)

/-! ### The call -/

/-- A call ends with a literal that is not of its type only if folding does. -/
lemma run_generate_eq_notOfType_iff (hg : g.converter = .standard) :
    (g.generate operands returnType).run.run r = (.error (.notOfType v t), s) ↔
      s = r ∧ (∃ sig, g.signature (operands.map (·.type)) = .ok sig) ∧
        IsFirstForeign operands v t := by
  constructor
  · intro h
    have hb := run_generate_eq_error h
    cases hs : g.signature (operands.map (·.type)) with
    | error x =>
      rw [run_block_of_signature_error hs] at hb
      obtain ⟨y, rfl⟩ := signature_eq_error hs
      cases hb
    | ok sig =>
      cases hf : g.foldAll operands with
      | error x =>
        rw [run_block_of_fold_error hs hf] at hb
        cases hb
        obtain ⟨v, t, hfirst, hx⟩ := (foldAll_eq_error_iff hg).1 hf
        cases hx
        exact ⟨rfl, ⟨sig, rfl⟩, hfirst⟩
      | ok folded =>
        -- what comes after folding fails for other causes
        have hcases := Converter.run_arguments_cases operands sig.parameters sig.types r
        rw [← hg] at hcases
        rcases hcases with ⟨m, n, ha⟩ | ⟨-, args, ha⟩ | ⟨before, b, -, ha⟩
        · rw [run_block_of_arguments_error hs hf ha] at hb
          cases hb
        · rw [run_block_of_arguments hs hf ha] at hb
          obtain ⟨-, -, he, -⟩ := run_invoke_eq_error hg hb
          cases he
        · rw [run_block_of_arguments_error hs hf ha] at hb
          cases hb
  · rintro ⟨rfl, ⟨sig, hs⟩, hfirst⟩
    have hf := (foldAll_eq_error_iff hg).2 ⟨v, t, hfirst, rfl⟩
    rw [run_generate, run_block_of_fold_error hs hf]

/-! ### The answer -/

/-- What a returned object is converted from, by what the rule answered. A type that it names is
taken in the result class if it may be passed so, and else as the rule says. Without a name this is
the type of the call, if that may be passed in the class, or what the class stands for. -/
def convertedFrom (answer : Option BridgedType) (returnType : SqlType) (c : RuntimeClass) :
    BridgedType :=
  answer.elim (if returnType.accepts c then ⟨returnType, c⟩ else .ofClass c) fun declared =>
    if declared.type.accepts c then declared.bridgedTo c else declared

lemma resultType_eq_convertedFrom (hg : g.converter = .standard) (c : RuntimeClass) :
    g.resultType args types returnType c =
      convertedFrom (g.function.resultType args types) returnType c := by
  unfold resultType convertedFrom
  rw [hg]
  cases g.function.resultType args types <;> rfl

/-- How a call that returns an object ends once its arguments are made, if the object is taken for a
value of the given type and class. The call is refused if the type does not accept the class. Else
it invokes the function with the arguments, and what it writes around the object is the text of the
conversion from this type and class. -/
inductive ConvertsFrom (g : CallGenerator) (passed : List Expression) (returnType : SqlType)
    (c : RuntimeClass) (source : BridgedType) (m : Registry) :
    Except CallError Expression × Registry → Prop
  | refused (unsupported : source.isSupported = false) :
    ConvertsFrom g passed returnType c source m
      (.error (.unsupported source), m.withName (externalName m))
  | converted {b : CallBlock} {s n : Registry} {field : String} {around : Affix}
    (supported : source.isSupported = true)
    (conversion : (source.affix .toInternal).run.run (m.withName (externalName m)) =
      (.ok around, n))
    (registered : s.functionField? g.function.identifier = some field)
    (arguments : b.arguments = passed) (invokes : b.Invokes field returnType c around) :
    ConvertsFrom g passed returnType c source m (.ok b.expression, s)

/-- What the rule answers for the folded operands decides what the object is converted from. -/
lemma convertsFrom_run_generate {sig : Signature} {passed : List Expression} {m : Registry}
    (hg : g.converter = .standard) (hs : g.signature (operands.map (·.type)) = .ok sig)
    (hf : g.foldAll operands = .ok args)
    (ha : (g.converter.arguments operands sig.parameters sig.types).run.run r = (.ok passed, m))
    (hc : sig.result.isPrimitive = false) :
    g.ConvertsFrom passed returnType sig.result
      (convertedFrom (g.function.resultType args (operands.map (·.type))) returnType sig.result) m
      ((g.generate operands returnType).run.run r) := by
  rw [run_generate, run_block_of_arguments hs hf ha, ← resultType_eq_convertedFrom hg]
  rcases hrun : (g.invoke passed (operands.map (·.type)) returnType sig.result args).run.run m with
    ⟨x | b, s⟩
  · rw [hrun]
    obtain ⟨-, hunsupported, rfl, rfl⟩ := run_invoke_eq_error hg hrun
    exact .refused hunsupported
  · rw [hrun]
    obtain ⟨hargs, field, a, hfield, hinvokes, hobject⟩ := invokes_of_run_invoke hg hrun
    obtain ⟨n, -, ha⟩ := hobject hc
    exact .converted (BridgedType.isSupported_of_run_affix ha) ha hfield hargs hinvokes

/-! ### Other rules -/

def withRule (g : CallGenerator)
    (rule : List (Option ExternalLiteral) → List SqlType → Option BridgedType) : CallGenerator :=
  { g with function := g.function.withResultRule rule }

variable {rule : List (Option ExternalLiteral) → List SqlType → Option BridgedType}

lemma foldAll_withRule : (g.withRule rule).foldAll es = g.foldAll es := by
  induction es with
  | nil => rfl
  | cons e es ih =>
    have he : (g.withRule rule).fold e = g.fold e := rfl
    rw [foldAll_cons, foldAll_cons, he, ih]

lemma signature_withRule
    (hr : g.resolver (g.function.withResultRule rule) types = g.resolver g.function types) :
    (g.withRule rule).signature types = g.signature types := by
  have hsame : (g.withRule rule).resolver (g.withRule rule).function types =
      g.resolver g.function types := hr
  unfold signature
  rw [hsame]
  rfl

/-- A primitive is returned without asking the rule, and an object by its answer alone. -/
lemma invoke_withRule {passed : List Expression} {c : RuntimeClass}
    (h : c.isPrimitive = false → rule args types = g.function.resultType args types) :
    (g.withRule rule).invoke passed types returnType c args =
      g.invoke passed types returnType c args := by
  unfold invoke
  cases hc : c.isPrimitive with
  | true => rfl
  | false =>
    have hanswer : (g.withRule rule).function.resultType args types =
        g.function.resultType args types := h hc
    have hresult : (g.withRule rule).resultType args types returnType c =
        g.resultType args types returnType c := by
      unfold resultType
      rw [hanswer]
      rfl
    rw [hresult]
    rfl

/-- Of a rule a call needs to know only what it says of the folded operands and their types, and
this only if an object is returned. -/
lemma run_generate_withRule
    (hr : g.resolver (g.function.withResultRule rule) (operands.map (·.type)) =
      g.resolver g.function (operands.map (·.type)))
    (hf : g.foldAll operands = .ok args)
    (hrule : ∀ sig, g.signature (operands.map (·.type)) = .ok sig →
      sig.result.isPrimitive = false →
      rule args (operands.map (·.type)) = g.function.resultType args (operands.map (·.type))) :
    ((g.withRule rule).generate operands returnType).run.run r =
      (g.generate operands returnType).run.run r := by
  have hs' := signature_withRule (g := g) hr
  have hf' : (g.withRule rule).foldAll operands = .ok args := foldAll_withRule.trans hf
  rw [run_generate, run_generate]
  cases hs : g.signature (operands.map (·.type)) with
  | error x =>
    rw [run_block_of_signature_error (hs'.trans hs), run_block_of_signature_error hs]
  | ok sig =>
    rcases ha : (g.converter.arguments operands sig.parameters sig.types).run.run r with
      ⟨x | passed, m⟩
    · rw [run_block_of_arguments_error (hs'.trans hs) hf' ha, run_block_of_arguments_error hs hf ha]
    · rw [run_block_of_arguments (hs'.trans hs) hf' ha, run_block_of_arguments hs hf ha,
        invoke_withRule (hrule sig hs)]

/-- **What the rule on the result type is asked about**, for any function and any resolver. There is
one argument for each operand, in order: nothing for an operand that is no literal, null for the
null literal, and else a value of the type's default class that holds what the literal holds. It is
what the rule answers for these arguments that a returned object is converted from, and a call says
the same under every rule with this answer; if a primitive is returned, under every rule. There are
no such arguments exactly if some literal does not belong to its type, and then the first one is
reported and nothing is registered. -/
theorem asked_arguments (f : Function) (resolver : Resolver) (operands : List Expression)
    (returnType : SqlType) (r : Registry) :
    let g : CallGenerator := { function := f, resolver := resolver }
    let types := operands.map (·.type)
    ((∃ x, g.foldAll operands = .error x) ↔ ∃ e ∈ operands, e.IsForeign) ∧
    (∀ x, g.foldAll operands = .error x ↔
      ∃ v t, IsFirstForeign operands v t ∧ x = .notOfType v t) ∧
    (∀ v t s, (g.generate operands returnType).run.run r = (.error (.notOfType v t), s) ↔
      s = r ∧ (∃ sig, g.signature types = .ok sig) ∧ IsFirstForeign operands v t) ∧
    ∀ args, g.foldAll operands = .ok args →
      List.Forall₂ FoldsTo operands args ∧
      (∀ sig passed m, g.signature types = .ok sig →
        (g.converter.arguments operands sig.parameters sig.types).run.run r = (.ok passed, m) →
        sig.result.isPrimitive = false →
        g.ConvertsFrom passed returnType sig.result
          (convertedFrom (f.resultType args types) returnType sig.result) m
          ((g.generate operands returnType).run.run r)) ∧
      ∀ rule, resolver (f.withResultRule rule) types = resolver f types →
        (∀ sig, g.signature types = .ok sig → sig.result.isPrimitive = false →
          rule args types = f.resultType args types) →
        ((g.withRule rule).generate operands returnType).run.run r =
          (g.generate operands returnType).run.run r := by
  intro g types
  refine ⟨exists_foldAll_eq_error_iff rfl, fun x => foldAll_eq_error_iff rfl,
    fun v t s => run_generate_eq_notOfType_iff rfl,
    fun args hf => ⟨forall₂_foldsTo_of_foldAll rfl hf, ?_, ?_⟩⟩
  · intro sig passed m hs ha hc
    exact convertsFrom_run_generate (g := g) rfl hs hf ha hc
  · intro rule hr hrule
    exact run_generate_withRule (g := g) hr hf hrule

/-- A literal gives the number of places of the result. The object is converted with this many,
although the type of the call has others. -/
theorem asked_arguments_places :
    let places : Literal := .int32 2
    let rounded : BridgedType := ⟨.simple (.decimal 10 2) true, .object "java.math.BigDecimal"⟩
    let returnType : SqlType := .simple (.decimal 20 8) true
    let f : Function :=
      { identifier := "round"
        className := "com.acme.Round"
        overloads := [⟨[rounded.runtimeClass, .primitive .int], rounded.runtimeClass, false⟩]
        resultType := fun args _ => if args = [none, some (.int 2)] then some rounded else none }
    let operands : List Expression :=
      [{ code := "", term := "d$0", nullTerm := "isNull$0", type := returnType },
        .literal "2" (.simple .int false) places]
    ∃ b s field, (({ function := f } : CallGenerator).generate operands returnType).run.run {} =
        (.ok (CallBlock.expression b), s) ∧ s.functionField? "round" = some field ∧
      b.Invokes field returnType rounded.runtimeClass
        ⟨"DecimalData.fromBigDecimal(", ", 10, 2)"⟩ := by
  intro places rounded returnType f operands
  set g : CallGenerator := { function := f }
  set sig : Signature := ⟨[rounded.runtimeClass, .primitive .int],
    [⟨returnType, rounded.runtimeClass⟩, ⟨.simple .int false, .primitive .int⟩],
    rounded.runtimeClass⟩
  set made := (g.converter.arguments operands sig.parameters sig.types).run.run {}
  have hs : g.signature (operands.map (·.type)) = .ok sig := by decide +kernel
  have hf : g.foldAll operands = .ok [none, some (.int 2)] := by decide +kernel
  have hanswer : convertedFrom (f.resultType [none, some (.int 2)] (operands.map (·.type)))
      returnType sig.result = rounded := by
    decide +kernel
  have ha : made.1.isOk = true := by decide +kernel
  obtain ⟨-, -, -, hasked⟩ := asked_arguments f resolve operands returnType {}
  obtain ⟨-, hconverts, -⟩ := hasked _ hf
  rcases hmade : made with ⟨x | passed, m⟩
  · rw [hmade] at ha
    cases ha
  · have hrun := hconverts sig passed m hs hmade rfl
    rw [hanswer] at hrun
    rcases hgenerate : (g.generate operands returnType).run.run {} with ⟨out, s⟩
    rw [hgenerate] at hrun
    cases hrun with
    | refused hunsupported => cases hunsupported
    | converted _ ha hfield _ hinvokes =>
      cases ha
      exact ⟨_, s, _, rfl, hfield, hinvokes⟩

end CallGenerator

end ScalarCall

import ScalarCall.Proofs.Call.Block
import ScalarCall.Proofs.Call.Targets
import ScalarCall.Proofs.SqlType.Primitive
import ScalarCall.Proofs.Text.Fragment

/-!
Calls that return a primitive. The value is written in line and not by the conversion of its type,
and the two differ for one pair: a time that is returned as a `long` of milliseconds stays one,
while the conversion makes it the `int` that its variable is.
-/

namespace ScalarCall

open Registry

namespace BridgedType

variable {t : SqlType} {p : Primitive}

/-- The internal primitive is its own internal form. -/
lemma run_convert_of_primitive? (h : t.primitive? = some p) (d : Direction) (term : String)
    (r : Registry) : (convert ⟨t, .primitive p⟩ d term).run.run r = (.ok term, r) := by
  have hc : conversion? ⟨t, .primitive p⟩ d = some .identity := by
    cases t with
    | simple t n => cases t <;> cases h <;> rfl
    | _ => cases h
  rw [run_convert, run_affix, hc]
  simp [Affix.around, Affix.bare]

lemma run_convert_long_of_isTime (h : t.isTime = true) (term : String) (r : Registry) :
    (convert ⟨t, .primitive .long⟩ .toInternal term).run.run r =
      (.ok ("((int) " ++ term ++ ")"), r) := by
  obtain ⟨p, n, rfl⟩ := SqlType.exists_of_isTime h
  rfl

lemma run_convert_long_of_isTimestampLtz (h : t.isTimestampLtz = true) (term : String)
    (r : Registry) : (convert ⟨t, .primitive .long⟩ .toInternal term).run.run r =
      (.ok ("TimestampData.fromEpochMillis(" ++ term ++ ")"), r) := by
  obtain ⟨p, n, rfl⟩ := SqlType.exists_of_isTimestampLtz h
  rfl

end BridgedType

/-! ### Values in line -/

section

variable {t : SqlType} {p : Primitive}

lemma returnedValue_of_not_isTimestampLtz (h : t.isTimestampLtz = false) (c : RuntimeClass)
    (call : String) : returnedValue t c call = call := by
  rw [returnedValue, h]
  rfl

/-- What is written in line is what the conversion writes, except for a time in milliseconds. -/
lemma run_convert_returnedValue (h : t.accepts (.primitive p) = true) (call : String) :
    ∃ text, (∀ r, (BridgedType.convert ⟨t, .primitive p⟩ .toInternal call).run.run r =
        (.ok text, r)) ∧
      (returnedValue t (.primitive p) call = text ↔ ¬ (t.isTime = true ∧ p = .long)) ∧
      (t.isTime = true → p = .long →
        returnedValue t (.primitive p) call = call ∧ text = "((int) " ++ call ++ ")") := by
  rcases SqlType.primitive_of_accepts h with h | ⟨rfl, h | h⟩
  · have hn : ¬ (t.isTime = true ∧ p = .long) := by
      rintro ⟨ht, rfl⟩
      obtain ⟨q, n, rfl⟩ := SqlType.exists_of_isTime ht
      cases h
    have hv := returnedValue_of_not_isTimestampLtz (SqlType.isTimestampLtz_of_primitive? h)
      (.primitive p) call
    refine ⟨call, BridgedType.run_convert_of_primitive? h .toInternal call, ?_, ?_⟩
    · exact ⟨fun _ => hn, fun _ => hv⟩
    · exact fun ht hp => absurd ⟨ht, hp⟩ hn
  · obtain ⟨q, n, rfl⟩ := SqlType.exists_of_isTime h
    have hv := returnedValue_of_not_isTimestampLtz (t := .simple (.time q) n) rfl
      (.primitive .long) call
    have hne : call ≠ "((int) " ++ call ++ ")" := by
      intro he
      have hlen := congrArg String.length he
      have hclosing : ")".length = 1 := rfl
      rw [String.length_append, hclosing, String.length_append] at hlen
      omega
    refine ⟨_, BridgedType.run_convert_long_of_isTime h call, ?_, fun _ _ => ⟨hv, rfl⟩⟩
    rw [hv]
    exact ⟨fun he => absurd he hne, fun hn => absurd ⟨h, rfl⟩ hn⟩
  · obtain ⟨q, n, rfl⟩ := SqlType.exists_of_isTimestampLtz h
    refine ⟨_, BridgedType.run_convert_long_of_isTimestampLtz h call, ?_, fun ht => by cases ht⟩
    refine ⟨fun _ hn => ?_, fun _ => rfl⟩
    cases hn.1

end

/-! ### Calls -/

namespace CallGenerator

variable {g : CallGenerator} {operands : List Expression} {returnType : SqlType}
  {r s : Registry} {sig : Signature} {e : Expression}

lemma functionField?_withField (g : CallGenerator) (r : Registry) :
    (g.withField r).functionField? g.function.identifier = some (g.field r) := by
  unfold withField field
  rw [run_functionField]
  cases h : r.functionField? g.function.identifier with
  | some f =>
    have hr : r.functionField? g.ref.identifier = some f := h
    rw [hr]
    exact h
  | none =>
    have hr : r.functionField? g.ref.identifier = none := h
    rw [hr]
    show (r.functionFields ++ [(g.function.identifier, _)]).lookup g.function.identifier = _
    have hl : r.functionFields.lookup g.function.identifier = none := h
    rw [List.lookup_append, hl, Option.none_or]
    exact List.lookup_cons_self

lemma locals_withField (g : CallGenerator) (r : Registry) : (g.withField r).locals = r.locals := by
  unfold withField
  rw [run_functionField]
  split <;> rfl

/-- The call's code is that of its operands, and then it assigns the value, which is made of the
invocation of the function, to a new variable of the internal class. -/
structure Assigns (g : CallGenerator) (operands : List Expression) (returnType : SqlType)
    (sig : Signature) (r s : Registry) (e : Expression) (call value : String) : Prop where
  invoked : ∃ args field m,
    (g.converter.arguments operands sig.parameters sig.types).run.run r = (.ok args, m) ∧
    s.functionField? g.function.identifier = some field ∧ call = invocation field args
  code : e.code =
    Text.joinFragments (operands.map (·.code) ++ [(Statement.assign e.term value).text])
  locals : s.locals = r.locals ++ [⟨returnType.primitiveTerm, e.term⟩]

lemma exists_assigns (hg : g.converter = .standard)
    (hs : g.signature (operands.map (·.type)) = .ok sig) (hp : sig.result.isPrimitive = true)
    (h : (g.generate operands returnType).run.run r = (.ok e, s)) :
    ∃ call, g.Assigns operands returnType sig r s e call
      (returnedValue returnType sig.result call) := by
  obtain ⟨b, hb, rfl⟩ := run_generate_eq_ok h
  have hcodes := codes_of_run_block hb
  obtain ⟨sig', folded, args, m, hs', -, ha, hinvoke⟩ := run_block_eq_ok hb
  rw [hs] at hs'
  cases hs'
  rcases run_invoke_eq_ok hinvoke with ⟨-, hrun⟩ | ⟨hobject, -⟩
  · rw [run_primitiveBlock] at hrun
    cases hrun
    have hlocals : m.locals = r.locals := (Converter.addsConverters_of_run_arguments hg ha).locals
    refine ⟨_, ⟨args, g.field m, m, ha, g.functionField?_withField m, rfl⟩, ?_, ?_⟩
    · -- the assignment stands before the code of the value, of which there is none
      rw [← hcodes, ← Text.joinFragments_concat_empty, List.append_assoc]
      rfl
    · rw [← hlocals, ← g.locals_withField m]
      rfl
  · rw [hp] at hobject
    cases hobject

/-- **The value of a primitive result**, for a class that the type of the call accepts. What the
call assigns is what the conversion of the type makes of the invocation, except for a time that is
returned as a `long`: this is assigned as it is, and not as the `int` that the conversion makes. -/
theorem assigns_of_run_generate (hg : g.converter = .standard)
    (hs : g.signature (operands.map (·.type)) = .ok sig) (hp : sig.result.isPrimitive = true)
    (ha : returnType.accepts sig.result = true)
    (h : (g.generate operands returnType).run.run r = (.ok e, s)) :
    ∃ call value text, g.Assigns operands returnType sig r s e call value ∧
      (∀ m, (BridgedType.convert ⟨returnType, sig.result⟩ .toInternal call).run.run m =
        (.ok text, m)) ∧
      (value = text ↔ ¬ (returnType.isTime = true ∧ sig.result = .primitive .long)) ∧
      (returnType.isTime = true → sig.result = .primitive .long →
        value = call ∧ text = "((int) " ++ call ++ ")") := by
  obtain ⟨call, hcall⟩ := exists_assigns hg hs hp h
  cases hc : sig.result with
  | primitive p =>
    rw [hc] at ha hcall
    obtain ⟨text, hconv, hiff, htime⟩ := run_convert_returnedValue ha call
    refine ⟨call, _, text, hcall, hconv, ?_, ?_⟩
    · rw [hiff, RuntimeClass.primitive.injEq]
    · exact fun ht hl => htime ht (RuntimeClass.primitive.inj hl)
  | _ =>
    rw [hc] at hp
    cases hp

/-- The `int` variable of a time is assigned the `long` that the function returns. -/
theorem assigns_of_run_generate_time :
    let f : Function :=
      { identifier := "f", className := "F", overloads := [⟨[], .primitive .long, false⟩] }
    let t : SqlType := .simple (.time 3) false
    ∃ e s, (({ function := f } : CallGenerator).generate [] t).run.run {} = (.ok e, s) ∧
      e.code = "result$1 = function_f$0.eval();" ∧ s.locals = [⟨"int", "result$1"⟩] ∧
      ∃ sig call value text, ({ function := f } : CallGenerator).Assigns [] t sig {} s e call value ∧
        (∀ m, (BridgedType.convert ⟨t, .primitive .long⟩ .toInternal call).run.run m =
          (.ok text, m)) ∧
        value = call ∧ text = "((int) " ++ call ++ ")" ∧ value ≠ text := by
  intro f t
  have hcode : ((({ function := f } : CallGenerator).generate [] t).run.run {}).1 =
      .ok { code := "result$1 = function_f$0.eval();"
            term := "result$1"
            nullTerm := "false"
            type := t } := by
    decide +kernel
  have hlocals : ((({ function := f } : CallGenerator).generate [] t).run.run {}).2.locals =
      [⟨"int", "result$1"⟩] := by
    decide +kernel
  rcases hrun : (({ function := f } : CallGenerator).generate [] t).run.run {} with ⟨out, s⟩
  rw [hrun] at hcode hlocals
  obtain rfl := hcode
  have hs : ({ function := f } : CallGenerator).signature (([] : List Expression).map (·.type)) =
      .ok ⟨[], [], .primitive .long⟩ := by
    decide +kernel
  have ha : t.accepts (.primitive .long) = true := by decide +kernel
  obtain ⟨call, value, text, hassigns, hconv, hiff, htime⟩ :=
    assigns_of_run_generate (g := { function := f }) rfl hs rfl ha hrun
  obtain ⟨hvalue, htext⟩ := htime rfl rfl
  refine ⟨_, s, rfl, rfl, hlocals, _, call, value, text, hassigns, hconv, hvalue, htext, ?_⟩
  exact fun he => hiff.1 he ⟨rfl, rfl⟩

end CallGenerator

end ScalarCall

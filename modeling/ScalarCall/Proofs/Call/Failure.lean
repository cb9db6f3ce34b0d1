import ScalarCall.Proofs.Call.Block
import ScalarCall.Proofs.Call.Folding
import ScalarCall.Proofs.Call.Targets
import ScalarCall.Proofs.Registry.Lasting

/-!
What a call leaves behind that cannot be generated. Before the arguments nothing is registered, and
arguments register converters only, each when its operand is converted. The function comes last, so
that no call that fails registers it; but a result that is refused comes after the arguments, and
their converters stay.
-/

namespace ScalarCall

open Registry

namespace CallGenerator

/-- A call ends for want of a conversion from or to a type. Either an argument is refused, and those
before it have registered their converters; or the result is, and all arguments have, and a name was
given out to keep the result under. -/
inductive Refused (g : CallGenerator) (operands : List Expression) (returnType : SqlType)
    (r : Registry) (b : BridgedType) : Registry → Prop
  | argument {sig : Signature} {folded : List (Option ExternalLiteral)}
    {before : List BridgedType} {s : Registry}
    (resolved : g.signature (operands.map (·.type)) = .ok sig)
    (values : g.foldAll operands = .ok folded)
    (stops : Converter.Stops (g.converter.targets operands sig.parameters sig.types) before b)
    (added : r.AddsConverters s (r.missing before)) : Refused g operands returnType r b s
  | result {sig : Signature} {folded : List (Option ExternalLiteral)} {s : Registry}
    (resolved : g.signature (operands.map (·.type)) = .ok sig)
    (values : g.foldAll operands = .ok folded)
    (supported : ∀ t ∈ g.converter.targets operands sig.parameters sig.types,
      t.isSupported = true)
    (object : sig.result.isPrimitive = false)
    (ofResult : b = g.resultType folded (operands.map (·.type)) returnType sig.result)
    (refused : b.isSupported = false)
    (added : r.AddsConverters s
      (r.missing (g.converter.targets operands sig.parameters sig.types))) :
    Refused g operands returnType r b (s.withName (externalName s))

variable {g : CallGenerator} {operands args : List Expression} {returnType : SqlType}
  {r s t : Registry} {e : CallError} {c : RuntimeClass} {types : List SqlType}
  {folded : List (Option ExternalLiteral)}

lemma signature_eq_error (h : g.signature types = .error e) : ∃ x, e = .noOverload x := by
  unfold signature at h
  split at h
  · cases h
  · cases h
    exact ⟨_, rfl⟩

/-- After the arguments only the conversion of an object can fail. -/
lemma run_invoke_eq_error (hg : g.converter = .standard)
    (h : (g.invoke args types returnType c folded).run.run s = (.error e, t)) :
    c.isPrimitive = false ∧ (g.resultType folded types returnType c).isSupported = false ∧
      e = .unsupported (g.resultType folded types returnType c) ∧
      t = s.withName (externalName s) := by
  cases hc : c.isPrimitive with
  | true =>
    rw [run_invoke_of_primitive hc] at h
    cases h
  | false =>
    rw [run_invoke_of_object hc, run_toInternal hg] at h
    cases hs : (g.resultType folded types returnType c).isSupported with
    | true =>
      obtain ⟨text, ht⟩ := BridgedType.run_convert_provides hs .toInternal (externalName s)
        (s.withName (externalName s))
      rw [ht] at h
      cases h
    | false =>
      rw [BridgedType.run_convert_of_not_supported hs] at h
      cases h
      exact ⟨rfl, rfl, rfl, rfl⟩

/-- **What a call leaves behind that fails**, for any function and any resolver: nothing, unless a
conversion is refused; and then the converters of the arguments before that, of those that needed
one and had none. -/
theorem refused_of_run_generate (hg : g.converter = .standard)
    (h : (g.generate operands returnType).run.run r = (.error e, s)) :
    ((∀ b, e ≠ .unsupported b) → s = r) ∧
    ∀ b, e = .unsupported b → g.Refused operands returnType r b s := by
  have hb := run_generate_eq_error h
  cases hs : g.signature (operands.map (·.type)) with
  | error x =>
    rw [run_block_of_signature_error hs] at hb
    cases hb
    obtain ⟨y, rfl⟩ := signature_eq_error hs
    exact ⟨fun _ => rfl, fun b hb => by cases hb⟩
  | ok sig =>
    cases hf : g.foldAll operands with
    | error x =>
      rw [run_block_of_fold_error hs hf] at hb
      cases hb
      obtain ⟨v, t, -, rfl⟩ := (foldAll_eq_error_iff hg).1 hf
      exact ⟨fun _ => rfl, fun b hb => by cases hb⟩
    | ok folded =>
      have hcases := Converter.run_arguments_cases operands sig.parameters sig.types r
      rw [← hg] at hcases
      rcases hcases with ⟨m, n, ha⟩ | ⟨hall, args, ha⟩ | ⟨before, b, hstop, ha⟩
      · rw [run_block_of_arguments_error hs hf ha] at hb
        cases hb
        exact ⟨fun _ => rfl, fun b hb => by cases hb⟩
      · rw [run_block_of_arguments hs hf ha] at hb
        obtain ⟨hc, hrefused, rfl, rfl⟩ := run_invoke_eq_error hg hb
        refine ⟨fun hne => absurd rfl (hne _), fun b hb => ?_⟩
        cases hb
        exact .result hs hf hall hc rfl hrefused (addsConverters_provideAll r _)
      · rw [run_block_of_arguments_error hs hf ha] at hb
        cases hb
        refine ⟨fun hne => absurd rfl (hne _), fun c hc => ?_⟩
        cases hc
        exact .argument hs hf hstop (addsConverters_provideAll r before)

/-- Of two lists and a truth value that is declared to be passed as text, the last is refused. The
lists are of one type, so that one converter stays. -/
theorem refused_of_run_generate_twice :
    let list : BridgedType := ⟨.array (.simple .int true) true, .object "java.util.List"⟩
    let refused : BridgedType := ⟨.simple .boolean true, .text⟩
    let f : Function :=
      { identifier := "f"
        className := "F"
        overloads := [⟨[list.runtimeClass, list.runtimeClass, .anyObject], .primitive .int, false⟩]
        parameterTypes := fun _ => some [list, list, refused] }
    let operands := [list, list, refused].map fun b : BridgedType =>
      ({ code := "", term := "x", nullTerm := "false", type := b.type } : Expression)
    ∃ s, (({ function := f } : CallGenerator).generate operands (.simple .int false)).run.run {} =
        (.error (.unsupported refused), s) ∧
      ({ function := f } : CallGenerator).Refused operands (.simple .int false) {} refused s ∧
      s.converters = [list] ∧ s.names = ["converter$0"] := by
  intro list refused f operands
  have hrun : ((({ function := f } : CallGenerator).generate operands
      (.simple .int false)).run.run {}).1 = .error (.unsupported refused) := by
    decide +kernel
  have hafter : ((({ function := f } : CallGenerator).generate operands
      (.simple .int false)).run.run {}).2.converters = [list] := by
    decide +kernel
  have hnames : ((({ function := f } : CallGenerator).generate operands
      (.simple .int false)).run.run {}).2.names = ["converter$0"] := by
    decide +kernel
  rcases hs : (({ function := f } : CallGenerator).generate operands
    (.simple .int false)).run.run {} with ⟨out, s⟩
  rw [hs] at hrun hafter hnames
  obtain rfl := hrun
  exact ⟨s, rfl, (refused_of_run_generate rfl hs).2 refused rfl, hafter, hnames⟩

/-- **What stays of a call whose result is refused.** The function is not registered and has no
variables, but the arguments were made before, and what was missing for them has been added. So the
call leaves the registry as it was only if the registry provided for all arguments already. -/
theorem untouched_iff_of_result_refused {sig : Signature} {m : Registry}
    (hg : g.converter = .standard)
    (hs : g.signature (operands.map (·.type)) = .ok sig) (hf : g.foldAll operands = .ok folded)
    (ha : (g.converter.arguments operands sig.parameters sig.types).run.run r = (.ok args, m))
    (hc : sig.result.isPrimitive = false)
    (hi : (g.converter.toInternal
        (g.resultType folded (operands.map (·.type)) returnType sig.result)
        (externalName m)).run.run (m.withName (externalName m)) = (.error e, s)) :
    let targets := g.converter.targets operands sig.parameters sig.types
    (g.generate operands returnType).run.run r = (.error e, s) ∧
      e = .unsupported (g.resultType folded (operands.map (·.type)) returnType sig.result) ∧
      s = m.withName (externalName m) ∧ r.AddsConverters m (r.missing targets) ∧
      (r.Untouched s ↔ ∀ b ∈ targets, r.Provides b) := by
  intro targets
  have hinvoke : (g.invoke args (operands.map (·.type)) returnType sig.result folded).run.run m =
      (.error e, s) := by
    rw [run_invoke_of_object hc, hi]
  obtain ⟨-, -, he, hafter⟩ := run_invoke_eq_error hg hinvoke
  have hadds : r.AddsConverters m (r.missing targets) :=
    Converter.addsConverters_of_run_arguments hg ha
  refine ⟨?_, he, hafter, hadds, ?_⟩
  · rw [run_generate, run_block_of_arguments hs hf ha, hinvoke]
  · rw [hafter, untouched_withName_iff, hadds.untouched_iff, missing_eq_nil_iff]

/-- A list of integers is passed, and a point in time returned that is declared to be a text. The
converter of the list stays. -/
theorem untouched_iff_of_result_refused_list :
    let list : BridgedType := ⟨.array (.simple .int true) true, .object "java.util.List"⟩
    let stamp : BridgedType := ⟨.string, .object "java.time.Instant"⟩
    let f : Function :=
      { identifier := "stamp"
        className := "com.acme.Stamp"
        overloads := [⟨[list.runtimeClass], stamp.runtimeClass, false⟩]
        resultType := fun _ _ => some stamp }
    let g : CallGenerator := { function := f }
    let operands : List Expression :=
      [{ code := "", term := "a$0", nullTerm := "isNull$0", type := list.type }]
    ∃ s, (g.generate operands .string).run.run {} = (.error (.unsupported stamp), s) ∧
      s.references = [] ∧ s.locals = [] ∧ s.converters = [list] ∧
      s.initializations = ["converter$0 = ((DataStructureConverter) converters[0]);"] ∧
      ¬ Untouched {} s := by
  intro list stamp f g operands
  set sig : Signature := ⟨[list.runtimeClass], [list], stamp.runtimeClass⟩
  set made := (g.converter.arguments operands sig.parameters sig.types).run.run {}
  set external := externalName made.2
  set refused := (g.converter.toInternal (g.resultType [none] (operands.map (·.type)) .string
    sig.result) external).run.run (made.2.withName external)
  have hs : g.signature (operands.map (·.type)) = .ok sig := by decide +kernel
  have hf : g.foldAll operands = .ok [none] := by decide +kernel
  have ha : made.1 = .ok [{
      code := ""
      term := "isNull$0 ? null : (((java.util.List) converter$0.toExternal(a$0)))"
      nullTerm := "isNull$0"
      type := list.type }] := by
    decide +kernel
  have hi : refused.1 = .error (.unsupported stamp) := by decide +kernel
  obtain ⟨hrun, -, -, -, -⟩ := untouched_iff_of_result_refused (g := g) rfl hs hf
    (Prod.ext ha rfl) rfl (Prod.ext hi rfl)
  have hconverters : refused.2.converters = [list] := by decide +kernel
  have hinitializations : refused.2.initializations =
      ["converter$0 = ((DataStructureConverter) converters[0]);"] := by
    decide +kernel
  refine ⟨refused.2, hrun, by decide +kernel, by decide +kernel, hconverters, hinitializations, ?_⟩
  intro h
  rw [h.converters] at hconverters
  cases hconverters

end CallGenerator

end ScalarCall

import ScalarCall.Proofs.Call.Targets

/-!
Operands keep their types. If a function declares no types for its parameters, each operand is
converted from the type that it has, whatever its parameter's class stands for elsewhere. The class
decides what it is converted to, and if any object will do, the operand's type decides that as well.
-/

namespace ScalarCall

namespace Converter

/-- Operands become arguments one after the other. A primitive is passed as it is; an object is made
by a conversion from the operand's own type. -/
inductive ConvertsOwn : Registry → List Expression → List RuntimeClass → List BridgedType →
    List Expression → Registry → Prop
  | nil (r : Registry) : ConvertsOwn r [] [] [] [] r
  | primitive {r s : Registry} {e : Expression} {c : RuntimeClass} {b : BridgedType}
    {es args : List Expression} {cs : List RuntimeClass} {bs : List BridgedType}
    (hc : c.isPrimitive = true) (rest : ConvertsOwn r es cs bs args s) :
    ConvertsOwn r (e :: es) (c :: cs) (b :: bs) (e.asMillis c :: args) s
  | object {r m s : Registry} {e : Expression} {c : RuntimeClass} {b : BridgedType} {text : String}
    {es args : List Expression} {cs : List RuntimeClass} {bs : List BridgedType}
    (hc : c.isPrimitive = false)
    (own : standard.target b e.type = ⟨e.type, e.type.passedAs c⟩)
    (converted : (standard.toExternal (standard.target b e.type) e.term).run.run r = (.ok text, m))
    (rest : ConvertsOwn m es cs bs args s) :
    ConvertsOwn r (e :: es) (c :: cs) (b :: bs)
      (e.withTerm (guarded m.settings e.nullTerm text) :: args) s

variable {es args : List Expression} {cs : List RuntimeClass} {r s : Registry}

lemma convertsOwn_of_run_argumentList
    (h : List.Forall₂ RuntimeClass.Takes cs (es.map (·.type)))
    (hrun : (standard.argumentList es cs
      (List.zipWith parameterType cs (es.map (·.type)))).run.run r = (.ok args, s)) :
    ConvertsOwn r es cs (List.zipWith parameterType cs (es.map (·.type))) args s := by
  induction es generalizing cs args r with
  | nil =>
    cases h
    cases hrun
    exact .nil _
  | cons e es ih =>
    cases h with
    | @cons c _ cs _ htakes hrest =>
      rw [List.map_cons, List.zipWith_cons_cons] at hrun ⊢
      rw [argumentList, Generating.run_bind_eq_ok] at hrun
      obtain ⟨a, m, ha, hrun⟩ := hrun
      rw [Generating.run_bind_eq_ok] at hrun
      obtain ⟨rest, n, hargs, hrun⟩ := hrun
      cases hrun
      have hown := ih hrest hargs
      cases hp : c.isPrimitive with
      | true =>
        rw [run_argument_of_primitive _ hp] at ha
        cases ha
        exact .primitive hp hown
      | false =>
        rw [run_argument_of_object _ hp, Expression.asMillis_of_object hp] at ha
        split at ha
        · cases ha
        · next text k hconverted =>
          cases ha
          exact .object hp (target_of_takes htakes) hconverted hown

/-- **Arguments are made from the operands' own types**, for a resolved signature of a function that
declares no types for its parameters. Each operand passed as an object is converted from its type to
the class of its parameter, or to its default class if that is the class of any object; and all
these conversions succeed. -/
theorem convertsOwn_of_resolve {f : Function} {operands : List Expression} {m : Resolved}
    (hp : f.parameterTypes m.parameters = none)
    (h : resolve f (operands.map (·.type)) = .ok m) (r : Registry) :
    let sig := Signature.of f m (operands.map (·.type))
    ∃ args s, (standard.arguments operands sig.parameters sig.types).run.run r = (.ok args, s) ∧
      ConvertsOwn r operands sig.parameters sig.types args s := by
  intro sig
  obtain ⟨-, -, -, htakes, -⟩ := resolve_eq_ok h
  have htypes : sig.types = List.zipWith parameterType m.parameters (operands.map (·.type)) :=
    Signature.types_of hp
  rw [htypes]
  obtain ⟨args, s, hrun⟩ := run_arguments_of_takes htakes r
  obtain ⟨-, -, hlist⟩ := standard.run_arguments_eq_ok hrun
  exact ⟨args, s, hrun, convertsOwn_of_run_argumentList htakes hlist⟩

/-- A point in time stays one where a `Long` is asked for. Any objects are asked for after it, and
they get an array in its default class and a null. -/
theorem convertsOwn_of_resolve_any :
    let f : Function :=
      { identifier := "f"
        className := "F"
        overloads := [⟨[.boxed .long, .object "java.lang.Object[]"], .primitive .int, true⟩] }
    let ints : SqlType := .array (.simple .int true) true
    let time : SqlType := .simple (.timestampLtz 3) true
    let operands : List Expression := [
      { code := "", term := "a", nullTerm := "m", type := time },
      { code := "", term := "b", nullTerm := "n", type := ints },
      { code := "", term := "null", nullTerm := "true", type := .null }]
    ∃ m args s, resolve f (operands.map (·.type)) = .ok m ∧
      m.parameters = [.boxed .long, .anyObject, .anyObject] ∧
      (standard.arguments operands m.parameters
        (Signature.of f m (operands.map (·.type))).types).run.run {} = (.ok args, s) ∧
      ConvertsOwn {} operands m.parameters (Signature.of f m (operands.map (·.type))).types args s ∧
      args.map (·.term) = ["m ? null : (a.getMillisecond())",
        "n ? null : (((java.lang.Integer[]) converter$0.toExternal(b)))",
        "true ? null : (null)"] ∧
      s.converters = [⟨ints, .object "java.lang.Integer[]"⟩] := by
  intro f ints time operands
  set m : Resolved := ⟨[.boxed .long, .anyObject, .anyObject], .primitive .int⟩
  have hm : resolve f (operands.map (·.type)) = .ok m := by decide +kernel
  obtain ⟨args, s, hrun, hown⟩ := convertsOwn_of_resolve (f := f) rfl hm {}
  have hterms : ((standard.arguments operands m.parameters
      (Signature.of f m (operands.map (·.type))).types).run.run {}).1.toOption.map
        (List.map (·.term)) = some ["m ? null : (a.getMillisecond())",
          "n ? null : (((java.lang.Integer[]) converter$0.toExternal(b)))",
          "true ? null : (null)"] := by
    decide +kernel
  have hconverters : ((standard.arguments operands m.parameters
      (Signature.of f m (operands.map (·.type))).types).run.run {}).2.converters =
        [⟨ints, .object "java.lang.Integer[]"⟩] := by
    decide +kernel
  have hrun : (standard.arguments operands m.parameters
      (Signature.of f m (operands.map (·.type))).types).run.run {} = (.ok args, s) := hrun
  rw [hrun] at hterms hconverters
  exact ⟨m, args, s, hm, rfl, hrun, hown, Option.some.inj hterms, hconverters⟩

end Converter

end ScalarCall

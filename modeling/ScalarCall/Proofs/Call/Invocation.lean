import ScalarCall.Proofs.Call.Locals
import ScalarCall.Proofs.Call.Returned
import ScalarCall.Proofs.Conversion.Around

/-!
How a call invokes its function. The invocation is written once, through the field of the function
and with the arguments that were made before it. A primitive is assigned as it is returned. An
object is kept under a name of its own, and the text around this name is that of the conversion from
the type that the result is taken for.
-/

namespace ScalarCall

open Registry

/-- The call invokes the function in a field. What it returns is assigned in line if it is a
primitive, and else from the name that it is kept under, between the given texts. -/
inductive CallBlock.Invokes (b : CallBlock) (field : String) (returnType : SqlType) :
    RuntimeClass → Affix → Prop
  | primitive {c : RuntimeClass} {result : String} (hc : c.isPrimitive = true)
    (assignment : b.assignment =
      [.assign result (returnedValue returnType c (invocation field b.arguments))]) :
    b.Invokes field returnType c .bare
  | object {c : RuntimeClass} {a : Affix} {external kept : String} (hc : c.isPrimitive = false)
    (assignment : b.assignment = [
      .define c.term external ("(" ++ c.term ++ ") " ++ invocation field b.arguments),
      .assign kept (external ++ " == null ? null : (" ++ a.around external ++ ")")]) :
    b.Invokes field returnType c a

lemma CallBlock.Invokes.eq_bare {b : CallBlock} {field : String} {returnType : SqlType}
    {c : RuntimeClass} {a : Affix} (h : b.Invokes field returnType c a) (hc : c.isPrimitive = true) :
    a = .bare := by
  cases h with
  | primitive => rfl
  | object hobject =>
    rw [hc] at hobject
    cases hobject

namespace CallGenerator

variable {g : CallGenerator} {args : List Expression} {types : List SqlType}
  {returnType : SqlType} {c : RuntimeClass} {folded : List (Option ExternalLiteral)}
  {m s : Registry} {b : CallBlock}

/-- Variables that come after the function's field leave it where it is. -/
lemma functionField?_of_addsLocals {vs : List LocalVariable}
    (h : (g.withField m).AddsLocals s vs) :
    s.functionField? g.function.identifier = some (g.field m) := by
  rw [functionField?, h.functionFields]
  exact g.functionField?_withField m

lemma invokes_primitiveBlock (hc : c.isPrimitive = true)
    (h : (g.primitiveBlock args returnType c).run m = (b, s)) :
    b.arguments = args ∧ s.functionField? g.function.identifier = some (g.field m) ∧
      b.Invokes (g.field m) returnType c .bare := by
  obtain ⟨vs, hvs, -⟩ := declares_primitiveBlock hc h true
  have hfield := functionField?_of_addsLocals hvs
  rw [run_primitiveBlock] at h
  cases h
  exact ⟨rfl, hfield, .primitive hc rfl⟩

lemma invokes_objectBlock {a : Affix} {external : String} (hc : c.isPrimitive = false)
    (h : (g.objectBlock args returnType c external (a.around external)).run m = (b, s)) :
    b.arguments = args ∧ s.functionField? g.function.identifier = some (g.field m) ∧
      b.Invokes (g.field m) returnType c a := by
  obtain ⟨vs, hvs, -⟩ := declares_objectBlock hc h
  have hfield := functionField?_of_addsLocals hvs
  rw [run_objectBlock] at h
  cases h
  exact ⟨rfl, hfield, .object hc rfl⟩

/-- A call that succeeds invokes the function in its field. An object that it returns is converted
from the type that it is taken for. -/
lemma invokes_of_run_invoke (hg : g.converter = .standard)
    (h : (g.invoke args types returnType c folded).run.run m = (.ok b, s)) :
    b.arguments = args ∧ ∃ field a, s.functionField? g.function.identifier = some field ∧
      b.Invokes field returnType c a ∧
      (c.isPrimitive = false → ∃ n, n.GrowsTo s ∧
        ((g.resultType folded types returnType c).affix .toInternal).run.run
          (m.withName (externalName m)) = (.ok a, n)) := by
  obtain ⟨hc, hrun⟩ | ⟨hc, internal, n, hi, hrun⟩ := run_invoke_eq_ok h
  · obtain ⟨hargs, hfield, hinvokes⟩ := invokes_primitiveBlock hc hrun
    exact ⟨hargs, _, _, hfield, hinvokes, fun hobject => by simp [hc] at hobject⟩
  · rw [run_toInternal hg] at hi
    obtain ⟨a, ha, rfl⟩ := BridgedType.run_convert_eq_ok.1 hi
    obtain ⟨hargs, hfield, hinvokes⟩ := invokes_objectBlock hc hrun
    have hns : n.GrowsTo s := (g.orderly_objectBlock _ _ _ _ _).growsTo hrun
    exact ⟨hargs, _, _, hfield, hinvokes, fun _ => ⟨n, hns, ha⟩⟩

end CallGenerator

end ScalarCall

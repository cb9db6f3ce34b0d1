import ScalarCall.Proofs.Call.Assigned

/-!
The variables that a call declares. A primitive result has one; an object has one to be kept in,
one for its value and, if nulls are tracked, one for its null indicator. The object that the
function returned is in a variable of the code itself, which the registry does not declare.
-/

namespace ScalarCall

namespace Registry

/-- The second registry is the first one with more local variables. Names aside nothing else about
it is new. -/
structure AddsLocals (r s : Registry) (vs : List LocalVariable) : Prop where
  locals : s.locals = r.locals ++ vs
  settings : s.settings = r.settings
  references : s.references = r.references
  converters : s.converters = r.converters
  functionFields : s.functionFields = r.functionFields
  converterFields : s.converterFields = r.converterFields
  declarations : s.declarations = r.declarations
  initializations : s.initializations = r.initializations
  openings : s.openings = r.openings
  closings : s.closings = r.closings

variable {r s t : Registry} {vs ws : List LocalVariable}

lemma addsLocals_withName (r : Registry) (x : String) : r.AddsLocals (r.withName x) [] := by
  constructor <;> simp [withName]

lemma addsLocals_withLocal (r : Registry) (v : LocalVariable) :
    r.AddsLocals ((r.withName v.name).withLocal v) [v] := by
  constructor <;> rfl

lemma AddsLocals.trans (h : r.AddsLocals s vs) (k : s.AddsLocals t ws) :
    r.AddsLocals t (vs ++ ws) where
  locals := by rw [k.locals, h.locals, List.append_assoc]
  settings := k.settings.trans h.settings
  references := k.references.trans h.references
  converters := k.converters.trans h.converters
  functionFields := k.functionFields.trans h.functionFields
  converterFields := k.converterFields.trans h.converterFields
  declarations := k.declarations.trans h.declarations
  initializations := k.initializations.trans h.initializations
  openings := k.openings.trans h.openings
  closings := k.closings.trans h.closings

end Registry

open Registry

/-- The variables of a value: its own and, if it has one, that of its null indicator. -/
def Computation.locals (c : Computation) (indicated : Bool) : List LocalVariable :=
  ⟨c.type.primitiveTerm, c.term⟩ :: if indicated then [⟨"boolean", c.nullTerm⟩] else []

inductive CallBlock.Declares (b : CallBlock) (nullCheck : Bool) :
    RuntimeClass → List LocalVariable → Prop
  | primitive {c : RuntimeClass} (hc : c.isPrimitive = true)
    (never : b.result.nullTerm = neverNull) : b.Declares nullCheck c (b.result.locals false)
  | object {c : RuntimeClass} (kept : String) (hc : c.isPrimitive = false)
    (never : nullCheck = false → b.result.nullTerm = neverNull) :
    b.Declares nullCheck c (⟨b.result.type.boxedTerm, kept⟩ :: b.result.locals nullCheck)

def Statement.defined? : Statement → Option String
  | define _ x _ => some x
  | _ => none

def CallBlock.defined (b : CallBlock) : List String := b.assignment.filterMap Statement.defined?

variable {r s m : Registry}

lemma CallBlock.Declares.length_eq {b : CallBlock} {nullCheck : Bool} {c : RuntimeClass}
    {vs : List LocalVariable} (h : b.Declares nullCheck c vs) :
    vs.length = if c.isPrimitive then 1 else if nullCheck then 3 else 2 := by
  cases h with
  | primitive hc => simp [hc, Computation.locals]
  | object kept hc => cases nullCheck <;> simp [hc, Computation.locals]

/-- Unboxing declares the variables of its value, and assigns no others. -/
lemma Computation.addsLocals_unbox {t : SqlType} {input : String} {c : Computation}
    (h : (unbox t input).run r = (c, s)) :
    r.AddsLocals s (c.locals r.settings.nullCheck) ∧ c.type = t ∧
      (r.settings.nullCheck = false → c.nullTerm = neverNull) ∧
      targets c.statements ⊆ (c.locals r.settings.nullCheck).map LocalVariable.name := by
  rw [run_unbox] at h
  dsimp only at h
  have hvalue := r.addsLocals_withLocal ⟨t.primitiveTerm, r.nextName r.settings.resultHint⟩
  cases hn : r.settings.nullCheck with
  | true =>
    rw [if_pos hn] at h
    cases h
    refine ⟨hvalue.trans (addsLocals_withLocal _ ⟨"boolean", _⟩), rfl, by simp, ?_⟩
    simp [targets, Statement.target, locals]
  | false =>
    rw [if_neg (by simp [hn])] at h
    cases h
    refine ⟨hvalue, rfl, fun _ => rfl, ?_⟩
    simp [targets, Statement.target, locals]

namespace CallGenerator

variable {g : CallGenerator} {args : List Expression} {types : List SqlType}
  {returnType : SqlType} {c : RuntimeClass} {external internal : String}
  {folded : List (Option ExternalLiteral)} {b : CallBlock}

lemma declares_primitiveBlock (hc : c.isPrimitive = true)
    (h : (g.primitiveBlock args returnType c).run r = (b, s)) (nullCheck : Bool) :
    ∃ vs, (g.withField r).AddsLocals s vs ∧ b.Declares nullCheck c vs ∧
      b.assigned ⊆ b.defined ++ vs.map LocalVariable.name := by
  rw [run_primitiveBlock] at h
  dsimp only at h
  set f := g.withField r
  set result := f.nextName f.settings.resultHint
  cases h
  have hvalue := f.addsLocals_withLocal ⟨returnType.primitiveTerm, result⟩
  refine ⟨_, hvalue, .primitive hc rfl, ?_⟩
  simp [CallBlock.assigned, targets, Statement.target, Computation.present]

lemma declares_objectBlock (hc : c.isPrimitive = false)
    (h : (g.objectBlock args returnType c external internal).run r = (b, s)) :
    ∃ vs, (g.withField r).AddsLocals s vs ∧ b.Declares r.settings.nullCheck c vs ∧
      b.assigned ⊆ b.defined ++ vs.map LocalVariable.name := by
  rw [run_objectBlock] at h
  dsimp only at h
  set f := g.withField r
  set kept := f.nextName f.settings.resultHint
  set k := (f.withName kept).withLocal ⟨returnType.boxedTerm, kept⟩
  rcases hu : (Computation.unbox returnType kept).run k with ⟨value, t⟩
  rw [hu] at h
  cases h
  have hk : f.AddsLocals k [⟨returnType.boxedTerm, kept⟩] := addsLocals_withLocal _ ⟨_, _⟩
  have hset : k.settings.nullCheck = r.settings.nullCheck := by
    rw [hk.settings, (g.growsTo_withField r).settings_eq]
  obtain ⟨hvalue, htype, hnever, htargets⟩ := Computation.addsLocals_unbox hu
  rw [hset] at hvalue hnever htargets
  subst htype
  refine ⟨_, hk.trans hvalue, .object kept hc hnever, ?_⟩
  intro x hx
  simp only [CallBlock.assigned, targets, List.cons_append, List.nil_append, List.map_cons,
    Statement.target, List.mem_cons] at hx
  rcases hx with rfl | rfl | hx
  · simp [CallBlock.defined, Statement.defined?]
  · simp
  · have := htargets hx
    simp [this]

/-- A call declares its variables after the function has its field, and assigns no others. -/
lemma declares_of_run_invoke
    (h : (g.invoke args types returnType c folded).run.run m = (.ok b, s)) :
    ∃ n vs, m.GrowsTo n ∧ (g.withField n).AddsLocals s vs ∧
      b.Declares m.settings.nullCheck c vs ∧
      b.assigned ⊆ b.defined ++ vs.map LocalVariable.name := by
  obtain ⟨hc, h⟩ | ⟨hc, internal, n, hi, h⟩ := run_invoke_eq_ok h
  · obtain ⟨vs, hvs⟩ := declares_primitiveBlock hc h m.settings.nullCheck
    exact ⟨m, vs, .refl, hvs⟩
  · have hn : m.GrowsTo n :=
      (GrowsTo.name _ .refl).trans ((g.converter.orderly_toInternal _ _).growsTo hi)
    obtain ⟨vs, hvs⟩ := declares_objectBlock hc h
    rw [hn.settings_eq] at hvs
    exact ⟨n, vs, hn, hvs⟩

end CallGenerator

end ScalarCall

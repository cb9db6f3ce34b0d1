import Mathlib.Data.List.Perm.Subperm
import ScalarCall.Proofs.Call.Locals
import ScalarCall.Proofs.Registry.Mints

/-!
The names of a session. Every request may make new fields and variables, and what it answers may
bring further names; over a whole session no two of these are the same, whatever was asked for and
whether or not it failed.
-/

namespace ScalarCall

namespace Registry

structure Step where
  before : Registry
  request : Request

/-- The requests of a session, each with the registry that it is made to. -/
def history (r : Registry) : List Request → List Step
  | [] => []
  | q :: qs => ⟨r, q⟩ :: history (r.perform q).2 qs

/-- The names of the fields and variables that the second registry has beside those of the first. -/
def heldSince (r s : Registry) : List String :=
  (s.functionFields.drop r.functionFields.length).map Prod.snd ++
    (s.converterFields.drop r.converterFields.length).map Prod.snd ++
    (s.locals.drop r.locals.length).map LocalVariable.name

namespace Step

def answer (p : Step) : Except CallError Answer := (p.before.perform p.request).1

def after (p : Step) : Registry := (p.before.perform p.request).2

/-- The new names in an answer that the registry has no field and no variable for: one that was
asked for, and the one that a call keeps the returned object under. -/
def loose (p : Step) : List String :=
  match p.request, p.answer with
  | .name _, .ok (.term x) => [x]
  | .generate .., .ok (.call b) => b.defined
  | _, _ => []

/-- All names that a step gives out for something to be seen under. -/
def shown (p : Step) : List String := p.before.heldSince p.after ++ p.loose

/-- The names that the asker has from an answer as new ones: those asked for, fields at their first
registration, and the variables that code assigns. -/
def received (p : Step) : List String :=
  match p.request, p.answer with
  | .name _, .ok (.term x) => [x]
  | .localVariable .., .ok (.term x) => [x]
  | .function f, .ok (.term x) => if p.before.functionField? f.identifier = none then [x] else []
  | .converter b, .ok (.term x) => if p.before.converterField? b = none then [x] else []
  | .unbox .., .ok (.value c) => targets c.statements
  | .generate .., .ok (.call b) => b.assigned
  | _, _ => []

end Step

variable {r s : Registry}

lemma heldSince_mintAll (r : Registry) (ms : List Mint) :
    r.heldSince (r.mintAll ms) = (ms.flatMap Mint.functionFields).map Prod.snd ++
      (ms.flatMap Mint.converterFields).map Prod.snd ++
      (ms.flatMap Mint.locals).map LocalVariable.name := by
  simp [heldSince, functionFields_mintAll, converterFields_mintAll, locals_mintAll]

lemma mem_heldSince_withFunction (r : Registry) (f : FunctionRef) (field : String) :
    field ∈ r.heldSince ((r.withName field).withFunction f field) := by
  simp [heldSince, withFunction, withStatements, withName]

lemma mem_heldSince_withConverter (r : Registry) (b : BridgedType) (field : String) :
    field ∈ r.heldSince ((r.withName field).withConverter b field) := by
  simp [heldSince, withConverter, withStatements, withName]

lemma AddsLocals.subset_heldSince {m : Registry} {vs : List LocalVariable}
    (h : m.AddsLocals s vs) (hm : r.GrowsTo m) :
    vs.map LocalVariable.name ⊆ r.heldSince s := by
  obtain ⟨ms, rfl⟩ := hm.exists_mintAll
  have hlocals : s.locals.drop r.locals.length = ms.flatMap Mint.locals ++ vs := by
    simp [h.locals, locals_mintAll]
  rw [heldSince, hlocals, List.map_append]
  exact List.Subset.trans (List.subset_append_right _ _) (List.subset_append_right _ _)

/-! ### Steps -/

/-- The variable that a call defines has a name of its own. -/
lemma exists_mintAll_of_run_block {g : CallGenerator} {operands : List Expression}
    {returnType : SqlType} {b : CallBlock}
    (h : (g.block operands returnType).run.run r = (.ok b, s)) :
    ∃ ms, s = r.mintAll ms ∧ b.defined.Sublist (ms.flatMap Mint.looseNames) := by
  obtain ⟨sig, folded, args, m, -, -, ha, hinvoke⟩ := CallGenerator.run_block_eq_ok h
  obtain ⟨-, hb⟩ | ⟨-, internal, n, hi, hb⟩ := CallGenerator.run_invoke_eq_ok hinvoke
  · obtain ⟨ms, hms⟩ := ((g.orderly_block operands returnType).growsTo h).exists_mintAll
    rw [CallGenerator.run_primitiveBlock] at hb
    cases hb
    exact ⟨ms, hms, List.nil_sublist _⟩
  · -- the name is given out after the arguments, and before the conversion of the object
    obtain ⟨first, rfl⟩ := ((g.converter.orderly_arguments _ _ _).growsTo ha).exists_mintAll
    set m := r.mintAll first
    set external := CallGenerator.externalName m
    obtain ⟨second, rfl⟩ := ((g.converter.orderly_toInternal _ _).growsTo hi).exists_mintAll
    obtain ⟨third, rfl⟩ := ((g.orderly_objectBlock _ _ _ _ _).growsTo hb).exists_mintAll
    have hms : r.mintAll (first ++ [.loose external] ++ second ++ third) =
        ((m.withName external).mintAll second).mintAll third := by
      simp only [mintAll_append]
      rfl
    refine ⟨_, hms.symm, ?_⟩
    have hdefined : b.defined = [external] := by
      rw [CallGenerator.run_objectBlock] at hb
      obtain ⟨hb, -⟩ := Prod.mk.inj hb
      rw [← hb]
      rfl
    rw [hdefined]
    simp [Mint.looseNames]

lemma perform_function (r : Registry) (f : FunctionRef) :
    r.perform (.function f) =
      (.ok (.term ((functionField f).run r).1), ((functionField f).run r).2) := rfl

lemma perform_converter (r : Registry) (b : BridgedType) :
    r.perform (.converter b) =
      (.ok (.term ((converterField b).run r).1), ((converterField b).run r).2) := rfl

lemma perform_generate (r : Registry) (g : CallGenerator) (operands : List Expression)
    (returnType : SqlType) :
    r.perform (.generate g operands returnType) =
      match (g.block operands returnType).run.run r with
      | (.error e, s) => (.error e, s)
      | (.ok b, s) => (.ok (.call b), s) := by
  unfold perform Request.perform
  rw [Generating.run_bind]
  rcases (g.block operands returnType).run.run r with ⟨_ | _, _⟩ <;> rfl

namespace Step

/-- A step gives out a name for each thing that it shows, and keeps its loose ones loose. -/
lemma exists_mintAll (p : Step) :
    ∃ ms, p.after = p.before.mintAll ms ∧ p.loose.Sublist (ms.flatMap Mint.looseNames) := by
  obtain ⟨ms, hms⟩ := (p.before.growsTo_perform p.request).exists_mintAll
  obtain ⟨r, q⟩ := p
  cases q with
  | name hint => exact ⟨[.loose (r.nextName hint)], rfl, List.Sublist.refl _⟩
  | generate g operands returnType =>
    unfold Step.loose answer after
    rw [perform_generate]
    rcases hb : (g.block operands returnType).run.run r with ⟨e | b, s⟩
    · refine ⟨ms, ?_, List.nil_sublist _⟩
      rw [perform_generate, hb] at hms
      exact hms
    · exact exists_mintAll_of_run_block hb
  | _ => exact ⟨ms, hms, List.nil_sublist _⟩

/-- What a step shows are different names, all of them given out by it. -/
lemma subperm_shown (p : Step) : p.shown.Subperm (minted p.before p.after) := by
  obtain ⟨ms, hms, hloose⟩ := p.exists_mintAll
  have hminted : minted p.before p.after = ms.map Mint.name := by
    simp [minted, hms, names_mintAll]
  rw [hminted, shown, hms, heldSince_mintAll]
  exact (hloose.append_left _).subperm.trans (perm_names ms).subperm

lemma received_subset_shown (p : Step) : p.received ⊆ p.shown := by
  obtain ⟨r, q⟩ := p
  cases q with
  | name hint => exact List.subset_append_right _ _
  | localVariable typeTerm hint =>
    have hv := r.addsLocals_withLocal ⟨typeTerm, r.nextName hint⟩
    exact List.Subset.trans (hv.subset_heldSince .refl) (List.subset_append_left _ _)
  | function f =>
    unfold received shown loose answer after
    rw [perform_function, run_functionField]
    cases hf : r.functionField? f.identifier with
    | some field => simp [hf]
    | none =>
      have hmem := r.mem_heldSince_withFunction f (r.newFunctionField f)
      simpa [hf] using hmem
  | converter b =>
    unfold received shown loose answer after
    rw [perform_converter, run_converterField]
    cases hb : r.converterField? b with
    | some field => simp [hb]
    | none =>
      have hmem := r.mem_heldSince_withConverter b r.newConverterField
      simpa [hb] using hmem
  | unbox t input =>
    have hrun : (Computation.unbox t input).run r =
        (((Computation.unbox t input).run r).1, ((Computation.unbox t input).run r).2) := rfl
    obtain ⟨hlocals, -, -, htargets⟩ := Computation.addsLocals_unbox hrun
    have hheld := List.Subset.trans htargets (hlocals.subset_heldSince .refl)
    exact List.Subset.trans hheld (List.subset_append_left _ _)
  | generate g operands returnType =>
    unfold received shown loose answer after
    rw [perform_generate]
    rcases hb : (g.block operands returnType).run.run r with ⟨e | b, s⟩
    · exact List.nil_subset _
    · obtain ⟨sig, folded, args, m, -, -, ha, hinvoke⟩ := CallGenerator.run_block_eq_ok hb
      obtain ⟨n, vs, hn, hvs, -, hassigned⟩ := CallGenerator.declares_of_run_invoke hinvoke
      have hrn : r.GrowsTo (g.withField n) :=
        (((g.converter.orderly_arguments _ _ _).growsTo ha).trans hn).trans (g.growsTo_withField n)
      intro x hx
      rcases List.mem_append.1 (hassigned hx) with hx | hx
      · exact List.mem_append_right _ hx
      · exact List.mem_append_left _ (hvs.subset_heldSince hrn hx)
  | _ => exact List.nil_subset _

end Step

/-! ### Sessions -/

lemma subperm_history (r : Registry) (qs : List Request) :
    ((history r qs).flatMap Step.shown).Subperm (minted r (r.after qs)) := by
  induction qs generalizing r with
  | nil => exact List.nil_subperm
  | cons q qs ih =>
    have hfirst := (r.growsTo_perform q).prefix_names
    have hrest := ((r.perform q).2.growsTo_after qs).prefix_names
    have hminted : minted r (r.after (q :: qs)) =
        minted r (r.perform q).2 ++ minted (r.perform q).2 ((r.perform q).2.after qs) :=
      minted_append hfirst hrest
    rw [history, List.flatMap_cons, hminted]
    exact (Step.subperm_shown ⟨r, q⟩).append (ih _)

/-- **No name is given out twice**, under any settings and in any session, failed requests
included. All that a session shows has names of its own: the fields of functions and converters,
local variables, and the names in answers. -/
theorem nodup_shown (settings : Settings) (qs : List Request) :
    let steps := history { settings } qs
    let names := (after { settings } qs).names
    names.Nodup ∧ (steps.flatMap Step.shown).Nodup ∧ steps.flatMap Step.shown ⊆ names ∧
      ∀ p ∈ steps, p.received ⊆ p.shown := by
  intro steps names
  have hnames : minted { settings } (after { settings } qs) = names := by
    simp [minted, names]
  have hnodup : names.Nodup := by
    rw [← hnames]
    exact (growsTo_after _ qs).nodup_minted
  have hsub : (steps.flatMap Step.shown).Subperm names := by
    rw [← hnames]
    exact subperm_history _ qs
  obtain ⟨l, hperm, hl⟩ := List.subperm_iff.1 hsub
  refine ⟨hnodup, (hperm.nodup_iff.2 hnodup).sublist hl, hsub.subset, ?_⟩
  exact fun p _ => p.received_subset_shown

end Registry

end ScalarCall

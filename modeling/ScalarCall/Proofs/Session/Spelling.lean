import ScalarCall.Proofs.Registry.Spelling
import ScalarCall.Proofs.Session.Names

/-!
The names of a session under valid settings. All names that are not made of a hint in the request
itself are numbered identifiers, those of a call that fails included.
-/

namespace ScalarCall

open Registry

variable {r s m : Registry}

lemma Computation.targets_spelled {t : SqlType} {input : String} {c : Computation}
    (hr : r.settings.IsValid) (h : (unbox t input).run r = (c, s)) :
    ∀ x ∈ targets c.statements, IsNumberedIdentifier x := by
  have hresult := isNumberedIdentifier_nextName hr .result
  have hindicator : ∀ n, IsNumberedIdentifier (numbered r.settings.nullHint n) :=
    isNumberedIdentifier_numbered (hr .isNull)
  rw [run_unbox] at h
  dsimp only at h
  intro x hx
  split at h
  · cases h
    simp only [targets, List.map_cons, List.map_nil, Statement.target, List.mem_cons,
      List.not_mem_nil, or_false] at hx
    rcases hx with rfl | rfl | rfl
    · exact hindicator _
    · exact hresult
    · exact hresult
  · cases h
    obtain rfl := List.mem_singleton.1 hx
    exact hresult

namespace CallGenerator

variable {g : CallGenerator} {args operands : List Expression} {returnType : SqlType}
  {c : RuntimeClass} {external internal : String} {b : CallBlock}

lemma isValid_withField (hr : r.settings.IsValid) : (g.withField r).settings.IsValid :=
  (g.growsTo_withField r).settings_eq ▸ hr

lemma spelled_primitiveBlock (hr : r.settings.IsValid)
    (h : (g.primitiveBlock args returnType c).run r = (b, s)) :
    ∀ x ∈ b.assigned, IsNumberedIdentifier x := by
  rw [run_primitiveBlock] at h
  cases h
  intro x hx
  obtain rfl := List.mem_singleton.1 hx
  exact isNumberedIdentifier_nextName (isValid_withField hr) .result

lemma spelled_objectBlock (hr : r.settings.IsValid) (he : IsNumberedIdentifier external)
    (h : (g.objectBlock args returnType c external internal).run r = (b, s)) :
    ∀ x ∈ b.assigned, IsNumberedIdentifier x := by
  rw [run_objectBlock] at h
  cases h
  intro x hx
  simp only [CallBlock.assigned, targets, List.cons_append, List.nil_append, List.map_cons,
    Statement.target, List.mem_cons] at hx
  rcases hx with rfl | rfl | hx
  · exact he
  · exact isNumberedIdentifier_nextName (isValid_withField hr) .result
  · refine Computation.targets_spelled ?_ rfl x hx
    exact isValid_withField hr

lemma isNumberedIdentifier_externalName (hr : r.settings.IsValid) :
    IsNumberedIdentifier (externalName r) :=
  isNumberedIdentifier_nextName hr .externalResult

theorem spelled_of_run_block (hr : r.settings.IsValid)
    (h : (g.block operands returnType).run.run r = (.ok b, s)) :
    ∀ x ∈ b.assigned, IsNumberedIdentifier x := by
  obtain ⟨sig, folded, args, m, -, -, ha, hinvoke⟩ := run_block_eq_ok h
  have hm : m.settings.IsValid :=
    ((g.converter.orderly_arguments _ _ _).growsTo ha).settings_eq ▸ hr
  obtain ⟨-, hb⟩ | ⟨-, internal, n, hi, hb⟩ := run_invoke_eq_ok hinvoke
  · exact spelled_primitiveBlock hm hb
  · have hn : n.settings.IsValid := by
      have hset := ((g.converter.orderly_toInternal _ _).growsTo hi).settings_eq
      rw [hset]
      exact hm
    exact spelled_objectBlock hn (isNumberedIdentifier_externalName hm) hb

/-- The call gives the name to the object that its function is to return. The object may still turn
out to have no internal form. -/
inductive KeepsUnder (g : CallGenerator) (operands : List Expression) (r : Registry) :
    String → Prop
  | mk {sig : Signature} {folded : List (Option ExternalLiteral)} {args : List Expression}
    {m : Registry} (hs : g.signature (operands.map (·.type)) = .ok sig)
    (hf : g.foldAll operands = .ok folded)
    (ha : (g.converter.arguments operands sig.parameters sig.types).run.run r = (.ok args, m))
    (hc : sig.result.isPrimitive = false) : g.KeepsUnder operands r (externalName m)

lemma KeepsUnder.isNumberedIdentifier {x : String} (h : g.KeepsUnder operands r x)
    (hr : r.settings.IsValid) : IsNumberedIdentifier x := by
  obtain ⟨hs, hf, ha, hc⟩ := h
  refine isNumberedIdentifier_externalName ?_
  rw [((g.converter.orderly_arguments _ _ _).growsTo ha).settings_eq]
  exact hr

/-- The name is given out, whether or not the call succeeds. -/
lemma KeepsUnder.mem_minted {x : String} (h : g.KeepsUnder operands r x) (returnType : SqlType) :
    x ∈ minted r ((g.block operands returnType).run.run r).2 := by
  obtain @⟨sig, folded, args, m, hs, hf, ha, hc⟩ := h
  have hrm := (g.converter.orderly_arguments _ _ _).growsTo ha
  rw [run_block_of_arguments hs hf ha, run_invoke_of_object hc]
  set k := m.withName (externalName m)
  have hx : externalName m ∈ minted r k := by
    rw [minted_withName hrm.prefix_names]
    simp
  rcases hi : (g.converter.toInternal (g.resultType folded (operands.map (·.type)) returnType
    sig.result) (externalName m)).run.run k with ⟨e | internal, t⟩
  all_goals
    have hkt := (g.converter.orderly_toInternal _ _).growsTo hi
    rw [hi]
  · exact minted_subset_right hkt.prefix_names hx
  · have hts := g.orderly_objectBlock args returnType sig.result (externalName m) internal t
    exact minted_subset_right (hkt.trans hts).prefix_names hx

end CallGenerator

def Request.isHinted : Request → Bool
  | name .. | localVariable .. => true
  | _ => false

namespace Registry

lemma growsTo_of_mem_history {p : Step} {qs : List Request} (h : p ∈ history r qs) :
    r.GrowsTo p.before := by
  induction qs generalizing r with
  | nil => cases h
  | cons q qs ih =>
    rcases List.mem_cons.1 h with rfl | h
    · exact .refl
    · exact (r.growsTo_perform q).trans (ih h)

lemma Step.received_spelled {p : Step} (hp : p.before.settings.IsValid)
    (hq : p.request.isHinted = false) : ∀ x ∈ p.received, IsNumberedIdentifier x := by
  obtain ⟨r, q⟩ := p
  intro x hx
  cases q with
  | name | localVariable => cases hq
  | function f =>
    unfold received answer at hx
    rw [perform_function, run_functionField] at hx
    cases hf : r.functionField? f.identifier with
    | some field => simp [hf] at hx
    | none =>
      obtain rfl : x = r.newFunctionField f := by simpa [hf] using hx
      exact isNumberedIdentifier_newFunctionField hp f
  | converter b =>
    unfold received answer at hx
    rw [perform_converter, run_converterField] at hx
    cases hb : r.converterField? b with
    | some field => simp [hb] at hx
    | none =>
      obtain rfl : x = r.newConverterField := by simpa [hb] using hx
      exact isNumberedIdentifier_newConverterField hp
  | unbox t input => exact Computation.targets_spelled hp rfl x hx
  | generate g operands returnType =>
    unfold received answer at hx
    rw [perform_generate] at hx
    rcases hb : (g.block operands returnType).run.run r with ⟨e | b, s⟩
    · rw [hb] at hx
      cases hx
    · rw [hb] at hx
      exact CallGenerator.spelled_of_run_block hp hb x hx
  | _ => cases hx

/-- **What is loaded gives names that can be written.** Settings that are read or overridden pass
their check; and under settings that pass it every session, whatever it asks for, has numbered
identifiers for its fields, for the variables of its code, and for the objects that its calls were
to keep, the calls that failed included. -/
theorem names_of_valid_settings :
    (∀ text s, Settings.ofText text = .ok s → s.validate = .ok s) ∧
    (∀ file s, Settings.ofFile file = .ok s → s.validate = .ok s) ∧
    (∀ base lookup s, Settings.override base lookup = .ok s → s.validate = .ok s) ∧
    ∀ settings : Settings, settings.validate = .ok settings → ∀ qs : List Request,
      (∀ x ∈ (after { settings } qs).fields, IsNumberedIdentifier x) ∧
      ∀ p ∈ history { settings } qs,
        (p.request.isHinted = false → ∀ x ∈ p.received, IsNumberedIdentifier x) ∧
        ∀ g operands returnType x, p.request = .generate g operands returnType →
          g.KeepsUnder operands p.before x →
          x ∈ minted p.before p.after ∧ IsNumberedIdentifier x := by
  refine ⟨fun _ _ => Settings.validate_of_ofText, fun _ _ => Settings.validate_of_ofFile,
    fun _ _ _ => Settings.validate_of_override, fun settings hvalid qs => ?_⟩
  have hr : settings.IsValid := (Settings.validate_eq_ok_iff.1 hvalid).2
  constructor
  · exact (growsTo_after { settings } qs).fields_spelled hr (by simp [fields])
  · intro p hp
    have hbefore : p.before.settings.IsValid := (growsTo_of_mem_history hp).settings_eq ▸ hr
    refine ⟨Step.received_spelled hbefore, ?_⟩
    intro g operands returnType x hq hx
    refine ⟨?_, hx.isNumberedIdentifier hbefore⟩
    have hafter : p.after = ((g.block operands returnType).run.run p.before).2 := by
      unfold Step.after
      rw [hq, perform_generate]
      rcases (g.block operands returnType).run.run p.before with ⟨_ | _, _⟩ <;> rfl
    rw [hafter]
    exact hx.mem_minted returnType

/-- An identifier that no name could hold, and a call that fails after it named its object. -/
theorem names_of_stored_settings :
    let settings : Settings := { externalResultHint := "_out", functionFieldHint := "f" }
    let stored := "\x7b\"external_result_hint\": \"_out\", \"function_field_prefix\": \"f\"\x7d"
    let f : Function :=
      { identifier := "é.1"
        className := "F"
        overloads := [⟨[], .object "java.time.Instant", false⟩]
        resultType := fun _ _ => some ⟨.string, .object "java.time.Instant"⟩ }
    let g : CallGenerator := { function := f }
    let qs : List Request := [.function g.ref, .generate g [] .string]
    Settings.ofText stored = .ok settings ∧
      (after { settings } qs).fields = ["f__1$0"] ∧ IsNumberedIdentifier "f__1$0" ∧
      (after { settings } qs).names = ["f__1$0", "_out$1"] ∧ IsNumberedIdentifier "_out$1" := by
  intro settings stored f g qs
  have hload : Settings.ofText stored = .ok settings := by decide +kernel
  have hfields : (after { settings } qs).fields = ["f__1$0"] := by decide +kernel
  have hnames : (after { settings } qs).names = ["f__1$0", "_out$1"] := by decide +kernel
  obtain ⟨hread, -, -, hsession⟩ := names_of_valid_settings
  obtain ⟨hspelled, hsteps⟩ := hsession settings (hread stored settings hload) qs
  refine ⟨hload, hfields, hspelled _ (by rw [hfields]; simp), hnames, ?_⟩
  set r := (perform { settings } (.function g.ref)).2
  obtain ⟨-, hkept⟩ := hsteps ⟨r, .generate g [] .string⟩ (by simp [history, qs, r])
  have hname : CallGenerator.externalName r = "_out$1" := by decide +kernel
  have hs : g.signature [] = .ok ⟨[], [], .object "java.time.Instant"⟩ := by decide +kernel
  rw [← hname]
  exact (hkept g [] .string _ rfl (.mk hs rfl rfl rfl)).2

end Registry

end ScalarCall

import ScalarCall.Proofs.Registry.Lasting

/-!
What a conversion writes. It puts text before and after the term and does not look at the term
itself, so that a term is evaluated exactly once, whatever it is. The text is empty in both
directions or in neither. A converter that both directions go through is in one field, and nothing
that is registered later changes what they write.
-/

namespace ScalarCall

open Registry

/-- A conversion in line closes a bracket behind the term, in either direction. -/
lemma SimpleType.after_ne_empty {t : SimpleType} {d : Direction} {c : RuntimeClass} {a : Affix}
    (h : t.inlineAffix? d c = some a) : a.after ≠ "" := by
  have hcall : ∀ f, (Affix.call f).after ≠ "" := fun f => by simp [Affix.call]
  have hmethod : ∀ name, (Affix.method name).after ≠ "" := fun name => by simp [Affix.method]
  cases t with
  | boolean | tinyint | smallint | int | bigint | float | double | binary | varbinary =>
    cases d <;> cases h
  | decimal p s =>
    cases d <;> cases h
    · exact hmethod _
    · simp
  | char | varchar | date | time | timestamp | timestampLtz =>
    cases d with
    | toExternal =>
      unfold inlineAffix? toExternal? at h
      dsimp only at h
      split_ifs at h <;> cases h <;> simp [hcall, hmethod]
    | toInternal =>
      unfold inlineAffix? toInternal? at h
      dsimp only at h
      split_ifs at h <;> cases h <;> simp [hcall]

lemma Registry.converterField?_run (b : BridgedType) (r : Registry) :
    ((converterField b).run r).2.converterField? b = some ((converterField b).run r).1 := by
  rw [run_converterField]
  cases h : r.converterField? b with
  | some field => exact h
  | none => exact lookup_concat _ h

namespace BridgedType

variable {b : BridgedType} {d : Direction} {a : Affix} {r s t : Registry} {term text : String}

lemma conversion?_eq_identity_iff :
    b.conversion? d = some .identity ↔ b.isSupported = true ∧ b.isIdentity = true := by
  unfold conversion?
  cases b.isSupported <;> cases b.isIdentity <;> cases b.type <;> simp

lemma of_conversion?_eq_inline (h : b.conversion? d = some (.inline a)) :
    a ≠ .bare ∧ b.isIdentity = false ∧ b.type.isStructured = false := by
  unfold conversion? at h
  split at h
  · cases h
  split at h
  · cases h
  next hi =>
  split at h
  · next t n ht =>
    obtain ⟨a', ha, ha'⟩ := Option.map_eq_some_iff.1 h
    cases ha'
    refine ⟨?_, Bool.eq_false_iff.2 hi, by rw [ht]; rfl⟩
    rintro rfl
    exact SimpleType.after_ne_empty ha rfl
  · cases h

lemma fieldAffix_ne_bare (b : BridgedType) (field : String) (d : Direction) :
    b.fieldAffix field d ≠ .bare := by
  cases d <;> simp [fieldAffix, Affix.bare]

/-- The text around a term is empty if both forms are the same. Otherwise it is written in line, or
it calls the converter in the field that the type has by then. -/
lemma run_affix_eq_ok (h : (b.affix d).run.run r = (.ok a, s)) :
    s = r.provide b ∧ (a = .bare ↔ b.isIdentity = true) ∧
      (b.needsField = true → ∃ field, s.converterField? b = some field ∧
        a = b.fieldAffix field d) := by
  rw [run_affix] at h
  cases hc : b.conversion? d with
  | none =>
    rw [hc] at h
    cases h
  | some conversion =>
    rw [hc] at h
    cases conversion with
    | identity =>
      have hi := (conversion?_eq_identity_iff.1 hc).2
      have hn : b.needsField = false := by simp [needsField, hi]
      cases h
      exact ⟨(provide_of_not_needsField hn).symm, by simp [hi], by simp [hn]⟩
    | inline a' =>
      obtain ⟨hbare, hi, hs⟩ := of_conversion?_eq_inline hc
      have hn : b.needsField = false := by simp [needsField, hs]
      cases h
      exact ⟨(provide_of_not_needsField hn).symm, by simp [hbare, hi], by simp [hn]⟩
    | registered =>
      obtain ⟨-, hi, hs⟩ := conversion?_eq_registered_iff.1 hc
      have hn : b.needsField = true := by simp [needsField, hi, hs]
      cases h
      refine ⟨by rw [provide, if_pos hn], by simp [fieldAffix_ne_bare, hi], fun _ => ?_⟩
      exact ⟨_, converterField?_run b r, rfl⟩

lemma run_convert_eq_ok : (b.convert d term).run.run r = (.ok text, s) ↔
    ∃ a, (b.affix d).run.run r = (.ok a, s) ∧ text = a.around term := by
  unfold convert
  rw [Generating.run_bind_eq_ok]
  constructor
  · rintro ⟨a, m, ha, hrun⟩
    cases hrun
    exact ⟨a, ha, rfl⟩
  · rintro ⟨a, ha, rfl⟩
    exact ⟨a, s, ha, rfl⟩

lemma isSupported_of_run_affix (h : (b.affix d).run.run r = (.ok a, s)) : b.isSupported = true :=
  (exists_run_convert_iff b d "" r).1 ⟨_, congrArg Prod.fst (run_convert_eq_ok.2 ⟨a, h, rfl⟩)⟩

lemma exists_run_affix (h : b.isSupported = true) (d : Direction) (r : Registry) :
    ∃ a, (b.affix d).run.run r = (.ok a, r.provide b) := by
  obtain ⟨text, ht⟩ := run_convert_of_supported h d "" r
  obtain ⟨a, ha, -⟩ := run_convert_eq_ok.1 ht
  have hafter := (run_affix_eq_ok ha).1
  rw [hafter] at ha
  exact ⟨a, ha⟩

/-- The text is the same in every later registry, and nothing is left to be registered there. -/
lemma run_affix_of_growsTo (h : (b.affix d).run.run r = (.ok a, s)) (hst : s.GrowsTo t) :
    (b.affix d).run.run t = (.ok a, t) := by
  rw [run_affix] at h ⊢
  cases hc : b.conversion? d with
  | none =>
    rw [hc] at h
    cases h
  | some conversion =>
    rw [hc] at h
    cases conversion with
    | identity | inline =>
      cases h
      rfl
    | registered =>
      cases h
      have hf := hst.converterField?_eq_some (converterField?_run b r)
      dsimp only
      rw [run_converterField b t, hf]

lemma run_convert_of_growsTo (h : (b.convert d term).run.run r = (.ok text, s))
    (hst : s.GrowsTo t) : (b.convert d term).run.run t = (.ok text, t) := by
  obtain ⟨a, ha, htext⟩ := run_convert_eq_ok.1 h
  exact run_convert_eq_ok.2 ⟨a, run_affix_of_growsTo ha hst, htext⟩

/-- **What stands around a converted term does not depend on the term.** If a type is converted in
one direction, it is in both, with the same effect on the registry for all terms. The text around
them is empty in both directions or in neither, and a type with parts calls one field in both. All
of this stays so in every registry that may come of this one. -/
theorem exists_affixes_of_run_convert (h : (b.convert d term).run.run r = (.ok text, s)) :
    ∃ out back : Affix,
      (∀ x, (b.convert .toExternal x).run.run r = (.ok (out.before ++ x ++ out.after), s)) ∧
      (∀ x, (b.convert .toInternal x).run.run r = (.ok (back.before ++ x ++ back.after), s)) ∧
      (out = ⟨"", ""⟩ ↔ back = ⟨"", ""⟩) ∧
      (b.type.isStructured = true → b.isIdentity = false →
        ∃ field, s.converterField? b = some field ∧
          out = ⟨"((" ++ b.runtimeClass.term ++ ") " ++ field ++ ".toExternal(", "))"⟩ ∧
          back = ⟨"((" ++ b.type.internalClass.term ++ ") " ++ field ++ ".toInternal(", "))"⟩) ∧
      ∀ t, s.GrowsTo t → ∀ x,
        (b.convert .toExternal x).run.run t = (.ok (out.before ++ x ++ out.after), t) ∧
        (b.convert .toInternal x).run.run t = (.ok (back.before ++ x ++ back.after), t) := by
  obtain ⟨a, ha, -⟩ := run_convert_eq_ok.1 h
  have hsupported := isSupported_of_run_affix ha
  obtain rfl := (run_affix_eq_ok ha).1
  obtain ⟨out, hout⟩ := exists_run_affix hsupported .toExternal r
  obtain ⟨back, hback⟩ := exists_run_affix hsupported .toInternal r
  obtain ⟨-, houtBare, houtField⟩ := run_affix_eq_ok hout
  obtain ⟨-, hbackBare, hbackField⟩ := run_affix_eq_ok hback
  have hconvert : ∀ {d a u v}, (b.affix d).run.run u = (.ok a, v) → ∀ x,
      (b.convert d x).run.run u = (.ok (a.before ++ x ++ a.after), v) :=
    fun hrun x => run_convert_eq_ok.2 ⟨_, hrun, rfl⟩
  refine ⟨out, back, hconvert hout, hconvert hback, houtBare.trans hbackBare.symm, ?_, ?_⟩
  · intro hs hi
    have hn : b.needsField = true := by simp [needsField, hs, hi]
    obtain ⟨field, hf, rfl⟩ := houtField hn
    obtain ⟨field', hf', rfl⟩ := hbackField hn
    -- the type has one field only
    obtain rfl : field = field' := Option.some.inj (hf.symm.trans hf')
    exact ⟨field, hf, rfl, rfl⟩
  · intro t ht x
    exact ⟨hconvert (run_affix_of_growsTo hout ht) x, hconvert (run_affix_of_growsTo hback ht) x⟩

/-- A list of integers that is handed out is taken back through the same field. -/
theorem exists_affixes_of_run_convert_list :
    let list : BridgedType := ⟨.array (.simple .int true) true, .object "java.util.List"⟩
    ∃ s, (list.convert .toExternal "a$0").run.run {} =
        (.ok "((java.util.List) converter$0.toExternal(a$0))", s) ∧
      (∀ x, (list.convert .toInternal x).run.run s =
        (.ok ("((ArrayData) converter$0.toInternal(" ++ x ++ "))"), s)) ∧
      s.converters = [list] := by
  intro list
  have htext : ((list.convert .toExternal "a$0").run.run {}).1 =
      .ok "((java.util.List) converter$0.toExternal(a$0))" := by
    decide +kernel
  have hafter : ((list.convert .toExternal "a$0").run.run {}).2.converters = [list] := by
    decide +kernel
  have hfield : ((list.convert .toExternal "a$0").run.run {}).2.converterField? list =
      some "converter$0" := by
    decide +kernel
  rcases hrun : (list.convert .toExternal "a$0").run.run {} with ⟨out, s⟩
  rw [hrun] at htext hafter hfield
  obtain rfl := htext
  obtain ⟨out, back, -, -, -, hparts, hlater⟩ := exists_affixes_of_run_convert hrun
  obtain ⟨field, hf, rfl, rfl⟩ := hparts rfl (by decide +kernel)
  obtain rfl : "converter$0" = field := Option.some.inj (hfield.symm.trans hf)
  exact ⟨s, rfl, fun x => (hlater s .refl x).2, hafter⟩

end BridgedType

end ScalarCall

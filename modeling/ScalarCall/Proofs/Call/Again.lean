import ScalarCall.Proofs.Call.Invocation

/-!
Calls that are generated again. What a call needs in the registry is there after it and stays there,
so that the same call adds nothing but variables whenever it is generated later.
-/

namespace ScalarCall

open Registry

variable {r s t u m : Registry}

lemma Registry.GrowsTo.neverNull_notMem (h : r.GrowsTo s) : neverNull ∉ minted r s := by
  intro hmem
  obtain ⟨hint, n, -, -, he⟩ := h.exists_numbered hmem
  exact numbered_ne_neverNull hint n he.symm

/-! ### Arguments -/

namespace Converter

lemma run_argument_of_growsTo {e a : Expression} {c : RuntimeClass} {b : BridgedType}
    (h : (standard.argument e c b).run.run r = (.ok a, s)) (hst : s.GrowsTo t) :
    (standard.argument e c b).run.run t = (.ok a, t) := by
  cases hc : c.isPrimitive with
  | true =>
    rw [run_argument_of_primitive _ hc] at h ⊢
    cases h
    rfl
  | false =>
    rw [run_argument_of_object _ hc] at h ⊢
    split at h
    · cases h
    · next external n hrun =>
      cases h
      have hagain : (standard.toExternal (standard.target b e.type) (e.asMillis c).term).run.run t =
          (.ok external, t) := BridgedType.run_convert_of_growsTo hrun hst
      rw [hagain]
      dsimp only
      rw [hst.settings_eq]

/-- Arguments that were made are made in the same words, so that they call the same fields. -/
lemma run_arguments_of_growsTo {cv : Converter} {es args : List Expression}
    {cs : List RuntimeClass} {bs : List BridgedType} (hcv : cv = standard)
    (h : (cv.arguments es cs bs).run.run r = (.ok args, s)) (hst : s.GrowsTo t) :
    (cv.arguments es cs bs).run.run t = (.ok args, t) := by
  subst hcv
  obtain ⟨hc, hb, hlist⟩ := standard.run_arguments_eq_ok h
  rw [run_arguments_of_length _ hc hb]
  clear h hc hb
  fun_induction argumentList standard es cs bs generalizing r args with
  | case1 e es c cs b bs ih =>
    obtain ⟨a, m, ha, hrest⟩ := Generating.run_bind_eq_ok.1 hlist
    obtain ⟨rest, n, hrest, hlist⟩ := Generating.run_bind_eq_ok.1 hrest
    cases hlist
    have hms : m.GrowsTo s := (standard.orderly_argumentList es cs bs).growsTo hrest
    rw [Generating.run_bind_eq_ok]
    refine ⟨a, t, run_argument_of_growsTo ha (hms.trans hst), ?_⟩
    rw [Generating.run_bind_eq_ok]
    exact ⟨rest, t, ih hrest, rfl⟩
  | case2 es cs bs hno =>
    cases hlist
    rfl

end Converter

namespace CallGenerator

variable {g : CallGenerator} {operands args : List Expression} {returnType : SqlType}
  {types : List SqlType} {c : RuntimeClass} {folded : List (Option ExternalLiteral)}
  {b b' : CallBlock}

/-! ### The result -/

lemma withField_of_functionField? {field : String}
    (h : t.functionField? g.function.identifier = some field) : g.withField t = t := by
  have h : t.functionField? g.ref.identifier = some field := h
  rw [withField, run_functionField, h]

/-- A result that succeeded succeeds over any later registry, where it finds the fields that it
needs, so that it only adds variables. -/
lemma run_invoke_again (hg : g.converter = .standard)
    (h : (g.invoke args types returnType c folded).run.run m = (.ok b, s)) (hst : s.GrowsTo t) :
    ∃ b' u vs, (g.invoke args types returnType c folded).run.run t = (.ok b', u) ∧
      t.AddsLocals u vs ∧ b'.Declares t.settings.nullCheck c vs := by
  obtain ⟨-, field, a, hfield, -, hobject⟩ := invokes_of_run_invoke hg h
  have hfield := hst.functionField?_eq_some hfield
  cases hc : c.isPrimitive with
  | true =>
    rw [run_invoke_of_primitive hc]
    rcases hrun : (g.primitiveBlock args returnType c).run t with ⟨b', u⟩
    obtain ⟨vs, hvs, hb, -⟩ := declares_primitiveBlock hc hrun t.settings.nullCheck
    rw [withField_of_functionField? hfield] at hvs
    exact ⟨b', u, vs, rfl, hvs, hb⟩
  | false =>
    -- the object is converted under one more name, by the text that it was converted by before
    obtain ⟨n, hns, ha⟩ := hobject hc
    set k := t.withName (externalName t)
    have htk : t.GrowsTo k := .name _ .refl
    have ha := BridgedType.run_affix_of_growsTo ha ((hns.trans hst).trans htk)
    have hi : (g.converter.toInternal (g.resultType folded types returnType c)
        (externalName t)).run.run k = (.ok (a.around (externalName t)), k) := by
      rw [run_toInternal hg]
      exact BridgedType.run_convert_eq_ok.2 ⟨a, ha, rfl⟩
    rw [run_invoke_of_object hc, hi]
    rcases hrun : (g.objectBlock args returnType c (externalName t)
      (a.around (externalName t))).run k with ⟨b', u⟩
    obtain ⟨vs, hvs, hb, -⟩ := declares_objectBlock hc hrun
    rw [withField_of_functionField? (htk.functionField?_eq_some hfield)] at hvs
    refine ⟨b', u, vs, ?_, (t.addsLocals_withName _).trans hvs, hb⟩
    dsimp only
    rw [hrun]

/-- Two results one after the other are taken through the same field of the function and, if they
are objects, by the same text. -/
lemma invokes_again (hg : g.converter = .standard)
    (h : (g.invoke args types returnType c folded).run.run m = (.ok b, s)) (hst : s.GrowsTo t)
    (h' : (g.invoke args types returnType c folded).run.run t = (.ok b', u)) :
    b'.arguments = b.arguments ∧ ∃ field a, s.functionField? g.function.identifier = some field ∧
      b.Invokes field returnType c a ∧ b'.Invokes field returnType c a := by
  obtain ⟨hargs, field, a, hfield, hinvokes, hobject⟩ := invokes_of_run_invoke hg h
  obtain ⟨hargs', field', a', hfield', hinvokes', hobject'⟩ := invokes_of_run_invoke hg h'
  have htu : t.GrowsTo u := (g.orderly_invoke _ _ _ _ _).growsTo h'
  have hlasts := (hst.trans htu).functionField?_eq_some hfield
  obtain rfl : field' = field := Option.some.inj (hfield'.symm.trans hlasts)
  refine ⟨hargs'.trans hargs.symm, field', a, hfield, hinvokes, ?_⟩
  suffices a' = a from this ▸ hinvokes'
  cases hc : c.isPrimitive with
  | true => rw [hinvokes.eq_bare hc, hinvokes'.eq_bare hc]
  | false =>
    obtain ⟨n, hns, ha⟩ := hobject hc
    obtain ⟨n', -, ha'⟩ := hobject' hc
    have hnt : n.GrowsTo (t.withName (externalName t)) := (hns.trans hst).name _
    rw [BridgedType.run_affix_of_growsTo ha hnt] at ha'
    cases ha'
    rfl

/-! ### The whole call -/

/-- A call that succeeded succeeds over any later registry, and only adds variables to it. It passes
the same arguments through the same fields. -/
lemma run_block_again (hg : g.converter = .standard)
    (h : (g.block operands returnType).run.run r = (.ok b, s)) (hst : s.GrowsTo t) :
    ∃ sig b' u vs, g.signature (operands.map (·.type)) = .ok sig ∧
      (g.block operands returnType).run.run t = (.ok b', u) ∧ t.AddsLocals u vs ∧
      b'.Declares t.settings.nullCheck sig.result vs ∧ b'.arguments = b.arguments ∧
      ∃ field a, s.functionField? g.function.identifier = some field ∧
        b.Invokes field returnType sig.result a ∧ b'.Invokes field returnType sig.result a := by
  obtain ⟨sig, folded, args, m, hs, hf, ha, hinvoke⟩ := run_block_eq_ok h
  have hms : m.GrowsTo s := (g.orderly_invoke _ _ _ _ _).growsTo hinvoke
  have hagain := Converter.run_arguments_of_growsTo hg ha (hms.trans hst)
  obtain ⟨b', u, vs, hrun, hvs, hb'⟩ := run_invoke_again hg hinvoke hst
  refine ⟨sig, b', u, vs, hs, ?_, hvs, hb', invokes_again hg hinvoke hst hrun⟩
  rw [run_block_of_arguments hs hf hagain]
  exact hrun

/-- **A call that succeeded succeeds again**, whatever the registry was asked for in between, failed
requests included. All that the call adds then is local variables. Its value is in other variables
than before, and so is its null indicator, unless it has none. Both calls invoke one field of the
function with the same arguments, converted through the same fields, and both convert an object that
is returned by the same text, with the same field. -/
theorem generate_again {e : Expression} (hg : g.converter = .standard)
    (h : (g.generate operands returnType).run.run r = (.ok e, s)) (qs : List Request) :
    ∃ sig e' u vs, g.signature (operands.map (·.type)) = .ok sig ∧
      (g.generate operands returnType).run.run (s.after qs) = (.ok e', u) ∧
      (s.after qs).AddsLocals u vs ∧
      vs.length = (if sig.result.isPrimitive then 1 else if r.settings.nullCheck then 3 else 2) ∧
      e'.term ∉ [e.term, e.nullTerm] ∧
      (e'.nullTerm = neverNull ∨ e'.nullTerm ∉ [e.term, e.nullTerm]) ∧
      ∃ b b' field a, (g.block operands returnType).run.run r = (.ok b, s) ∧ e = b.expression ∧
        (g.block operands returnType).run.run (s.after qs) = (.ok b', u) ∧ e' = b'.expression ∧
        s.functionField? g.function.identifier = some field ∧ b'.arguments = b.arguments ∧
        b.Invokes field returnType sig.result a ∧ b'.Invokes field returnType sig.result a := by
  obtain ⟨b, hb, rfl⟩ := run_generate_eq_ok h
  have hrs : r.GrowsTo s := (g.orderly_block _ _).growsTo hb
  have hst : s.GrowsTo (s.after qs) := s.growsTo_after qs
  obtain ⟨sig, b', u, vs, hsig, hb', hvs, hdeclares, hargs, field, a, hfield, hinvokes, hinvokes'⟩ :=
    run_block_again hg hb hst
  have htu : (s.after qs).GrowsTo u := (g.orderly_block _ _).growsTo hb'
  have hfirst := assignsOwn_of_run_block hb
  have hsecond := assignsOwn_of_run_block hb'
  -- names of the second call are none of the first one's, and none of them is that of no indicator
  have hnew : ∀ x ∈ b'.assigned, x ∉ [b.result.term, b.result.nullTerm] := by
    intro x hx hmem
    have hx : x ∈ minted (s.after qs) u := hsecond.minted hx
    have hold : x ∉ minted r s := fun hrs' =>
      disjoint_minted hrs hst.prefix_names.length_le htu hrs' hx
    rcases List.mem_cons.1 hmem with rfl | hmem
    · exact hold (hfirst.minted hfirst.found.term)
    · obtain rfl := List.mem_singleton.1 hmem
      rcases hfirst.found.nullTerm with hnever | hnull
      · rw [hnever] at hx
        exact htu.neverNull_notMem hx
      · exact hold (hfirst.minted hnull)
  refine ⟨sig, b'.expression, u, vs, hsig, ?_, hvs, ?_, hnew _ hsecond.found.term, ?_,
    b, b', field, a, hb, rfl, hb', rfl, hfield, hargs, hinvokes, hinvokes'⟩
  · rw [run_generate, hb']
  · rw [hdeclares.length_eq, hst.settings_eq, hrs.settings_eq]
  · exact hsecond.found.nullTerm.imp_right (hnew _)

/-- A list of integers is passed and another one returned. In between the name of the result is
asked for, and a call with no operands fails. -/
theorem generate_again_list :
    let list : SqlType := .array (.simple .int true) true
    let f : Function :=
      { identifier := "f"
        className := "F"
        overloads := [⟨[.object "java.util.List"], .object "java.util.List", false⟩] }
    let g : CallGenerator := { function := f }
    let operands : List Expression := [{ code := "", term := "a", nullTerm := "n", type := list }]
    let between : List Request := [.name "result", .generate g [] list]
    ∃ e s e' u vs, (g.generate operands list).run.run {} = (.ok e, s) ∧
      s.converters = [⟨list, .object "java.util.List"⟩] ∧
      (g.generate operands list).run.run (s.after between) = (.ok e', u) ∧
      (s.after between).AddsLocals u vs ∧ vs.length = 3 ∧
      e.term = "result$4" ∧ e'.term ∉ ["result$4", "isNull$5"] ∧
      ∃ (b b' : CallBlock) (a : Affix), e = b.expression ∧ e' = b'.expression ∧
        b'.arguments = b.arguments ∧
        b.Invokes "function_f$2" list (.object "java.util.List") a ∧
        b'.Invokes "function_f$2" list (.object "java.util.List") a := by
  intro list f g operands between
  have hfirst : ((g.generate operands list).run.run {}).1.toOption.map
      (fun e => (e.term, e.nullTerm)) = some ("result$4", "isNull$5") := by
    decide +kernel
  have hconverters : ((g.generate operands list).run.run {}).2.converters =
      [⟨list, .object "java.util.List"⟩] := by
    decide +kernel
  have hfunction : ((g.generate operands list).run.run {}).2.functionField? "f" =
      some "function_f$2" := by
    decide +kernel
  rcases hrun : (g.generate operands list).run.run {} with ⟨out, s⟩
  rw [hrun] at hfirst hconverters hfunction
  cases out with
  | error => cases hfirst
  | ok e =>
    obtain ⟨hterm, hnull⟩ := Prod.mk.inj (Option.some.inj hfirst)
    obtain ⟨sig, e', u, vs, hsig, hagain, hvs, hlength, hnew, -, b, b', field, a, -, he, -, he',
      hfield, hargs, hinvokes, hinvokes'⟩ := generate_again (g := g) rfl hrun between
    have hresult : g.signature (operands.map (·.type)) =
        .ok ⟨[.object "java.util.List"], [⟨list, .object "java.util.List"⟩],
          .object "java.util.List"⟩ := by
      decide +kernel
    rw [hresult] at hsig
    obtain rfl := Except.ok.inj hsig
    obtain rfl : "function_f$2" = field := Option.some.inj (hfunction.symm.trans hfield)
    rw [hterm, hnull] at hnew
    exact ⟨e, s, e', u, vs, rfl, hconverters, hagain, hvs, hlength, hterm, hnew, b, b', a, he, he',
      hargs, hinvokes, hinvokes'⟩

end CallGenerator

end ScalarCall

import Mathlib.Data.List.Forall2
import ScalarCall.Proofs.Call.Growth
import ScalarCall.Proofs.Registry.Names

/-!
The lists of a registry stay aligned. Whatever it is asked for, there is one list of members, in
the order of their registration, from which all of its lists can be read off.
-/

namespace ScalarCall.Registry

def fieldOf? (r : Registry) : Member → Option String
  | .function f _ => r.functionField? f.identifier
  | .converter b _ => r.converterField? b

/-- The statement fills a member's field, from the place where the class is given what it holds. -/
inductive Fills (r : Registry) : Member → String → Prop
  | function {f : FunctionRef} {i : ℕ} (field : String) (h : r.references[i]? = some f) :
    Fills r (.function f field) ((Member.function f field).initialization "references" i)
  | converter {b : BridgedType} {i : ℕ} (field : String) (h : r.converters[i]? = some b) :
    Fills r (.converter b field) ((Member.converter b field).initialization "converters" i)

/-- The statements of the registry are about the fields of the members, which have names of their
own. -/
structure Described (r : Registry) (members : List Member) : Prop where
  named : ∀ m ∈ members, m.field ∈ r.names
  nodup_fields : (members.map Member.field).Nodup
  declarations : members.map Member.declaration = r.declarations
  openings : members.map Member.opening = r.openings
  closings : members.filterMap Member.closing? = r.closings

/-- The lists of the registry are those of the members. -/
structure Aligned (r : Registry) (members : List Member) : Prop extends Described r members where
  references : members.filterMap Member.function? = r.references
  converters : members.filterMap Member.converter? = r.converters
  nodup_identifiers : (r.references.map FunctionRef.identifier).Nodup
  nodup_converters : r.converters.Nodup
  functionKeys : r.functionFields.map Prod.fst = r.references.map FunctionRef.identifier
  converterKeys : r.converterFields.map Prod.fst = r.converters
  found : ∀ m ∈ members, r.fieldOf? m = some m.field
  initializations : List.Forall₂ r.Fills members r.initializations

variable {r s : Registry} {members : List Member}

lemma Fills.mono {m : Member} {text : String} (h : r.Fills m text)
    (hf : r.references <+: s.references) (hc : r.converters <+: s.converters) :
    s.Fills m text := by
  obtain ⟨fs, hfs⟩ := hf
  obtain ⟨bs, hbs⟩ := hc
  cases h with
  | function field h =>
    refine .function field ?_
    rw [← hfs, List.getElem?_append_left (List.getElem?_eq_some_iff.1 h).1, h]
  | converter field h =>
    refine .converter field ?_
    rw [← hbs, List.getElem?_append_left (List.getElem?_eq_some_iff.1 h).1, h]

lemma lookup_eq_none_iff_notMem {α β : Type} [DecidableEq α] {l : List (α × β)} {k : α} :
    l.lookup k = none ↔ k ∉ l.map Prod.fst := by
  rw [List.lookup_eq_none_iff, List.mem_map]
  constructor
  · rintro h ⟨p, hp, rfl⟩
    exact absurd (h p hp) (by simp)
  · intro h p hp
    exact bne_iff_ne.2 fun he => h ⟨p, hp, he.symm⟩

lemma lookup_concat {α β : Type} [DecidableEq α] {l : List (α × β)} {k : α} (v : β)
    (h : l.lookup k = none) : (l ++ [(k, v)]).lookup k = some v := by
  simp [List.lookup_append, h]

lemma lookup_append_of_some {α β : Type} [DecidableEq α] {l : List (α × β)} {k : α} {v : β}
    (more : List (α × β)) (h : l.lookup k = some v) : (l ++ more).lookup k = some v := by
  simp [List.lookup_append, h]

/-! ### Steps -/

lemma Described.withName (h : r.Described members) (x : String) :
    (r.withName x).Described members :=
  { h with named := fun m hm => List.mem_append_left _ (h.named m hm) }

lemma Described.withStatements {m : Member} (h : r.Described members) (hn : m.field ∈ r.names)
    (hf : m.field ∉ members.map Member.field) (array : String) (index : ℕ) :
    (r.withStatements m array index).Described (members ++ [m]) where
  named := List.forall_mem_append.2 ⟨h.named, List.forall_mem_singleton.2 hn⟩
  nodup_fields := by
    have := List.Nodup.concat hf h.nodup_fields
    simpa using this
  declarations := by simp [h.declarations, Registry.withStatements]
  openings := by simp [h.openings, Registry.withStatements]
  closings := by
    rw [List.filterMap_append, h.closings]
    cases m <;> rfl

namespace Aligned

lemma withName (h : r.Aligned members) (x : String) : (r.withName x).Aligned members := by
  refine { h with named := (h.toDescribed.withName x).named, initializations := ?_ }
  exact h.initializations.imp fun _ _ k => k.mono (List.prefix_refl _) (List.prefix_refl _)

lemma withLocal (h : r.Aligned members) (v : LocalVariable) : (r.withLocal v).Aligned members := by
  refine { h with initializations := ?_ }
  exact h.initializations.imp fun _ _ k => k.mono (List.prefix_refl _) (List.prefix_refl _)

lemma withFunction {f : FunctionRef} {field : String} (h : r.Aligned members)
    (new : r.functionField? f.identifier = none) (hn : field ∈ r.names)
    (hf : field ∉ members.map Member.field) :
    (r.withFunction f field).Aligned (members ++ [.function f field]) where
  toDescribed :=
    { h.toDescribed.withStatements (m := .function f field) hn hf "references"
        r.references.length with }
  references := by simp [h.references, Member.function?, Registry.withFunction]
  converters := by
    simp [h.converters, Member.converter?, Registry.withFunction, Registry.withStatements]
  nodup_identifiers := by
    have hi : f.identifier ∉ r.references.map FunctionRef.identifier := by
      rw [← h.functionKeys]
      exact lookup_eq_none_iff_notMem.1 new
    have := List.Nodup.concat hi h.nodup_identifiers
    simpa [Registry.withFunction] using this
  nodup_converters := h.nodup_converters
  functionKeys := by simp [Registry.withFunction, h.functionKeys]
  converterKeys := h.converterKeys
  found := by
    refine List.forall_mem_append.2 ⟨fun m hm => ?_, List.forall_mem_singleton.2 ?_⟩
    · have hm := h.found m hm
      cases m with
      | function g x => exact lookup_append_of_some _ hm
      | converter b x => exact hm
    · exact lookup_concat field new
  initializations := by
    -- places in a list stay what they are when the list grows at its end
    refine List.rel_append (h.initializations.imp fun _ _ k => ?_) (.cons ?_ .nil)
    · exact k.mono (List.prefix_append _ _) (List.prefix_refl _)
    · exact .function field (by simp [Registry.withFunction])

lemma withConverter {b : BridgedType} {field : String} (h : r.Aligned members)
    (new : r.converterField? b = none) (hn : field ∈ r.names)
    (hf : field ∉ members.map Member.field) :
    (r.withConverter b field).Aligned (members ++ [.converter b field]) where
  toDescribed :=
    { h.toDescribed.withStatements (m := .converter b field) hn hf "converters"
        r.converters.length with }
  references := by
    simp [h.references, Member.function?, Registry.withConverter, Registry.withStatements]
  converters := by simp [h.converters, Member.converter?, Registry.withConverter]
  nodup_identifiers := h.nodup_identifiers
  nodup_converters := by
    have hb : b ∉ r.converters := by
      rw [← h.converterKeys]
      exact lookup_eq_none_iff_notMem.1 new
    have := List.Nodup.concat hb h.nodup_converters
    simpa [Registry.withConverter] using this
  functionKeys := h.functionKeys
  converterKeys := by simp [Registry.withConverter, h.converterKeys]
  found := by
    refine List.forall_mem_append.2 ⟨fun m hm => ?_, List.forall_mem_singleton.2 ?_⟩
    · have hm := h.found m hm
      cases m with
      | function g x => exact hm
      | converter c x => exact lookup_append_of_some _ hm
    · exact lookup_concat field new
  initializations := by
    refine List.rel_append (h.initializations.imp fun _ _ k => ?_) (.cons ?_ .nil)
    · exact k.mono (List.prefix_refl _) (List.prefix_append _ _)
    · exact .converter field (by simp [Registry.withConverter])

end Aligned

/-! ### Runs -/

lemma aligned_nil (settings : Settings) : Aligned { settings } [] := by
  refine ⟨⟨?_, ?_, rfl, rfl, rfl⟩, rfl, rfl, ?_, ?_, rfl, rfl, ?_, .nil⟩ <;> simp

lemma Aligned.nextName_notMem {settings : Settings} (h : s.Aligned members)
    (hs : GrowsTo { settings } s) (hint : String) :
    s.nextName hint ∉ members.map Member.field := by
  intro hmem
  obtain ⟨m, hm, he⟩ := List.mem_map.1 hmem
  have hn := h.named m hm
  rw [he] at hn
  exact hs.nextName_notMem hint hn

theorem GrowsTo.aligned {settings : Settings} (h : GrowsTo { settings } s) :
    ∃ members, s.Aligned members := by
  induction h with
  | refl => exact ⟨[], aligned_nil settings⟩
  | name hint _ ih =>
    obtain ⟨members, ha⟩ := ih
    exact ⟨members, ha.withName _⟩
  | localVariable typeTerm hint _ ih =>
    obtain ⟨members, ha⟩ := ih
    exact ⟨members, (ha.withName _).withLocal _⟩
  | function f h new ih =>
    obtain ⟨members, ha⟩ := ih
    exact ⟨_, (ha.withName _).withFunction new (by simp) (ha.nextName_notMem h _)⟩
  | converter b h new ih =>
    obtain ⟨members, ha⟩ := ih
    exact ⟨_, (ha.withName _).withConverter new (by simp) (ha.nextName_notMem h _)⟩

end ScalarCall.Registry

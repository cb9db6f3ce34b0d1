import ScalarCall.Proofs.Call.Block
import ScalarCall.Proofs.Call.Growth
import ScalarCall.Proofs.Registry.Names

/-!
The variables that a call assigns. All of them got their names during the call, and the value of the
call is found in them.
-/

namespace ScalarCall

open Registry

def targets (statements : List Statement) : List String := statements.map Statement.target

def CallBlock.assigned (b : CallBlock) : List String :=
  targets (b.assignment ++ b.result.statements)

/-- The value is in one of the given variables, and so is its null indicator if it has one. -/
structure Computation.FoundIn (c : Computation) (xs : List String) : Prop where
  term : c.term ∈ xs
  nullTerm : c.nullTerm = neverNull ∨ c.nullTerm ∈ xs

/-- What a block assigns was named between the two registries, and its value is among it. -/
structure CallBlock.AssignsOwn (b : CallBlock) (r s : Registry) : Prop where
  minted : b.assigned ⊆ minted r s
  found : b.result.FoundIn b.assigned

variable {r s m : Registry}

/-- No name says that a value is never null. -/
lemma Registry.numbered_ne_neverNull (hint : String) (n : ℕ) : numbered hint n ≠ neverNull := by
  intro he
  have hseparator : '$' ∈ (numbered hint n).toList := by simp [numbered]
  rw [he] at hseparator
  simp [neverNull] at hseparator

lemma Computation.FoundIn.mono {c : Computation} {xs ys : List String} (h : c.FoundIn xs)
    (hs : xs ⊆ ys) : c.FoundIn ys :=
  ⟨hs h.term, h.nullTerm.imp_right (@hs _)⟩

lemma CallBlock.AssignsOwn.mono {b : CallBlock} (h : b.AssignsOwn m s)
    (hr : r.names <+: m.names) : b.AssignsOwn r s :=
  ⟨List.Subset.trans h.minted (minted_subset_left hr), h.found⟩

/-! ### Values -/

lemma Computation.targets_unbox {t : SqlType} {input : String} {c : Computation}
    (h : (unbox t input).run r = (c, s)) :
    targets c.statements ⊆ minted r s ∧ c.FoundIn (targets c.statements) := by
  rw [run_unbox] at h
  dsimp only at h
  split at h
  · cases h
    refine ⟨?_, ?_, .inr ?_⟩ <;> simp [targets, Statement.target, minted]
  · cases h
    refine ⟨?_, ?_, .inl rfl⟩ <;> simp [targets, Statement.target, minted]

/-! ### Calls -/

namespace CallGenerator

variable {g : CallGenerator} {args operands : List Expression} {returnType : SqlType}
  {c : RuntimeClass} {external internal : String} {b : CallBlock}

lemma growsTo_withField (g : CallGenerator) (r : Registry) : r.GrowsTo (g.withField r) :=
  Registering.orderly_functionField g.ref r

lemma assignsOwn_primitiveBlock (h : (g.primitiveBlock args returnType c).run r = (b, s)) :
    b.AssignsOwn r s := by
  rw [run_primitiveBlock] at h
  cases h
  refine CallBlock.AssignsOwn.mono (m := g.withField r) ?_ (g.growsTo_withField r).prefix_names
  refine ⟨?_, ?_, .inl rfl⟩ <;>
    simp [CallBlock.assigned, targets, Statement.target, minted, Computation.present]

lemma assignsOwn_objectBlock (hm : r.GrowsTo m) (he : external ∈ minted r m)
    (h : (g.objectBlock args returnType c external internal).run m = (b, s)) :
    b.AssignsOwn r s := by
  have hms : m.GrowsTo s := (g.orderly_objectBlock _ _ _ _ _).growsTo h
  rw [run_objectBlock] at h
  dsimp only at h
  set f := g.withField m
  set kept := f.nextName f.settings.resultHint
  set k := (f.withName kept).withLocal ⟨returnType.boxedTerm, kept⟩
  rcases hu : (Computation.unbox returnType kept).run k with ⟨value, t⟩
  rw [hu] at h
  cases h
  obtain ⟨hvalue, hfound⟩ := Computation.targets_unbox hu
  have hrf : r.GrowsTo f := hm.trans (g.growsTo_withField m)
  have hrk : r.GrowsTo k := hrf.localVariable returnType.boxedTerm _
  have hkept : kept ∈ minted r k := by
    refine minted_subset_left hrf.prefix_names ?_
    simp [k, minted]
  have hks : k.GrowsTo t := (Computation.orderly_unbox _ _).growsTo hu
  constructor
  · intro x hx
    simp only [CallBlock.assigned, targets, List.cons_append, List.nil_append, List.map_cons,
      Statement.target, List.mem_cons] at hx
    -- the object as it was returned, the object as it is kept, and what unboxing assigns
    rcases hx with rfl | rfl | hx
    · exact minted_subset_right hms.prefix_names he
    · exact minted_subset_right hks.prefix_names hkept
    · exact minted_subset_left hrk.prefix_names (hvalue hx)
  · refine hfound.mono fun x hx => ?_
    exact List.mem_cons_of_mem _ (List.mem_cons_of_mem _ hx)

/-- **The variables that a call assigns got their names during it.** -/
theorem assignsOwn_of_run_block (h : (g.block operands returnType).run.run r = (.ok b, s)) :
    b.AssignsOwn r s := by
  obtain ⟨sig, folded, args, m, -, -, ha, h⟩ := run_block_eq_ok h
  have hm : r.GrowsTo m := (g.converter.orderly_arguments _ _ _).growsTo ha
  refine CallBlock.AssignsOwn.mono ?_ hm.prefix_names
  obtain ⟨-, h⟩ | ⟨-, internal, n, hi, h⟩ := run_invoke_eq_ok h
  · exact assignsOwn_primitiveBlock h
  · have hn : (m.withName (externalName m)).GrowsTo n :=
      (g.converter.orderly_toInternal _ _).growsTo hi
    have he : externalName m ∈ minted m (m.withName (externalName m)) := by simp [minted]
    have hgrows : m.GrowsTo n := (GrowsTo.name m.settings.externalResultHint .refl).trans hn
    exact assignsOwn_objectBlock hgrows (minted_subset_right hn.prefix_names he) h

end CallGenerator

end ScalarCall

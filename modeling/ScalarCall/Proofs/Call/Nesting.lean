import ScalarCall.Proofs.Call.Assigned
import ScalarCall.Proofs.Call.Trace
import ScalarCall.Proofs.Text.Fragment

/-!
Nested calls. The code of a call is that of everything within it, in the order of execution, and no
two calls get in each other's way.
-/

namespace ScalarCall

open Registry

variable {r s m : Registry}

/-- Induction along the generation of a tree. -/
lemma CallTree.Leaves.induction {P : Registry → CallTrace → Registry → Prop}
    {Q : Registry → List CallTrace → Registry → Prop} {t : CallTree} {x : CallTrace}
    (h : t.Leaves r x s) (operand : ∀ e r, P r (.operand e) r)
    (call : ∀ r xs (c : CallRun), c.operands = xs.map CallTrace.expression → Q r xs c.before →
      P r (.call c xs) c.after)
    (nil : ∀ r, Q r [] r)
    (cons : ∀ r m s x xs, P r x m → Q m xs s → Q r (x :: xs) s) : P r x s :=
  CallTree.Leaves.rec (motive_1 := fun _ r x s _ => P r x s)
    (motive_2 := fun _ r xs s _ => Q r xs s) operand (fun c _ ho hq => call _ _ c ho hq) nil
    (fun _ _ hp hq => cons _ _ _ _ _ hp hq) h

/-! ### Code -/

lemma CallRun.code_eq (c : CallRun) :
    c.block.expression.code = Text.joinFragments (c.operands.map (·.code) ++
      [codeOf c.block.assignment, codeOf c.block.result.statements]) := by
  rw [← CallGenerator.codes_of_run_block c.run]
  rfl

lemma CallTrace.postorderAll_eq (xs : List CallTrace) :
    CallTrace.postorderAll xs = xs.flatMap CallTrace.postorder := by
  induction xs with
  | nil => rfl
  | cons x xs ih => rw [CallTrace.postorderAll, ih, List.flatMap_cons]

/-- The code of a trace within another counts as what it was joined of. -/
lemma CallTree.Leaves.trim_code {t : CallTree} {x : CallTrace} (h : t.Leaves r x s) :
    Text.trim x.expression.code = Text.joinFragments (x.postorder.flatMap CallTrace.own) := by
  refine h.induction
    (P := fun _ x _ =>
      Text.trim x.expression.code = Text.joinFragments (x.postorder.flatMap CallTrace.own))
    (Q := fun _ xs _ => ∀ x ∈ xs,
      Text.trim x.expression.code = Text.joinFragments (x.postorder.flatMap CallTrace.own))
    ?_ ?_ ?_ ?_
  · intro e r
    exact (Text.joinFragments_singleton e.code).symm
  · intro r xs c ho hxs
    have hjoin := Text.joinFragments_map_append hxs
      [codeOf c.block.assignment, codeOf c.block.result.statements]
    show Text.trim c.block.expression.code = _
    rw [c.code_eq, Text.trim_of_isTrimmed (Text.isTrimmed_joinFragments _), ho, List.map_map]
    refine Eq.trans hjoin ?_
    rw [CallTrace.postorder, CallTrace.postorderAll_eq, List.flatMap_append, List.flatMap_assoc]
    rfl
  · intro r x hx
    exact absurd hx List.not_mem_nil
  · intro r m s x xs hx hxs
    exact List.forall_mem_cons.2 ⟨hx, hxs⟩

/-! ### Order -/

/-- The calls were generated one after the other, between the two registries. -/
inductive Chronological : Registry → List CallRun → Registry → Prop
  | nil {r s : Registry} (h : r.GrowsTo s) : Chronological r [] s
  | cons {r s : Registry} {c : CallRun} {cs : List CallRun} (h : r.GrowsTo c.before)
      (hs : Chronological c.after cs s) : Chronological r (c :: cs) s

lemma CallRun.grows (c : CallRun) : c.before.GrowsTo c.after :=
  (c.generator.orderly_block _ _).growsTo c.run

lemma CallRun.assignsOwn (c : CallRun) : c.block.AssignsOwn c.before c.after :=
  CallGenerator.assignsOwn_of_run_block c.run

namespace Chronological

variable {cs ds : List CallRun}

lemma append (h : Chronological r cs m) (hs : Chronological m ds s) :
    Chronological r (cs ++ ds) s := by
  induction h with
  | nil h =>
    cases hs with
    | nil h' => exact .nil (h.trans h')
    | cons h' hs => exact .cons (h.trans h') hs
  | cons h _ ih => exact .cons h (ih hs)

lemma grows (h : Chronological r cs s) : r.GrowsTo s := by
  induction h with
  | nil h => exact h
  | @cons r s c cs h _ ih => exact (h.trans c.grows).trans ih

lemma assigned_subset (h : Chronological r cs s) :
    ∀ c ∈ cs, c.block.assigned ⊆ minted r s := by
  induction h with
  | nil => exact fun c hc => absurd hc List.not_mem_nil
  | @cons r s c cs h hs ih =>
    intro d hd
    rcases List.mem_cons.1 hd with rfl | hd
    · have hown := d.assignsOwn.mono h.prefix_names
      exact List.Subset.trans hown.minted (minted_subset_right hs.grows.prefix_names)
    · exact List.Subset.trans (ih d hd) (minted_subset_left (h.trans c.grows).prefix_names)

lemma pairwise_disjoint (h : Chronological r cs s) :
    cs.Pairwise fun c d => c.block.assigned.Disjoint d.block.assigned := by
  induction h with
  | nil => exact .nil
  | @cons r s c cs h hs ih =>
    refine .cons (fun d hd x hc hx => ?_) ih
    have hc : x ∈ minted c.before c.after := c.assignsOwn.minted hc
    have hx : x ∈ minted c.after s := hs.assigned_subset d hd hx
    -- the later calls were generated over the registry that this one left
    exact disjoint_minted c.grows (Nat.le_refl _) hs.grows hc hx

end Chronological

theorem CallTree.Leaves.chronological {t : CallTree} {x : CallTrace} (h : t.Leaves r x s) :
    Chronological r x.calls s := by
  refine h.induction (P := fun r x s => Chronological r x.calls s)
    (Q := fun r xs s =>
      Chronological r ((CallTrace.postorderAll xs).filterMap CallTrace.run?) s) ?_ ?_ ?_ ?_
  · intro e r
    exact .nil .refl
  · intro r xs c ho hxs
    rw [CallTrace.calls, CallTrace.postorder, List.filterMap_append]
    exact hxs.append (.cons .refl (.nil .refl))
  · intro r
    exact .nil .refl
  · intro r m s x xs hx hxs
    rw [CallTrace.postorderAll, List.filterMap_append]
    exact hx.append hxs

/-- What a trace uses is among what was seen before it. -/
def CallTrace.ConsumesFrom (seen : List CallTrace) : CallTrace → Prop
  | operand _ => True
  | call c xs => c.operands = xs.map CallTrace.expression ∧ xs ⊆ seen

/-- Each trace uses only those before it, and those seen before all of them. -/
def OperandsFirst (seen : List CallTrace) : List CallTrace → Prop
  | [] => True
  | y :: ys => y.ConsumesFrom seen ∧ OperandsFirst (seen ++ [y]) ys

lemma operandsFirst_append {seen ys zs : List CallTrace} :
    OperandsFirst seen (ys ++ zs) ↔ OperandsFirst seen ys ∧ OperandsFirst (seen ++ ys) zs := by
  induction ys generalizing seen with
  | nil => simp [OperandsFirst]
  | cons y ys ih =>
    rw [List.cons_append, OperandsFirst, OperandsFirst, ih, List.append_assoc, and_assoc]
    rfl

lemma CallTrace.self_mem_postorder (x : CallTrace) : x ∈ x.postorder := by
  cases x <;> simp [postorder]

lemma CallTrace.subset_postorderAll (xs : List CallTrace) : xs ⊆ postorderAll xs := by
  intro x hx
  rw [postorderAll_eq, List.mem_flatMap]
  exact ⟨x, hx, x.self_mem_postorder⟩

theorem CallTree.Leaves.operandsFirst {t : CallTree} {x : CallTrace} (h : t.Leaves r x s) :
    ∀ seen, OperandsFirst seen x.postorder := by
  refine h.induction (P := fun _ x _ => ∀ seen, OperandsFirst seen x.postorder)
    (Q := fun _ xs _ => ∀ seen, OperandsFirst seen (CallTrace.postorderAll xs)) ?_ ?_ ?_ ?_
  · intro e r seen
    exact ⟨trivial, trivial⟩
  · intro r xs c ho hxs seen
    rw [CallTrace.postorder, operandsFirst_append]
    refine ⟨hxs seen, ⟨ho, ?_⟩, trivial⟩
    exact fun x hx => List.mem_append_right _ (CallTrace.subset_postorderAll xs hx)
  · intro r seen
    trivial
  · intro r m s x xs hx hxs seen
    rw [CallTrace.postorderAll, operandsFirst_append]
    exact ⟨hx seen, hxs _⟩

/-! ### Composition -/

/-- The calls of a trace fit together. Each assigns variables that were named during it, so that no
two assign the same one; and what a call uses of a call within it was assigned before. -/
structure CallTrace.Composes (x : CallTrace) : Prop where
  minted : ∀ c ∈ x.calls, c.block.assigned ⊆ minted c.before c.after
  disjoint : x.calls.Pairwise fun c d => c.block.assigned.Disjoint d.block.assigned
  consumed : ∀ earlier c xs later, x.postorder = earlier ++ .call c xs :: later →
    c.operands = xs.map CallTrace.expression ∧
    ∀ d ys, .call d ys ∈ xs → .call d ys ∈ earlier ∧
      d.block.expression.term ∈ d.block.assigned ∧
      (d.block.expression.nullTerm = neverNull ∨
        d.block.expression.nullTerm ∈ d.block.assigned)

theorem CallTree.Leaves.composes {t : CallTree} {x : CallTrace} (h : t.Leaves r x s) :
    x.Composes where
  minted c _ := c.assignsOwn.minted
  disjoint := h.chronological.pairwise_disjoint
  consumed := by
    intro earlier c xs later hx
    have hfirst := h.operandsFirst []
    rw [hx, operandsFirst_append] at hfirst
    obtain ⟨-, ⟨ho, hxs⟩, -⟩ := hfirst
    refine ⟨ho, fun d ys hd => ⟨hxs hd, ?_, ?_⟩⟩
    · exact d.assignsOwn.found.term
    · exact d.assignsOwn.found.nullTerm

/-- **Nested calls compose.** The code of a call is that of all operands and calls within it, each
after what it uses, and the calls fit together. -/
theorem CallTree.nested_calls {g : CallGenerator} {ts : List CallTree} {returnType : SqlType}
    {e : Expression} (h : (call g ts returnType).generate.run.run r = (.ok e, s)) :
    ∃ x : CallTrace, (call g ts returnType).Leaves r x s ∧ x.expression = e ∧
      e.code = Text.joinFragments (x.postorder.flatMap CallTrace.own) ∧ x.Composes := by
  obtain ⟨x, hx, rfl⟩ := exists_leaves _ h
  refine ⟨x, hx, rfl, ?_, hx.composes⟩
  cases hx with
  | @call _ _ xs c hxs ho =>
    have htrim := (CallTree.Leaves.call c hxs ho).trim_code
    have hcode : Text.trim c.block.expression.code = c.block.expression.code := by
      rw [c.code_eq]
      exact Text.trim_of_isTrimmed (Text.isTrimmed_joinFragments _)
    exact hcode.symm.trans htrim

/-- One call within another, on an operand that has code of its own. -/
theorem CallTree.nested_calls_twice :
    let inc : CallGenerator :=
      { function :=
          { identifier := "inc"
            className := "Inc"
            overloads := [⟨[.primitive .int], .primitive .int, false⟩] } }
    let t : SqlType := .simple .int false
    let a : Expression := { code := "a = f();", term := "a", nullTerm := "false", type := t }
    let code := Registry.lines
      ["a = f();", "result$1 = function_inc$0.eval(a);", "result$2 = function_inc$0.eval(result$1);"]
    ∃ s x, (call inc [.call inc [.operand a] t] t).Leaves {} x s ∧ x.Composes ∧
      Text.joinFragments (x.postorder.flatMap CallTrace.own) = code := by
  intro inc t a code
  have hrun : ((call inc [.call inc [.operand a] t] t).generate.run.run {}).1 =
      .ok { code, term := "result$2", nullTerm := "false", type := t } := by
    decide +kernel
  rcases hs : (call inc [.call inc [.operand a] t] t).generate.run.run {} with ⟨out, s⟩
  rw [hs] at hrun
  obtain rfl := hrun
  obtain ⟨x, hx, -, hcode, hc⟩ := nested_calls hs
  exact ⟨s, x, hx, hc, hcode.symm⟩

end ScalarCall

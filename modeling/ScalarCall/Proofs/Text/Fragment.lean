import ScalarCall.Proofs.Text.Trim
import ScalarCall.Text.Fragment

/-!
Joined fragments. A joined text is trimmed, and it makes no difference whether fragments are joined
all at once or some of them before the others. Nothing visible is lost.
-/

namespace ScalarCall.Text

lemma fragments_append (xs ys : List String) :
    fragments (xs ++ ys) = fragments xs ++ fragments ys := by
  simp [fragments]

lemma fragments_of_trim_eq_empty {x : String} (h : trim x = "") : fragments [x] = [] := by
  simp [fragments, h]

lemma fragments_of_trim_ne_empty {x : String} (h : trim x ≠ "") : fragments [x] = [trim x] := by
  simp [fragments, h]

lemma of_mem_fragments {x : String} {parts : List String} (h : x ∈ fragments parts) :
    IsTrimmed x.toList ∧ x ≠ "" := by
  obtain ⟨hx, hne⟩ := List.mem_filter.1 h
  obtain ⟨y, -, rfl⟩ := List.mem_map.1 hx
  exact ⟨isTrimmed_trim y, bne_iff_ne.1 hne⟩

lemma fragments_singleton_of_isTrimmed {x : String} (h : IsTrimmed x.toList) (hx : x ≠ "") :
    fragments [x] = [x] := by
  have htrim := trim_of_isTrimmed h
  rw [fragments_of_trim_ne_empty (htrim.symm ▸ hx), htrim]

lemma intercalate_ne_empty {separator : String} {l : List String} (hl : l ≠ [])
    (h : ∀ x ∈ l, x ≠ "") : separator.intercalate l ≠ "" := by
  rcases l with _ | ⟨x, l⟩
  · exact absurd rfl hl
  · intro he
    have hx : x ≠ "" := h x List.mem_cons_self
    by_cases hl : l = []
    · subst hl
      rw [String.intercalate_singleton] at he
      exact hx he
    · rw [String.intercalate_cons_of_ne_nil hl] at he
      simp only [String.append_eq_empty_iff] at he
      exact hx he.1.1

lemma isTrimmed_intercalate {separator : String} {l : List String}
    (h : ∀ x ∈ l, IsTrimmed x.toList ∧ x ≠ "") : IsTrimmed (separator.intercalate l).toList := by
  induction l with
  | nil => exact isTrimmed_nil
  | cons x l ih =>
    obtain ⟨hx, hne⟩ := h x List.mem_cons_self
    have hl : ∀ y ∈ l, IsTrimmed y.toList ∧ y ≠ "" := fun y hy => h y (List.mem_cons_of_mem x hy)
    by_cases hnil : l = []
    · subst hnil
      rw [String.intercalate_singleton]
      exact hx
    · have hrest : separator.intercalate l ≠ "" :=
        intercalate_ne_empty hnil fun y hy => (hl y hy).2
      rw [String.intercalate_cons_of_ne_nil hnil, String.toList_append, String.toList_append]
      exact hx.append (ih hl) (mt String.toList_eq_nil_iff.1 hne)
        (mt String.toList_eq_nil_iff.1 hrest) _

theorem isTrimmed_joinFragments (parts : List String) : IsTrimmed (joinFragments parts).toList :=
  isTrimmed_intercalate fun _ h => of_mem_fragments h

lemma joinFragments_of_fragments_eq_nil {parts : List String} (h : fragments parts = []) :
    joinFragments parts = "" := by
  rw [joinFragments, h, String.intercalate_nil]

/-- A joined text is kept as one fragment, unless nothing was kept in it. -/
lemma fragments_joinFragments (parts : List String) :
    fragments [joinFragments parts] =
      if fragments parts = [] then [] else [joinFragments parts] := by
  split
  · next h =>
    rw [joinFragments_of_fragments_eq_nil h]
    rfl
  · next h =>
    refine fragments_singleton_of_isTrimmed (isTrimmed_joinFragments parts) ?_
    exact intercalate_ne_empty h fun x hx => (of_mem_fragments hx).2

@[simp] lemma joinFragments_singleton (x : String) : joinFragments [x] = trim x := by
  by_cases hx : trim x = ""
  · rw [hx]
    exact joinFragments_of_fragments_eq_nil (fragments_of_trim_eq_empty hx)
  · rw [joinFragments, fragments_of_trim_ne_empty hx, String.intercalate_singleton]

lemma joinFragments_concat_empty (xs : List String) :
    joinFragments (xs ++ [""]) = joinFragments xs := by
  have hf : fragments [""] = [] := by decide +kernel
  rw [joinFragments, fragments_append, hf, List.append_nil, joinFragments]

/-- Two lists of fragments may be joined before they are joined to each other. -/
theorem joinFragments_append (xs ys : List String) :
    joinFragments (xs ++ ys) = joinFragments [joinFragments xs, joinFragments ys] := by
  show "\n".intercalate (fragments (xs ++ ys))
    = "\n".intercalate (fragments ([joinFragments xs] ++ [joinFragments ys]))
  rw [fragments_append, fragments_append, fragments_joinFragments, fragments_joinFragments]
  by_cases hx : fragments xs = []
  · by_cases hy : fragments ys = []
    · rw [if_pos hx, if_pos hy, hx, hy]
    · rw [if_pos hx, if_neg hy, hx, List.nil_append, List.nil_append,
        String.intercalate_singleton, joinFragments]
  · by_cases hy : fragments ys = []
    · rw [if_neg hx, if_pos hy, hy, List.append_nil, List.append_nil,
        String.intercalate_singleton, joinFragments]
    · rw [if_neg hx, if_neg hy, String.intercalate_append_of_ne_nil hx hy,
        String.intercalate_append_of_ne_nil (List.cons_ne_nil _ _) (List.cons_ne_nil _ _),
        String.intercalate_singleton, String.intercalate_singleton, joinFragments, joinFragments]

/-- Joined texts stand for the fragments they were joined of. -/
theorem joinFragments_map_append {α : Type} {f : α → String} {g : α → List String} {xs : List α}
    (h : ∀ x ∈ xs, trim (f x) = joinFragments (g x)) (ys : List String) :
    joinFragments (xs.map f ++ ys) = joinFragments (xs.flatMap g ++ ys) := by
  induction xs with
  | nil => rfl
  | cons x xs ih =>
    have hx : joinFragments [f x] = joinFragments (g x) := by
      rw [joinFragments_singleton]
      exact h x List.mem_cons_self
    have ih := ih fun y hy => h y (List.mem_cons_of_mem x hy)
    calc joinFragments ((x :: xs).map f ++ ys)
        = joinFragments ([f x] ++ (xs.map f ++ ys)) := rfl
      _ = joinFragments [joinFragments [f x], joinFragments (xs.map f ++ ys)] :=
          joinFragments_append _ _
      _ = joinFragments [joinFragments (g x), joinFragments (xs.flatMap g ++ ys)] := by
          rw [hx, ih]
      _ = joinFragments (g x ++ (xs.flatMap g ++ ys)) := (joinFragments_append _ _).symm
      _ = joinFragments ((x :: xs).flatMap g ++ ys) := by
          rw [List.flatMap_cons, List.append_assoc]

/-! ### What is in a joined text -/

lemma visible_intercalate (lines : List String) :
    visible ("\n".intercalate lines).toList = lines.flatMap fun x => visible x.toList := by
  induction lines with
  | nil => rfl
  | cons x lines ih =>
    by_cases hnil : lines = []
    · subst hnil
      rw [String.intercalate_singleton, List.flatMap_singleton]
    · have hnewline : visible "\n".toList = [] := by decide
      rw [String.intercalate_cons_of_ne_nil hnil, String.toList_append, String.toList_append,
        visible_append, visible_append, hnewline, List.append_nil, ih, List.flatMap_cons]

/-- Nothing visible is in a fragment that is left out. -/
lemma visible_fragments (parts : List String) :
    ((fragments parts).flatMap fun x => visible x.toList) =
      parts.flatMap fun x => visible x.toList := by
  induction parts with
  | nil => rfl
  | cons x parts ih =>
    have htrim : visible (trim x).toList = visible x.toList := by
      rw [toList_trim, visible_trimChars]
    have hcons : fragments (x :: parts) = fragments [x] ++ fragments parts :=
      fragments_append [x] parts
    rw [hcons, List.flatMap_append, ih, List.flatMap_cons, List.append_cancel_right_eq, ← htrim]
    by_cases hx : trim x = ""
    · rw [fragments_of_trim_eq_empty hx, hx]
      rfl
    · rw [fragments_of_trim_ne_empty hx, List.flatMap_singleton]

lemma visible_joinFragments (parts : List String) :
    visible (joinFragments parts).toList = parts.flatMap fun x => visible x.toList :=
  (visible_intercalate (fragments parts)).trans (visible_fragments parts)

/-- **Joining joined texts is joining all that is in them.** A joined text by itself stays as it is,
no white space stands at its ends, and it holds what is visible in its fragments, in their order. -/
theorem joinFragments_map_joinFragments (lists : List (List String)) (parts : List String) :
    joinFragments (lists.map joinFragments) = joinFragments lists.flatten ∧
    joinFragments [joinFragments parts] = joinFragments parts ∧
    IsTrimmed (joinFragments parts).toList ∧
    visible (joinFragments parts).toList = parts.flatMap fun x => visible x.toList := by
  have hjoined : ∀ xs : List String, trim (joinFragments xs) = joinFragments xs := by
    intro xs
    exact trim_of_isTrimmed (isTrimmed_joinFragments xs)
  refine ⟨?_, ?_, isTrimmed_joinFragments parts, visible_joinFragments parts⟩
  · calc joinFragments (lists.map joinFragments)
        = joinFragments (lists.map joinFragments ++ []) := by rw [List.append_nil]
      _ = joinFragments (lists.flatMap id ++ []) :=
          joinFragments_map_append (fun xs _ => hjoined xs) []
      _ = joinFragments lists.flatten := by rw [List.append_nil, List.flatMap_id]
  · rw [joinFragments_singleton, hjoined]

end ScalarCall.Text

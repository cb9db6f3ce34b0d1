import Mathlib.Tactic.Common
import ScalarCall.Call.Block
import ScalarCall.Proofs.Literal.External

/-!
Folding of literal operands. It fails exactly if some literal is a value that is not null and not
of its type, and then the first of these is reported.
-/

namespace ScalarCall

namespace Expression

/-- The operand is a literal with a value of a variant that does not belong to the operand's type. -/
def IsForeign (e : Expression) : Prop := ∃ v, e.value? = some v ∧ ¬ v.IsOf e.type

/-- The first literal among operands that does not belong to its type. -/
def IsFirstForeign (operands : List Expression) (v : Literal) (t : SqlType) : Prop :=
  ∃ before e after, operands = before ++ e :: after ∧ (∀ p ∈ before, ¬ p.IsForeign) ∧
    e.value? = some v ∧ t = e.type ∧ ¬ v.IsOf t

variable {e : Expression} {es : List Expression} {v : Literal} {t : SqlType}

lemma ne_null_of_value? (h : e.value? = some v) : v ≠ .null := by
  rintro rfl
  obtain ⟨-, hnull⟩ := Option.filter_eq_some_iff.1 h
  cases hnull

lemma literal?_of_value? (h : e.value? = some v) : e.literal? = some v :=
  (Option.filter_eq_some_iff.1 h).1

lemma isFirstForeign_nil : ¬ IsFirstForeign [] v t := by
  rintro ⟨before, e, after, h, -⟩
  simp at h

lemma isFirstForeign_cons_of_isForeign (he : e.IsForeign) :
    IsFirstForeign (e :: es) v t ↔ e.value? = some v ∧ t = e.type ∧ ¬ v.IsOf t := by
  constructor
  · rintro ⟨before, p, after, h, hbefore, hv⟩
    cases before with
    | nil =>
      cases h
      exact hv
    | cons q before =>
      cases h
      exact absurd he (hbefore _ List.mem_cons_self)
  · intro hv
    exact ⟨[], e, es, rfl, by simp, hv⟩

lemma isFirstForeign_cons_of_not (he : ¬ e.IsForeign) :
    IsFirstForeign (e :: es) v t ↔ IsFirstForeign es v t := by
  constructor
  · rintro ⟨before, p, after, h, hbefore, hv, ht, hof⟩
    cases before with
    | nil =>
      cases h
      exact absurd ⟨v, hv, ht ▸ hof⟩ he
    | cons q before =>
      cases h
      exact ⟨before, p, after, rfl, fun x hx => hbefore x (List.mem_cons_of_mem _ hx), hv, ht, hof⟩
  · rintro ⟨before, p, after, rfl, hbefore, hv⟩
    exact ⟨e :: before, p, after, rfl, List.forall_mem_cons.2 ⟨he, hbefore⟩, hv⟩

lemma exists_isFirstForeign_iff :
    (∃ v t, IsFirstForeign es v t) ↔ ∃ e ∈ es, e.IsForeign := by
  induction es with
  | nil => simp [isFirstForeign_nil]
  | cons e es ih =>
    by_cases he : e.IsForeign
    · simp only [isFirstForeign_cons_of_isForeign he, List.mem_cons, exists_eq_or_imp, he, true_or,
        iff_true]
      obtain ⟨v, hv, hof⟩ := he
      exact ⟨v, e.type, hv, rfl, hof⟩
    · simp only [isFirstForeign_cons_of_not he, ih, List.mem_cons, exists_eq_or_imp, he, false_or]

end Expression

open Expression

namespace CallGenerator

variable {g : CallGenerator} {e : Expression} {es : List Expression} {x : CallError}
  {a : Option ExternalLiteral} {args : List (Option ExternalLiteral)}

lemma fold_of_value?_eq_none (h : e.value? = none) : ∃ v, g.fold e = .ok v := by
  unfold fold
  unfold Expression.value? at h
  cases hl : e.literal? with
  | none => exact ⟨_, rfl⟩
  | some v =>
    rw [hl] at h
    cases v with
    | null => exact ⟨_, rfl⟩
    | _ => cases h

lemma fold_of_value?_eq_some {v : Literal} (h : e.value? = some v) :
    g.fold e = (g.converter.literal v e.type).map some := by
  unfold Expression.value? at h
  obtain ⟨hl, hv⟩ := Option.filter_eq_some_iff.1 h
  unfold fold
  rw [hl]
  cases v with
  | null => cases hv
  | _ => rfl

lemma fold_eq_error_iff (hg : g.converter = .standard) :
    g.fold e = .error x ↔
      ∃ v, e.value? = some v ∧ ¬ v.IsOf e.type ∧ x = .notOfType v e.type := by
  cases h : e.value? with
  | none =>
    obtain ⟨v, hv⟩ := fold_of_value?_eq_none (g := g) h
    simp [hv]
  | some v =>
    rw [fold_of_value?_eq_some h, hg]
    show (Converter.literalValue v e.type).map some = _ ↔ _
    unfold Converter.literalValue
    cases hx : v.external? e.type with
    | none =>
      have hof := (Literal.external?_eq_none_iff (ne_null_of_value? h)).1 hx
      simp [Except.map, hof, eq_comm]
    | some y =>
      have hof := Literal.isOf_of_external? (ne_null_of_value? h) hx
      simp [Except.map, hof]

lemma foldAll_cons (e : Expression) (es : List Expression) :
    g.foldAll (e :: es) =
      match g.fold e with
      | .error x => .error x
      | .ok v =>
        match g.foldAll es with
        | .error x => .error x
        | .ok vs => .ok (v :: vs) := by
  rw [foldAll]
  cases g.fold e with
  | error x => rfl
  | ok v => cases g.foldAll es <;> rfl

lemma not_isForeign_of_fold (hg : g.converter = .standard) (h : g.fold e = .ok a) :
    ¬ e.IsForeign := by
  rintro ⟨v, hv, hof⟩
  rw [(fold_eq_error_iff hg).2 ⟨v, hv, hof, rfl⟩] at h
  cases h

/-- Folding fails with the first literal that does not belong to its type. -/
lemma foldAll_eq_error_iff (hg : g.converter = .standard) :
    g.foldAll es = .error x ↔ ∃ v t, IsFirstForeign es v t ∧ x = .notOfType v t := by
  induction es with
  | nil =>
    constructor
    · intro h
      cases h
    · rintro ⟨v, t, h, -⟩
      exact absurd h isFirstForeign_nil
  | cons e es ih =>
    rw [foldAll_cons]
    cases he : g.fold e with
    | error y =>
      obtain ⟨v, hv, hof, rfl⟩ := (fold_eq_error_iff hg).1 he
      have hforeign : e.IsForeign := ⟨v, hv, hof⟩
      simp only [isFirstForeign_cons_of_isForeign hforeign, hv]
      constructor
      · rintro ⟨⟩
        exact ⟨v, e.type, ⟨rfl, rfl, hof⟩, rfl⟩
      · rintro ⟨w, t, ⟨hw, rfl, -⟩, rfl⟩
        cases hw
        rfl
    | ok a =>
      simp only [isFirstForeign_cons_of_not (not_isForeign_of_fold hg he), ← ih]
      cases hes : g.foldAll es with
      | error y => rfl
      | ok rest => simp

lemma exists_foldAll_eq_error_iff (hg : g.converter = .standard) :
    (∃ x, g.foldAll es = .error x) ↔ ∃ e ∈ es, e.IsForeign := by
  rw [← exists_isFirstForeign_iff]
  constructor
  · rintro ⟨x, hx⟩
    obtain ⟨v, t, hfirst, -⟩ := (foldAll_eq_error_iff hg).1 hx
    exact ⟨v, t, hfirst⟩
  · rintro ⟨v, t, hfirst⟩
    exact ⟨_, (foldAll_eq_error_iff hg).2 ⟨v, t, hfirst, rfl⟩⟩

end CallGenerator

end ScalarCall

import Mathlib.Data.List.Forall2
import Mathlib.Tactic.Common
import ScalarCall.Function.Resolution

/-!
When a signature is applicable to operands: its parameters can be brought to as many as there are
operands, and each of their classes takes its operand. A function is resolved exactly if one of its
signatures is applicable, and to such a one.
-/

namespace ScalarCall

/-- The parameter classes of a signature for a number of arguments. The last class of a variadic one
is an array, and its component stands for any number of arguments. -/
inductive Overload.Expands (m : Overload) : ℕ → List RuntimeClass → Prop
  | fixed (h : m.variadic = false) : m.Expands m.parameters.length m.parameters
  | variadic {first : List RuntimeClass} {last component : RuntimeClass} (h : m.variadic = true)
    (hp : m.parameters = first ++ [last]) (hc : last.component? = some component) (extra : ℕ) :
    m.Expands (first.length + extra) (first ++ List.replicate extra component)

/-- A class takes the operands of the types that accept it. The class of all objects takes any. -/
def RuntimeClass.Takes (c : RuntimeClass) (t : SqlType) : Prop :=
  c = .anyObject ∨ t.accepts c = true

def Overload.IsApplicable (m : Overload) (types : List SqlType) : Prop :=
  ∃ classes, m.Expands types.length classes ∧ List.Forall₂ RuntimeClass.Takes classes types

namespace Overload

variable {m : Overload} {n : ℕ} {classes : List RuntimeClass}

lemma expand?_eq_some_iff : m.expand? n = some classes ↔ m.Expands n classes := by
  unfold expand?
  constructor
  · intro h
    split_ifs at h with hv hl
    · split at h
      · cases h
      · next component hc =>
        obtain ⟨last, hlast, hc⟩ := Option.bind_eq_some_iff.1 hc
        obtain ⟨first, hp⟩ := List.getLast?_eq_some_iff.1 hlast
        simp only [hp, List.dropLast_concat] at h
        split_ifs at h with hn
        cases h
        have := Expands.variadic hv hp hc (n - first.length)
        rwa [Nat.add_sub_cancel' hn] at this
    · cases h
      exact hl ▸ .fixed (Bool.eq_false_iff.2 hv)
  · rintro (h | ⟨hv, hp, hc, extra⟩)
    · simp [h]
    · simp [hv, hp, hc]

lemma Expands.length_eq (h : m.Expands n classes) : classes.length = n := by
  cases h with
  | fixed => rfl
  | variadic => simp

end Overload

/-! ### Scores -/

lemma parameterScore?_isSome_iff {t : SqlType} {c : RuntimeClass} :
    (parameterScore? t c).isSome = true ↔ c.Takes t := by
  unfold parameterScore? RuntimeClass.Takes
  by_cases ho : c = .anyObject
  · simp [ho]
  · cases ha : t.accepts c <;> simp [ho]
    split_ifs <;> rfl

lemma totalScore?_isSome_iff {types : List SqlType} {classes : List RuntimeClass}
    (h : classes.length = types.length) :
    (totalScore? types classes).isSome = true ↔ List.Forall₂ RuntimeClass.Takes classes types := by
  induction classes generalizing types with
  | nil =>
    obtain rfl := List.length_eq_zero_iff.1 h.symm
    simp [totalScore?]
  | cons c cs ih =>
    obtain _ | ⟨t, ts⟩ := types
    · cases h
    · rw [List.forall₂_cons, ← ih (Nat.succ.inj h), ← parameterScore?_isSome_iff, totalScore?]
      cases parameterScore? t c <;> cases totalScore? ts cs <;> simp

lemma Overload.candidate?_eq_some {m : Overload} {types : List SqlType} {score : ℕ} {r : Resolved}
    (h : m.candidate? types = some (score, r)) :
    m.Expands types.length r.parameters ∧ List.Forall₂ RuntimeClass.Takes r.parameters types ∧
      r.result = m.result := by
  obtain ⟨classes, hc, h⟩ := Option.bind_eq_some_iff.1 h
  obtain ⟨total, ht, h⟩ := Option.map_eq_some_iff.1 h
  cases h
  have he := expand?_eq_some_iff.1 hc
  exact ⟨he, (totalScore?_isSome_iff he.length_eq).1 (by simp [ht]), rfl⟩

lemma Overload.candidate?_isSome_iff {m : Overload} {types : List SqlType} :
    (m.candidate? types).isSome = true ↔ m.IsApplicable types := by
  constructor
  · intro h
    obtain ⟨⟨score, r⟩, hr⟩ := Option.isSome_iff_exists.1 h
    obtain ⟨he, ht, -⟩ := candidate?_eq_some hr
    exact ⟨r.parameters, he, ht⟩
  · rintro ⟨classes, he, ht⟩
    obtain ⟨total, htotal⟩ :=
      Option.isSome_iff_exists.1 ((totalScore?_isSome_iff he.length_eq).2 ht)
    unfold candidate?
    rw [expand?_eq_some_iff.2 he, Option.bind_some, htotal]
    rfl

/-! ### The best candidate -/

lemma betterOf_eq (best next : Option (ℕ × Resolved)) :
    betterOf best next = best ∨ betterOf best next = next := by
  unfold betterOf
  split
  · split_ifs <;> simp
  · simp
  · simp

lemma betterOf_eq_none_iff {best next : Option (ℕ × Resolved)} :
    betterOf best next = none ↔ best = none ∧ next = none := by
  unfold betterOf
  split
  · split_ifs <;> simp
  · simp
  · simp

lemma foldl_betterOf_mem (best : Option (ℕ × Resolved)) (l : List (Option (ℕ × Resolved))) :
    l.foldl betterOf best = best ∨ l.foldl betterOf best ∈ l := by
  induction l generalizing best with
  | nil => exact .inl rfl
  | cons next l ih =>
    rw [List.foldl_cons]
    rcases ih (betterOf best next) with h | h
    · rw [h]
      rcases betterOf_eq best next with h | h
      · exact .inl h
      · rw [h]
        exact .inr List.mem_cons_self
    · exact .inr (List.mem_cons_of_mem _ h)

lemma foldl_betterOf_eq_none_iff {best : Option (ℕ × Resolved)}
    {l : List (Option (ℕ × Resolved))} :
    l.foldl betterOf best = none ↔ best = none ∧ ∀ c ∈ l, c = none := by
  induction l generalizing best with
  | nil => simp
  | cons next l ih =>
    rw [List.foldl_cons, ih, betterOf_eq_none_iff, List.forall_mem_cons, and_assoc]

theorem resolve_eq_ok {f : Function} {types : List SqlType} {r : Resolved}
    (h : resolve f types = .ok r) :
    ∃ m ∈ f.overloads, m.Expands types.length r.parameters ∧
      List.Forall₂ RuntimeClass.Takes r.parameters types ∧ r.result = m.result := by
  unfold resolve at h
  split at h
  · next score best hb =>
    cases h
    unfold bestCandidate? at hb
    rcases foldl_betterOf_mem none (f.overloads.map (·.candidate? types)) with h | h
    · rw [h] at hb
      cases hb
    · rw [hb, List.mem_map] at h
      obtain ⟨m, hm, hc⟩ := h
      exact ⟨m, hm, m.candidate?_eq_some hc⟩
  · cases h

/-- A function is not resolved exactly if none of its signatures is applicable. -/
theorem resolve_eq_error_iff {f : Function} {types : List SqlType} :
    (∃ e, resolve f types = .error e) ↔ ∀ m ∈ f.overloads, ¬ m.IsApplicable types := by
  have hb : bestCandidate? f.overloads types = none ↔
      ∀ m ∈ f.overloads, ¬ m.IsApplicable types := by
    unfold bestCandidate?
    rw [foldl_betterOf_eq_none_iff]
    simp [← Overload.candidate?_isSome_iff]
  rw [← hb]
  unfold resolve
  cases bestCandidate? f.overloads types <;> simp

end ScalarCall

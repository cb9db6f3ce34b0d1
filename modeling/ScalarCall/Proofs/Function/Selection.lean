import Mathlib.Data.List.Induction
import ScalarCall.Proofs.Function.Applicable

/-!
Which of the applicable signatures is taken. Every class weighs something for the operand that it
takes; a function is resolved to the first of its signatures that weigh most.
-/

namespace ScalarCall

/-! ### Weights -/

/-- What a class weighs that takes an operand of the type. -/
def RuntimeClass.weight (c : RuntimeClass) (t : SqlType) : ℕ :=
  if c = .anyObject then 0
  else if c.isPrimitive then if t.isNullable then 1 else 3
  else if c = t.defaultClass then if t.isNullable then 3 else 2
  else 1

def totalWeight : List RuntimeClass → List SqlType → ℕ
  | c :: cs, t :: ts => c.weight t + totalWeight cs ts
  | _, _ => 0

/-- The signature is applicable with the given classes, and these weigh so much. -/
structure Overload.Weighs (m : Overload) (types : List SqlType) (classes : List RuntimeClass)
    (weight : ℕ) : Prop where
  expands : m.Expands types.length classes
  takes : List.Forall₂ RuntimeClass.Takes classes types
  total : totalWeight classes types = weight

variable {t : SqlType} {c : RuntimeClass} {types : List SqlType} {classes : List RuntimeClass}
  {m : Overload} {n : ℕ} {r : Resolved}

lemma parameterScore?_of_takes (h : c.Takes t) : parameterScore? t c = some (c.weight t) := by
  unfold parameterScore? RuntimeClass.weight
  by_cases ho : c = .anyObject
  · simp [ho]
  · have ha : t.accepts c = true := h.resolve_left ho
    simp only [ho, ha, if_false, Bool.not_true, Bool.false_eq_true]
    split_ifs <;> rfl

@[simp] lemma totalWeight_cons (c : RuntimeClass) (cs : List RuntimeClass) (t : SqlType)
    (ts : List SqlType) : totalWeight (c :: cs) (t :: ts) = c.weight t + totalWeight cs ts := rfl

lemma totalScore?_of_takes (h : List.Forall₂ RuntimeClass.Takes classes types) :
    totalScore? types classes = some (totalWeight classes types) := by
  induction h with
  | nil => rfl
  | cons hc _ ih => simp [totalScore?, parameterScore?_of_takes hc, ih]

lemma RuntimeClass.weight_le (c : RuntimeClass) (t : SqlType) : c.weight t ≤ 3 := by
  unfold weight
  split_ifs <;> omega

lemma totalWeight_le (classes : List RuntimeClass) (types : List SqlType) :
    totalWeight classes types ≤ 3 * types.length := by
  induction types generalizing classes with
  | nil => simp [totalWeight]
  | cons t ts ih =>
    cases classes with
    | nil => simp [totalWeight]
    | cons c cs =>
      have hc := c.weight_le t
      have hcs := ih cs
      rw [totalWeight_cons, List.length_cons]
      omega

lemma Overload.Weighs.isApplicable (h : m.Weighs types classes n) : m.IsApplicable types :=
  ⟨classes, h.expands, h.takes⟩

/-- A signature expands to as many arguments in one way only. -/
lemma Overload.Expands.unique {classes' : List RuntimeClass} (h : m.Expands n classes)
    (h' : m.Expands n classes') : classes = classes' := by
  rw [← expand?_eq_some_iff] at h h'
  exact Option.some.inj (h.symm.trans h')

/-- The candidates are the applicable signatures with their weights. -/
lemma Overload.candidate?_eq_some_iff :
    m.candidate? types = some (n, r) ↔ m.Weighs types r.parameters n ∧ r.result = m.result := by
  constructor
  · intro h
    obtain ⟨he, ht, hr⟩ := candidate?_eq_some h
    refine ⟨⟨he, ht, ?_⟩, hr⟩
    rw [candidate?, expand?_eq_some_iff.2 he, Option.bind_some, totalScore?_of_takes ht] at h
    have hn : totalWeight r.parameters types = n := by
      simpa using congrArg (Option.map Prod.fst) h
    exact hn
  · rintro ⟨⟨he, ht, rfl⟩, hr⟩
    rw [candidate?, expand?_eq_some_iff.2 he, Option.bind_some, totalScore?_of_takes ht, ← hr]
    rfl

/-! ### The running best -/

/-- A candidate that weighs more than all before it and no less than all after it. -/
def IsFirstGreatest (l : List (Option (ℕ × Resolved))) (b : ℕ × Resolved) : Prop :=
  ∃ before after, l = before ++ some b :: after ∧
    (∀ c, some c ∈ before → c.1 < b.1) ∧ ∀ c, some c ∈ after → c.1 ≤ b.1

namespace IsFirstGreatest

variable {b c : ℕ × Resolved} {next : Option (ℕ × Resolved)} {l : List (Option (ℕ × Resolved))}

lemma le (h : IsFirstGreatest l b) (hc : some c ∈ l) : c.1 ≤ b.1 := by
  obtain ⟨before, after, rfl, hlt, hle⟩ := h
  rcases List.mem_append.1 hc with hc | hc
  · exact Nat.le_of_lt (hlt c hc)
  · rcases List.mem_cons.1 hc with hc | hc
    · cases hc
      exact Nat.le_refl _
    · exact hle c hc

/-- It stays the first of the greatest, if what comes next does not weigh more. -/
lemma concat_of_le (h : IsFirstGreatest l b) (hn : ∀ c, next = some c → c.1 ≤ b.1) :
    IsFirstGreatest (l ++ [next]) b := by
  obtain ⟨before, after, rfl, hlt, hle⟩ := h
  refine ⟨before, after ++ [next], by simp, hlt, ?_⟩
  intro c hc
  rcases List.mem_append.1 hc with hc | hc
  · exact hle c hc
  · exact hn c (List.mem_singleton.1 hc).symm

lemma concat_of_lt (h : ∀ c, some c ∈ l → c.1 < b.1) : IsFirstGreatest (l ++ [some b]) b :=
  ⟨l, [], rfl, h, by simp⟩

end IsFirstGreatest

variable {b : ℕ × Resolved} {l : List (Option (ℕ × Resolved))}

lemma isFirstGreatest_of_foldl (h : l.foldl betterOf none = some b) : IsFirstGreatest l b := by
  induction l using List.reverseRecOn generalizing b with
  | nil => cases h
  | append_singleton l next ih =>
    rw [List.foldl_append, List.foldl_cons, List.foldl_nil] at h
    cases hl : l.foldl betterOf none with
    | none =>
      -- nothing was a candidate so far
      rw [hl] at h
      obtain rfl : next = some b := h
      have hnone := (foldl_betterOf_eq_none_iff.1 hl).2
      exact .concat_of_lt fun c hc => absurd (hnone _ hc) (Option.some_ne_none c)
    | some a =>
      rw [hl] at h
      have ha := ih hl
      cases next with
      | none =>
        cases h
        exact ha.concat_of_le (by simp)
      | some c =>
        unfold betterOf at h
        dsimp only at h
        split_ifs at h with hac
        · cases h
          exact .concat_of_lt fun d hd => Nat.lt_of_le_of_lt (ha.le hd) hac
        · cases h
          refine ha.concat_of_le fun d hd => ?_
          cases hd
          exact Nat.not_lt.1 hac

lemma foldl_betterOf_of_le (h : ∀ c, some c ∈ l → c.1 ≤ b.1) :
    l.foldl betterOf (some b) = some b := by
  induction l with
  | nil => rfl
  | cons next l ih =>
    have hb : betterOf (some b) next = some b := by
      cases next with
      | none => rfl
      | some c =>
        have hc := h c List.mem_cons_self
        simp [betterOf, Nat.not_lt.2 hc]
    rw [List.foldl_cons, hb]
    exact ih fun c hc => h c (List.mem_cons_of_mem _ hc)

lemma betterOf_foldl_of_lt (h : ∀ c, some c ∈ l → c.1 < b.1) :
    betterOf (l.foldl betterOf none) (some b) = some b := by
  rcases foldl_betterOf_mem none l with hnone | hmem
  · rw [hnone]
    rfl
  · generalize l.foldl betterOf none = best at hmem ⊢
    cases best with
    | none => rfl
    | some c => simp [betterOf, h c hmem]

lemma foldl_betterOf_eq_some_iff : l.foldl betterOf none = some b ↔ IsFirstGreatest l b := by
  constructor
  · exact isFirstGreatest_of_foldl
  · rintro ⟨before, after, rfl, hlt, hle⟩
    rw [List.foldl_append, List.foldl_cons, betterOf_foldl_of_lt hlt]
    exact foldl_betterOf_of_le hle

/-! ### The first of the best signatures -/

/-- One of the signatures is applicable, weighs more than all before it and no less than all after
it, and is what the operands are resolved to. -/
def IsFirstBest (overloads : List Overload) (types : List SqlType) (r : Resolved) : Prop :=
  ∃ before m after weight, overloads = before ++ m :: after ∧
    m.Weighs types r.parameters weight ∧ r.result = m.result ∧
    (∀ m' ∈ before, ∀ classes n, m'.Weighs types classes n → n < weight) ∧
    ∀ m' ∈ after, ∀ classes n, m'.Weighs types classes n → n ≤ weight

lemma forall_candidates_iff {overloads : List Overload} {P : ℕ → Prop} :
    (∀ c, some c ∈ overloads.map (·.candidate? types) → P c.1) ↔
      ∀ m ∈ overloads, ∀ classes n, m.Weighs types classes n → P n := by
  constructor
  · intro h m hm classes n hw
    refine h (n, ⟨classes, m.result⟩) (List.mem_map.2 ⟨m, hm, ?_⟩)
    exact Overload.candidate?_eq_some_iff.2 ⟨hw, rfl⟩
  · rintro h ⟨n, r⟩ hc
    obtain ⟨m, hm, hc⟩ := List.mem_map.1 hc
    exact h m hm r.parameters n (Overload.candidate?_eq_some_iff.1 hc).1

lemma bestCandidate?_eq_some_iff {overloads : List Overload} :
    (∃ n, bestCandidate? overloads types = some (n, r)) ↔ IsFirstBest overloads types r := by
  constructor
  · rintro ⟨n, h⟩
    obtain ⟨before, after, hsplit, hlt, hle⟩ := foldl_betterOf_eq_some_iff.1 h
    obtain ⟨before, rest, rfl, rfl, hrest⟩ := List.map_eq_append_iff.1 hsplit
    obtain ⟨m, after, rfl, hm, rfl⟩ := List.map_eq_cons_iff.1 hrest
    obtain ⟨hw, hr⟩ := Overload.candidate?_eq_some_iff.1 hm
    exact ⟨before, m, after, n, rfl, hw, hr, forall_candidates_iff.1 hlt,
      forall_candidates_iff.1 hle⟩
  · rintro ⟨before, m, after, n, rfl, hw, hr, hlt, hle⟩
    refine ⟨n, foldl_betterOf_eq_some_iff.2 ⟨before.map (·.candidate? types),
      after.map (·.candidate? types), ?_, forall_candidates_iff.2 hlt,
      forall_candidates_iff.2 hle⟩⟩
    rw [List.map_append, List.map_cons, Overload.candidate?_eq_some_iff.2 ⟨hw, hr⟩]

lemma resolve_eq_ok_iff {f : Function} :
    resolve f types = .ok r ↔ IsFirstBest f.overloads types r := by
  rw [← bestCandidate?_eq_some_iff]
  unfold resolve
  constructor
  · intro h
    split at h
    · next n best hb =>
      cases h
      exact ⟨n, hb⟩
    · cases h
  · rintro ⟨n, hn⟩
    rw [hn]

namespace IsFirstBest

variable {overloads : List Overload}

lemma exists_weighs (h : IsFirstBest overloads types r) :
    ∃ m ∈ overloads, m.Weighs types r.parameters (totalWeight r.parameters types) := by
  obtain ⟨before, m, after, weight, rfl, hw, -⟩ := h
  exact ⟨m, by simp, hw.expands, hw.takes, rfl⟩

lemma le (h : IsFirstBest overloads types r) (hm : m ∈ overloads)
    (hw : m.Weighs types classes n) : n ≤ totalWeight r.parameters types := by
  obtain ⟨before, best, after, weight, rfl, hbest, -, hlt, hle⟩ := h
  rcases List.mem_append.1 hm with hm | hm
  · rw [hbest.total]
    exact Nat.le_of_lt (hlt m hm classes n hw)
  · rcases List.mem_cons.1 hm with rfl | hm
    · obtain rfl := hw.expands.unique hbest.expands
      exact Nat.le_of_eq hw.total.symm
    · rw [hbest.total]
      exact hle m hm classes n hw

end IsFirstBest

/-! ### One more signature -/

lemma isFirstBest_concat_of_lt {overloads : List Overload} (h : m.Weighs types classes n)
    (hlt : ∀ m' ∈ overloads, ∀ classes' n', m'.Weighs types classes' n' → n' < n) :
    IsFirstBest (overloads ++ [m]) types ⟨classes, m.result⟩ :=
  ⟨overloads, m, [], n, rfl, h, rfl, hlt, by simp⟩

/-- A signature that does not outweigh the one that is taken changes nothing. -/
lemma IsFirstBest.concat_of_le {overloads : List Overload} (h : IsFirstBest overloads types r)
    (hle : ∀ classes n, m.Weighs types classes n → n ≤ totalWeight r.parameters types) :
    IsFirstBest (overloads ++ [m]) types r := by
  obtain ⟨before, best, after, weight, rfl, hbest, hr, hlt, hafter⟩ := h
  rw [hbest.total] at hle
  refine ⟨before, best, after ++ [m], weight, by simp, hbest, hr, hlt, ?_⟩
  exact List.forall_mem_append.2 ⟨hafter, List.forall_mem_singleton.2 hle⟩

/-- One more signature makes a difference exactly if it is applicable and outweighs all that are
declared before it. -/
lemma toOption_resolve_concat_ne_iff {f : Function} :
    (resolve { f with overloads := f.overloads ++ [m] } types).toOption ≠
        (resolve f types).toOption ↔
      ∃ classes n, m.Weighs types classes n ∧
        ∀ m' ∈ f.overloads, ∀ classes' n', m'.Weighs types classes' n' → n' < n := by
  set f' : Function := { f with overloads := f.overloads ++ [m] }
  constructor
  · intro hne
    cases hr : resolve f types with
    | ok r =>
      have hbest := resolve_eq_ok_iff.1 hr
      by_contra hno
      have hsame : resolve f' types = .ok r := by
        refine resolve_eq_ok_iff.2 (hbest.concat_of_le fun classes n hw => ?_)
        by_contra hgt
        refine hno ⟨classes, n, hw, fun m' hm' classes' n' hw' => ?_⟩
        exact Nat.lt_of_le_of_lt (hbest.le hm' hw') (Nat.not_le.1 hgt)
      rw [hr, hsame] at hne
      exact hne rfl
    | error e =>
      have hnone := resolve_eq_error_iff.1 ⟨e, hr⟩
      by_cases hm : m.IsApplicable types
      · obtain ⟨classes, he, ht⟩ := hm
        refine ⟨classes, _, ⟨he, ht, rfl⟩, fun m' hm' classes' n' hw' => ?_⟩
        exact absurd hw'.isApplicable (hnone m' hm')
      · have hall : ∀ m' ∈ f'.overloads, ¬ m'.IsApplicable types :=
          List.forall_mem_append.2 ⟨hnone, List.forall_mem_singleton.2 hm⟩
        obtain ⟨e', he'⟩ := resolve_eq_error_iff.2 hall
        rw [hr, he'] at hne
        exact absurd rfl hne
  · rintro ⟨classes, n, hw, hlt⟩ heq
    have hnew : resolve f' types = .ok ⟨classes, m.result⟩ :=
      resolve_eq_ok_iff.2 (isFirstBest_concat_of_lt hw hlt)
    rw [hnew] at heq
    -- the same parameters would weigh the same
    have hold : resolve f types = .ok ⟨classes, m.result⟩ := by
      cases hr : resolve f types with
      | ok r =>
        rw [hr] at heq
        cases heq
        rfl
      | error e =>
        rw [hr] at heq
        cases heq
    obtain ⟨m', hm', hw'⟩ := (resolve_eq_ok_iff.1 hold).exists_weighs
    have hn := hlt m' hm' _ _ hw'
    rw [← hw.total] at hn
    exact Nat.lt_irrefl _ hn

/-! ### What a function is resolved to -/

/-- **The first of the best applicable signatures is taken**, with one class for each operand. A
function is resolved exactly if one of its signatures is applicable, and one more signature makes a
difference exactly if it outweighs all before it. Weights are small: three for each operand at
most. -/
theorem resolve_takes_first_best (f : Function) (types : List SqlType) :
    (∀ r, resolve f types = .ok r ↔ IsFirstBest f.overloads types r) ∧
    ((∃ r, resolve f types = .ok r) ↔ ∃ m ∈ f.overloads, m.IsApplicable types) ∧
    (∀ r, resolve f types = .ok r → r.parameters.length = types.length) ∧
    (∀ m, (resolve { f with overloads := f.overloads ++ [m] } types).toOption ≠
        (resolve f types).toOption ↔
      ∃ classes n, m.Weighs types classes n ∧
        ∀ m' ∈ f.overloads, ∀ classes' n', m'.Weighs types classes' n' → n' < n) ∧
    ∀ (m : Overload) classes n, m.Weighs types classes n → n ≤ 3 * types.length := by
  refine ⟨fun r => resolve_eq_ok_iff, ?_, ?_, fun m => toOption_resolve_concat_ne_iff, ?_⟩
  · constructor
    · rintro ⟨r, hr⟩
      obtain ⟨m, hm, he, ht, -⟩ := resolve_eq_ok hr
      exact ⟨m, hm, r.parameters, he, ht⟩
    · rintro ⟨m, hm, ha⟩
      cases hr : resolve f types with
      | ok r => exact ⟨r, rfl⟩
      | error e => exact absurd ha (resolve_eq_error_iff.1 ⟨e, hr⟩ m hm)
  · intro r hr
    obtain ⟨m, -, he, -⟩ := resolve_eq_ok hr
    exact he.length_eq
  · intro m classes n hw
    rw [← hw.total]
    exact totalWeight_le classes types

end ScalarCall

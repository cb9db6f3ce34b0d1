import ScalarCall.Proofs.Function.Selection
import ScalarCall.Proofs.SqlType.Primitive

/-!
Signatures that differ in one parameter, which is a primitive in one and its boxed form in the
other. An operand that excludes null never gets the boxed form. One that admits null never gets the
primitive, unless its type is temporal: there the two weigh the same, and the one declared first is
taken.
-/

namespace ScalarCall

/-- The two signatures have the same parameters, but for one that is a primitive in the first and
its boxed form in the second. -/
structure Overload.BoxedAt (m m' : Overload) (i : ℕ) (k : Primitive) : Prop where
  fixed : m.variadic = false
  fixed' : m'.variadic = false
  primitive : m.parameters[i]? = some (.primitive k)
  boxed : m'.parameters = m.parameters.set i (.boxed k)

/-- Some signature has the first classes for so many arguments, and none before it has the second
ones. -/
def ComesFirst (overloads : List Overload) (count : ℕ) (classes classes' : List RuntimeClass) :
    Prop :=
  ∃ before m after, overloads = before ++ m :: after ∧ m.Expands count classes ∧
    ∀ m' ∈ before, ¬ m'.Expands count classes'

variable {t : SqlType} {k : Primitive} {c d : RuntimeClass} {types : List SqlType}
  {classes : List RuntimeClass} {m m' : Overload} {i : ℕ} {r : Resolved} {f : Function}
  {overloads : List Overload}

/-! ### Weights -/

lemma weight_primitive (k : Primitive) (t : SqlType) :
    (RuntimeClass.primitive k).weight t = if t.isNullable then 1 else 3 := by
  simp [RuntimeClass.weight, RuntimeClass.anyObject, RuntimeClass.isPrimitive]

lemma weight_boxed (k : Primitive) (t : SqlType) :
    (RuntimeClass.boxed k).weight t =
      if t.defaultClass = .boxed k then if t.isNullable then 3 else 2 else 1 := by
  have hobject : RuntimeClass.boxed k ≠ .anyObject := by simp [RuntimeClass.anyObject]
  rw [RuntimeClass.weight, if_neg hobject, if_neg (by simp [RuntimeClass.isPrimitive])]
  simp only [eq_comm]

/-- A class in the place of another changes the weight by the difference of the two. -/
lemma totalWeight_set (hc : classes[i]? = some c) (ht : types[i]? = some t) :
    totalWeight (classes.set i d) types + c.weight t = totalWeight classes types + d.weight t := by
  induction classes generalizing types i with
  | nil => cases hc
  | cons a classes ih =>
    cases types with
    | nil => cases ht
    | cons u types =>
      cases i with
      | zero =>
        cases hc
        cases ht
        simp only [List.set_cons_zero, totalWeight_cons]
        omega
      | succ i =>
        have := ih hc ht
        simp only [List.set_cons_succ, totalWeight_cons]
        omega

namespace Overload

lemma Expands.eq_of_fixed {n : ℕ} (h : m.variadic = false) (he : m.Expands n classes) :
    classes = m.parameters := by
  cases he with
  | fixed => rfl
  | variadic hv => cases h.symm.trans hv

lemma weighs_of_fixed (h : m.variadic = false) (ha : m.IsApplicable types) :
    m.Weighs types m.parameters (totalWeight m.parameters types) := by
  obtain ⟨classes, he, ht⟩ := ha
  obtain rfl := he.eq_of_fixed h
  exact ⟨he, ht, rfl⟩

lemma BoxedAt.totalWeight_add (h : m.BoxedAt m' i k) (ht : types[i]? = some t) :
    totalWeight m'.parameters types + (RuntimeClass.primitive k).weight t =
      totalWeight m.parameters types + (RuntimeClass.boxed k).weight t := by
  rw [h.boxed]
  exact totalWeight_set h.primitive ht

lemma BoxedAt.accepts (h : m.BoxedAt m' i k) (ht : types[i]? = some t)
    (htakes : List.Forall₂ RuntimeClass.Takes m.parameters types) :
    t.accepts (.primitive k) = true := by
  obtain ⟨hi, hk⟩ := List.getElem?_eq_some_iff.1 h.primitive
  obtain ⟨hj, rfl⟩ := List.getElem?_eq_some_iff.1 ht
  have htake : (m.parameters[i]).Takes types[i] := htakes.get hi hj
  rw [hk] at htake
  exact htake.resolve_left (by simp [RuntimeClass.anyObject])

end Overload

/-- Among parameters of the same weight those declared first are taken. -/
lemma IsFirstBest.comesFirst (h : IsFirstBest overloads types r)
    (hc : List.Forall₂ RuntimeClass.Takes classes types)
    (hw : totalWeight classes types = totalWeight r.parameters types) :
    ComesFirst overloads types.length r.parameters classes := by
  obtain ⟨before, m, after, weight, rfl, hm, -, hlt, -⟩ := h
  refine ⟨before, m, after, rfl, hm.expands, fun m' hm' he => ?_⟩
  have hless := hlt m' hm' classes _ ⟨he, hc, rfl⟩
  rw [hw, hm.total] at hless
  exact Nat.lt_irrefl _ hless

/-- **Boxing follows nullability**, whatever else a function declares: the boxed form is not taken
for an operand that excludes null, nor the primitive for one that admits it. For temporal types that
admit null either may be taken, but only if it is declared before the other. -/
theorem parameters_of_boxedAt (hm : m ∈ f.overloads) (hm' : m' ∈ f.overloads)
    (h : m.BoxedAt m' i k) (ha : m.IsApplicable types) (ha' : m'.IsApplicable types)
    (ht : types[i]? = some t) (hr : resolve f types = .ok r) :
    (t.isNullable = false → r.parameters ≠ m'.parameters) ∧
    (t.isNullable = true → t.isTemporal = false → r.parameters ≠ m.parameters) ∧
    (t.isNullable = true → t.isTemporal = true →
      (r.parameters = m.parameters →
        ComesFirst f.overloads types.length m.parameters m'.parameters) ∧
      (r.parameters = m'.parameters →
        ComesFirst f.overloads types.length m'.parameters m.parameters)) := by
  have hbest := resolve_eq_ok_iff.1 hr
  have hweighs := m.weighs_of_fixed h.fixed ha
  have hweighs' := m'.weighs_of_fixed h.fixed' ha'
  have hle := hbest.le hm hweighs
  have hle' := hbest.le hm' hweighs'
  have hadd := h.totalWeight_add ht
  have hdefault := SqlType.defaultClass_eq_boxed_iff (h.accepts ht hweighs.takes)
  rw [weight_primitive, weight_boxed] at hadd
  refine ⟨fun hn he => ?_, fun hn htemp he => ?_, fun hn htemp => ?_⟩
  · -- the primitive weighs 3, and the boxed form 2 at most
    rw [he] at hle
    rw [hn] at hadd
    split_ifs at hadd <;> omega
  · -- the boxed form weighs 3, and the primitive 1
    rw [he] at hle'
    rw [hn, if_pos (hdefault.2 htemp)] at hadd
    simp only [if_true] at hadd
    omega
  · -- both weigh 1
    have hne : t.defaultClass ≠ .boxed k := by
      intro hd
      rw [hdefault.1 hd] at htemp
      cases htemp
    rw [hn, if_neg hne] at hadd
    have heq : totalWeight m'.parameters types = totalWeight m.parameters types := by
      simpa using hadd
    constructor
    · intro he
      rw [← he]
      exact hbest.comesFirst hweighs'.takes (by rw [he, heq])
    · intro he
      rw [← he]
      exact hbest.comesFirst hweighs.takes (by rw [he, heq])

/-- Of a `long` and its boxed form the one declared first is taken for a point in time. -/
theorem parameters_of_boxedAt_instant :
    let types : List SqlType := [.simple .bigint false, .simple (.timestampLtz 3) true]
    let any : Overload := ⟨[.anyObject, .anyObject], .primitive .int, false⟩
    let m : Overload := ⟨[.primitive .long, .primitive .long], .primitive .int, false⟩
    let m' : Overload := ⟨[.primitive .long, .boxed .long], .primitive .int, false⟩
    let f : Function := { identifier := "f", className := "F", overloads := [any, m', m] }
    m.BoxedAt m' 1 .long ∧ m.IsApplicable types ∧ m'.IsApplicable types ∧
      resolve f types = .ok ⟨m'.parameters, .primitive .int⟩ ∧
      ComesFirst f.overloads 2 m'.parameters m.parameters := by
  intro types any m m' f
  have hpair : m.BoxedAt m' 1 .long := ⟨rfl, rfl, rfl, rfl⟩
  have ha : m.IsApplicable types :=
    ⟨m.parameters, .fixed rfl, .cons (.inr rfl) (.cons (.inr rfl) .nil)⟩
  have ha' : m'.IsApplicable types :=
    ⟨m'.parameters, .fixed rfl, .cons (.inr rfl) (.cons (.inr rfl) .nil)⟩
  have hr : resolve f types = .ok ⟨m'.parameters, .primitive .int⟩ := by decide +kernel
  obtain ⟨-, -, htemporal⟩ :=
    parameters_of_boxedAt (f := f) (by simp [f]) (by simp [f]) hpair ha ha' rfl hr
  exact ⟨hpair, ha, ha', hr, (htemporal rfl rfl).2 rfl⟩

/-- A day that may be null is passed as an `int`, if that is declared before the boxed form. -/
theorem primitive_for_nullable_date :
    ¬ ∀ (f : Function) (types : List SqlType) (m m' : Overload) (i : ℕ) (k : Primitive)
      (t : SqlType) (r : Resolved), m ∈ f.overloads → m' ∈ f.overloads → m.BoxedAt m' i k →
      m.IsApplicable types → m'.IsApplicable types → types[i]? = some t →
      resolve f types = .ok r →
      (t.isNullable = false → r.parameters ≠ m'.parameters) ∧
        (t.isNullable = true → r.parameters ≠ m.parameters) := by
  intro h
  let date : SqlType := .simple .date true
  let m : Overload := ⟨[.primitive .int], .primitive .int, false⟩
  let m' : Overload := ⟨[.boxed .int], .primitive .int, false⟩
  let f : Function := { identifier := "f", className := "F", overloads := [m, m'] }
  have ha : m.IsApplicable [date] := ⟨m.parameters, .fixed rfl, .cons (.inr rfl) .nil⟩
  have ha' : m'.IsApplicable [date] := ⟨m'.parameters, .fixed rfl, .cons (.inr rfl) .nil⟩
  have hr : resolve f [date] = .ok ⟨m.parameters, .primitive .int⟩ := by decide +kernel
  obtain ⟨-, hnullable⟩ := h f [date] m m' 0 .int date _ (by simp [f]) (by simp [f])
    ⟨rfl, rfl, rfl, rfl⟩ ha ha' rfl hr
  exact hnullable rfl rfl

end ScalarCall

import ScalarCall.Conversion
import ScalarCall.Proofs.SqlType.Primitive

/-!
Which conversions exist. A type is converted to and from exactly the classes that it accepts, in
either direction, and a conversion changes the registry by one converter at most.
-/

namespace ScalarCall

open RuntimeClass

namespace SimpleType

/-- The default class is written in line, unless it is internal or a boxed form. -/
lemma inlineAffix?_defaultClass (t : SimpleType) (d : Direction)
    (hi : t.defaultClass ≠ t.internalClass) (hp : t.sharesPrimitive t.defaultClass = false) :
    (t.inlineAffix? d t.defaultClass).isSome = true := by
  cases t with
  | boolean | tinyint | smallint | int | bigint | float | double => exact absurd hp (by decide)
  | binary | varbinary => exact absurd rfl hi
  | decimal p s => cases d <;> rfl
  | char | varchar | date | time | timestamp | timestampLtz => cases d <;> rfl

lemma inlineAffix?_furtherClasses {t : SimpleType} {c : RuntimeClass} (d : Direction)
    (h : c ∈ t.furtherClasses) : (t.inlineAffix? d c).isSome = true := by
  cases t with
  | char | varchar | date | timestamp =>
    obtain rfl := List.mem_singleton.1 h
    cases d <;> rfl
  | time | timestampLtz =>
    obtain rfl | h := List.mem_cons.1 h
    · cases d <;> rfl
    obtain rfl | h := List.mem_cons.1 h
    · cases d <;> rfl
    obtain rfl := List.mem_singleton.1 h
    cases d <;> rfl
  | _ => exact absurd h List.not_mem_nil

/-- The tables of both directions have an entry for every accepted class that needs one. -/
lemma inlineAffix?_isSome {t : SimpleType} {c : RuntimeClass} (d : Direction)
    (h : t.accepts c = true) (hi : c ≠ t.internalClass) (hp : t.sharesPrimitive c = false) :
    (t.inlineAffix? d c).isSome = true := by
  rcases accepts_iff.1 h with rfl | rfl | h | h
  · exact absurd rfl hi
  · exact t.inlineAffix?_defaultClass d hi hp
  · rw [hp] at h
    exact absurd h Bool.false_ne_true
  · exact inlineAffix?_furtherClasses d h

end SimpleType

/-- Types of parts, and types whose values have no form that the generated code could write. -/
def SqlType.isStructured : SqlType → Bool
  | .null | .raw .. | .array .. | .map .. | .row .. => true
  | .simple .. => false

namespace BridgedType

variable {b : BridgedType} {d : Direction}

lemma isIdentity_eq_false_iff :
    b.isIdentity = false ↔ b.runtimeClass ≠ b.type.internalClass ∧
      ∀ t n, b.type = .simple t n → t.sharesPrimitive b.runtimeClass = false := by
  unfold isIdentity isInternal
  cases h : b.type <;> simp

lemma conversion?_eq_none_iff : b.conversion? d = none ↔ b.isSupported = false := by
  unfold conversion?
  split
  · next h => simpa using h
  next hs =>
  rw [Bool.not_eq_true, Bool.not_eq_false'] at hs
  split
  · simp [hs]
  next hi =>
  rw [Bool.not_eq_true, isIdentity_eq_false_iff] at hi
  split
  · next t n ht =>
    -- an accepted class has an entry, so that the table never refuses
    have h : t.accepts b.runtimeClass = true := by
      rw [isSupported, ht] at hs
      exact hs
    rw [ht] at hi
    have := t.inlineAffix?_isSome d h hi.1 (hi.2 t n rfl)
    rw [Option.map_eq_none_iff, hs, ← Option.not_isSome_iff_eq_none]
    simp [this]
  · simp [hs]

lemma conversion?_eq_registered_iff : b.conversion? d = some .registered ↔
    b.isSupported = true ∧ b.isIdentity = false ∧ b.type.isStructured = true := by
  unfold conversion?
  cases b.isSupported <;> cases b.isIdentity <;> cases b.type <;> simp [SqlType.isStructured]

/-- A conversion is refused for what is not accepted, and for nothing else. -/
lemma run_convert_of_not_supported (h : b.isSupported = false) (d : Direction) (term : String)
    (r : Registry) : (b.convert d term).run.run r = (.error (.unsupported b), r) := by
  rw [run_convert, run_affix, conversion?_eq_none_iff.2 h]

lemma run_convert_of_supported (h : b.isSupported = true) (d : Direction) (term : String)
    (r : Registry) :
    ∃ text, (b.convert d term).run.run r =
      (.ok text, if b.isIdentity = false ∧ b.type.isStructured = true
        then ((converterField b).run r).2 else r) := by
  have hr := conversion?_eq_registered_iff (b := b) (d := d)
  rw [run_convert, run_affix]
  cases hc : b.conversion? d with
  | none =>
    rw [conversion?_eq_none_iff.1 hc] at h
    exact absurd h Bool.false_ne_true
  | some c =>
    rw [hc] at hr
    cases c with
    | registered => exact ⟨_, by rw [if_pos (hr.1 rfl).2]⟩
    | identity | inline =>
      have hn : ¬ (b.isIdentity = false ∧ b.type.isStructured = true) := by
        intro hn
        cases hr.2 ⟨h, hn⟩
      rw [if_neg hn]
      exact ⟨_, rfl⟩

lemma exists_run_convert_iff (b : BridgedType) (d : Direction) (term : String) (r : Registry) :
    (∃ text, ((b.convert d term).run.run r).1 = .ok text) ↔ b.isSupported = true := by
  cases hs : b.isSupported with
  | false => simp [run_convert_of_not_supported hs]
  | true =>
    obtain ⟨text, hrun⟩ := run_convert_of_supported hs d term r
    simp [hrun]

lemma run_converterField_ne {r : Registry} (h : ((converterField b).run r).2 ≠ r) :
    r.converterField? b = none ∧ ((converterField b).run r).2 =
      (r.withName r.newConverterField).withConverter b r.newConverterField := by
  rw [run_converterField] at h ⊢
  cases hb : r.converterField? b with
  | none => exact ⟨rfl, rfl⟩
  | some field =>
    rw [hb] at h
    exact absurd rfl h

/-- **Both directions convert exactly what is accepted**: no table of a direction refuses a class
that its type accepts. A conversion that fails leaves the registry as it was, and one that succeeds
can only register the converter of its own type, if the values have parts or no written form. -/
theorem convert_ok_iff_accepts (b : BridgedType) (d : Direction) (term : String) (r : Registry) :
    let outcome := ((b.convert d term).run.run r).1
    let after := ((b.convert d term).run.run r).2
    ((∃ text, outcome = .ok text) ↔ b.type.accepts b.runtimeClass = true) ∧
    (∀ e, outcome = .error e → e = .unsupported b ∧ after = r) ∧
    (∀ t n, b.type = .simple t n → b.isSupported = true → b.isIdentity = false →
      (t.inlineAffix? d b.runtimeClass).isSome = true) ∧
    (after ≠ r → b.type.isStructured = true ∧ b.isIdentity = false ∧
      r.converterField? b = none ∧
      after = (r.withName r.newConverterField).withConverter b r.newConverterField) := by
  intro outcome after
  have hinline : ∀ t n, b.type = .simple t n → b.isSupported = true → b.isIdentity = false →
      (t.inlineAffix? d b.runtimeClass).isSome = true := by
    intro t n ht hs hi
    rw [isIdentity_eq_false_iff, ht] at hi
    rw [isSupported, ht] at hs
    exact t.inlineAffix?_isSome d hs hi.1 (hi.2 t n rfl)
  cases hs : b.isSupported with
  | false =>
    have hrun := run_convert_of_not_supported hs d term r
    have ho : outcome = .error (.unsupported b) := congrArg Prod.fst hrun
    have hafter : after = r := congrArg Prod.snd hrun
    have hn : b.type.accepts b.runtimeClass = false := hs
    rw [hs] at hinline
    refine ⟨?_, ?_, hinline, fun hne => absurd hafter hne⟩
    · simp [ho, hn]
    · intro e he
      rw [ho] at he
      exact ⟨(Except.error.inj he).symm, hafter⟩
  | true =>
    obtain ⟨text, hrun⟩ := run_convert_of_supported hs d term r
    have ho : outcome = .ok text := congrArg Prod.fst hrun
    have hafter : after = if b.isIdentity = false ∧ b.type.isStructured = true
        then ((converterField b).run r).2 else r := congrArg Prod.snd hrun
    rw [hs] at hinline
    refine ⟨⟨fun _ => hs, fun _ => ⟨text, ho⟩⟩, ?_, hinline, ?_⟩
    · intro e he
      rw [ho] at he
      cases he
    · intro hne
      rw [hafter] at hne ⊢
      split at hne
      · next hn =>
        rw [if_pos hn]
        exact ⟨hn.2, hn.1, run_converterField_ne hne⟩
      · exact absurd rfl hne

end BridgedType

end ScalarCall

import Mathlib.Tactic.Common
import ScalarCall.SqlType.Classes

/-!
Primitives that stand for values of a type. Beside the one that holds a value internally there is
only `long`, as milliseconds of a time or of a point in time.
-/

namespace ScalarCall

lemma SimpleType.accepts_iff {t : SimpleType} {c : RuntimeClass} :
    t.accepts c = true ↔ c = t.internalClass ∨ c = t.defaultClass ∨ t.sharesPrimitive c = true ∨
      c ∈ t.furtherClasses := by
  simp [accepts, or_assoc]

namespace SqlType

def isTime : SqlType → Bool
  | simple (.time _) _ => true
  | _ => false

lemma exists_of_isTime {t : SqlType} (h : t.isTime = true) : ∃ p n, t = .simple (.time p) n := by
  unfold isTime at h
  split at h
  · exact ⟨_, _, rfl⟩
  · cases h

lemma exists_of_isTimestampLtz {t : SqlType} (h : t.isTimestampLtz = true) :
    ∃ p n, t = .simple (.timestampLtz p) n := by
  unfold isTimestampLtz at h
  split at h
  · exact ⟨_, _, rfl⟩
  · cases h

/-- Beside the internal primitive only `long` is accepted, for times and for points in time. -/
lemma primitive_of_accepts {t : SqlType} {p : Primitive} (h : t.accepts (.primitive p) = true) :
    t.primitive? = some p ∨ p = .long ∧ (t.isTime = true ∨ t.isTimestampLtz = true) := by
  cases t with
  | null | raw | array | map | row => cases h
  | simple t n =>
    rcases SimpleType.accepts_iff.1 h with h | h | h | h
    · cases t <;> cases h <;> exact .inl rfl
    · cases t <;> cases h
    · refine .inl ?_
      unfold SimpleType.sharesPrimitive at h
      split at h
      · next q k hq hk =>
        cases hk
        exact hq.trans (congrArg some (beq_iff_eq.1 h))
      · cases h
    · refine .inr ?_
      cases t with
      | time | timestampLtz =>
        rcases List.mem_cons.1 h with h | h
        · cases h
        rcases List.mem_cons.1 h with h | h
        · cases h
          simp [isTime, isTimestampLtz]
        · cases List.mem_singleton.1 h
      | char | varchar | date | timestamp => cases List.mem_singleton.1 h
      | _ => exact absurd h List.not_mem_nil

lemma isTimestampLtz_of_primitive? {t : SqlType} {p : Primitive} (h : t.primitive? = some p) :
    t.isTimestampLtz = false := by
  cases t with
  | simple t n => cases t <;> cases h <;> rfl
  | _ => cases h

/-- Dates, times and points in time: numbers can stand for them, but by default objects do. -/
def isTemporal : SqlType → Bool
  | simple .date _ | simple (.time _) _ | simple (.timestampLtz _) _ => true
  | _ => false

/-- A type that accepts a primitive has its boxed form for its default class, unless it is
temporal. -/
lemma defaultClass_eq_boxed_iff {t : SqlType} {p : Primitive}
    (h : t.accepts (.primitive p) = true) : t.defaultClass = .boxed p ↔ t.isTemporal = false := by
  have hp := primitive_of_accepts h
  cases t with
  | simple s n =>
    cases s with
    | boolean | tinyint | smallint | int | bigint | float | double =>
      rcases hp with hp | ⟨-, hp | hp⟩ <;> cases hp
      exact ⟨fun _ => rfl, fun _ => rfl⟩
    | decimal | char | varchar | binary | varbinary | timestamp =>
      rcases hp with hp | ⟨-, hp | hp⟩ <;> cases hp
    | date | time | timestampLtz =>
      simp [defaultClass, SimpleType.defaultClass, isTemporal, RuntimeClass.localDate,
        RuntimeClass.localTime, RuntimeClass.instant]
  | null | raw | array | map | row => cases h

end SqlType

end ScalarCall

import Mathlib.Tactic.Common
import ScalarCall.Literal
import ScalarCall.SqlType.Classes

/-!
Literals and what functions see for them. A literal that is of a type is seen with what it holds, as
a value of the type's default class; one that is not of the type is not seen at all.
-/

namespace ScalarCall

open Number

/-- What a literal holds, in whichever form. -/
inductive Payload
  | truth (value : Bool)
  | number (value : Int)
  | single (value : Binary32)
  | double (value : Binary64)
  | text (value : String)
  | bytes (value : List UInt8)
  | decimal (unscaled : Int) (scale : UInt8)

namespace Literal

/-- What a literal holds, unless it is null. The precision of a decimal is not part of its value. -/
def payload? : Literal → Option Payload
  | null => none
  | boolean v => some (.truth v)
  | int8 v => some (.number v.toInt)
  | int16 v => some (.number v.toInt)
  | int32 v | date32 v | time32 v => some (.number v.toInt)
  | int64 v | timestampMillis v => some (.number v.toInt)
  | float32 v => some (.single v)
  | float64 v => some (.double v)
  | utf8 v => some (.text v)
  | binary v => some (.bytes v)
  | decimal128 v _ s => some (.decimal v s)

/-- A literal that is not null is of a type, by its variant alone. -/
inductive IsOf : Literal → SqlType → Prop
  | boolean (v : Bool) (n : Bool) : IsOf (.boolean v) (.simple .boolean n)
  | tinyint (v : Int8) (n : Bool) : IsOf (.int8 v) (.simple .tinyint n)
  | smallint (v : Int16) (n : Bool) : IsOf (.int16 v) (.simple .smallint n)
  | int (v : Int32) (n : Bool) : IsOf (.int32 v) (.simple .int n)
  | bigint (v : Int64) (n : Bool) : IsOf (.int64 v) (.simple .bigint n)
  | float (v : Binary32) (n : Bool) : IsOf (.float32 v) (.simple .float n)
  | double (v : Binary64) (n : Bool) : IsOf (.float64 v) (.simple .double n)
  | decimal (v : Int) (p s q t : UInt8) (n : Bool) :
    IsOf (.decimal128 v p s) (.simple (.decimal q t) n)
  | char (v : String) (l : UInt32) (n : Bool) : IsOf (.utf8 v) (.simple (.char l) n)
  | varchar (v : String) (l : UInt32) (n : Bool) : IsOf (.utf8 v) (.simple (.varchar l) n)
  | binary (v : List UInt8) (l : UInt32) (n : Bool) : IsOf (.binary v) (.simple (.binary l) n)
  | varbinary (v : List UInt8) (l : UInt32) (n : Bool) : IsOf (.binary v) (.simple (.varbinary l) n)
  | date (v : Int32) (n : Bool) : IsOf (.date32 v) (.simple .date n)
  | time (v : Int32) (p : UInt8) (n : Bool) : IsOf (.time32 v) (.simple (.time p) n)
  | timestamp (v : Int64) (p : UInt8) (n : Bool) :
    IsOf (.timestampMillis v) (.simple (.timestamp p) n)
  | timestampLtz (v : Int64) (p : UInt8) (n : Bool) :
    IsOf (.timestampMillis v) (.simple (.timestampLtz p) n)

end Literal

namespace ExternalLiteral

/-- What a value holds, unless it is null. -/
def payload? : ExternalLiteral → Option Payload
  | null => none
  | boolean v => some (.truth v)
  | byte v => some (.number v.toInt)
  | short v => some (.number v.toInt)
  | int v | localDate v | localTime v => some (.number v.toInt)
  | long v | localDateTime v | instant v => some (.number v.toInt)
  | float v => some (.single v)
  | double v => some (.double v)
  | string v => some (.text v)
  | bytes v => some (.bytes v)
  | bigDecimal v s => some (.decimal v s)

def runtimeClass? : ExternalLiteral → Option RuntimeClass
  | null => none
  | boolean _ => some (.boxed .boolean)
  | byte _ => some (.boxed .byte)
  | short _ => some (.boxed .short)
  | int _ => some (.boxed .int)
  | long _ => some (.boxed .long)
  | float _ => some (.boxed .float)
  | double _ => some (.boxed .double)
  | string _ => some .text
  | bytes _ => some .byteArray
  | bigDecimal _ _ => some .bigDecimal
  | localDate _ => some .localDate
  | localTime _ => some .localTime
  | localDateTime _ => some .localDateTime
  | instant _ => some .instant

end ExternalLiteral

namespace Literal

variable {v : Literal} {t : SqlType} {x : ExternalLiteral}

/-- A literal of a type is seen with what it holds, in the default class of the type. -/
lemma IsOf.exists_external? (h : v.IsOf t) :
    ∃ x, v.external? t = some x ∧ x.payload? = v.payload? ∧
      x.runtimeClass? = some t.defaultClass := by
  cases h <;> exact ⟨_, rfl, rfl, rfl⟩

/-- Nothing else is seen, apart from null. -/
lemma isOf_of_external? (hv : v ≠ null) (h : v.external? t = some x) : v.IsOf t := by
  unfold external? at h
  split at h
  · exact absurd rfl hv
  all_goals first
    | constructor
    | cases h

lemma external?_eq_none_iff (hv : v ≠ null) : v.external? t = none ↔ ¬ v.IsOf t := by
  constructor
  · intro h hof
    obtain ⟨x, hx, -⟩ := hof.exists_external?
    rw [h] at hx
    cases hx
  · intro h
    cases hx : v.external? t with
    | none => rfl
    | some x => exact absurd (isOf_of_external? hv hx) h

end Literal

end ScalarCall

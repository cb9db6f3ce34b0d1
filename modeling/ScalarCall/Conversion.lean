import ScalarCall.Registry.Growth

/-!
Conversions between the internal form of a value and the class in which it is passed. A conversion
puts text before and after the term; which text depends on the type, the class and the direction,
and for types with parts on the field that holds their converter.
-/

namespace ScalarCall

open RuntimeClass

inductive Direction
  | toExternal | toInternal
deriving DecidableEq

/-- The text around a converted term. -/
structure Affix where
  before : String
  after : String
deriving DecidableEq

def Affix.around (a : Affix) (term : String) : String := a.before ++ term ++ a.after

def Affix.bare : Affix := ⟨"", ""⟩

def Affix.call (function : String) : Affix := ⟨function ++ "(", ")"⟩

/-- The call of a method of the term that takes nothing. -/
def Affix.method (name : String) : Affix := ⟨"", "." ++ name ++ "()"⟩

/-- How a conversion is written. -/
inductive Conversion
  /-- Both forms are the same, up to implicit boxing. -/
  | identity
  /-- Text around the term. -/
  | inline (affix : Affix)
  /-- Through a converter in a field. -/
  | registered
deriving DecidableEq

namespace SimpleType

def toExternal? (t : SimpleType) (c : RuntimeClass) : Option Affix :=
  match t with
  | char _ | varchar _ =>
    if c = RuntimeClass.text then some (.method "toString")
    else if c = byteArray then some (.method "toBytes") else none
  | decimal .. => some (.method "toBigDecimal")
  | date =>
    if c = localDate then some (.call "DateTimeUtils.toLocalDate")
    else if c = sqlDate then some (.call "DateTimeUtils.toSQLDate") else none
  | time _ =>
    if c = localTime then some (.call "DateTimeUtils.toLocalTime")
    else if c = sqlTime then some (.call "DateTimeUtils.toSQLTime")
    else if c.kind? = some .long then some ⟨"((long) ", ")"⟩ else none
  | timestamp _ =>
    if c = localDateTime then some (.method "toLocalDateTime")
    else if c = sqlTimestamp then some (.method "toTimestamp") else none
  | timestampLtz _ =>
    if c = instant then some (.method "toInstant")
    else if c = sqlTimestamp then some ⟨"java.sql.Timestamp.from(", ".toInstant())"⟩
    else if c.kind? = some .long then some (.method "getMillisecond") else none
  | _ => none

def toInternal? (t : SimpleType) (c : RuntimeClass) : Option Affix :=
  match t with
  | char _ | varchar _ =>
    if c = RuntimeClass.text then some (.call "StringData.fromString")
    else if c = byteArray then some (.call "StringData.fromBytes") else none
  | decimal p s =>
    some ⟨"DecimalData.fromBigDecimal(",
      ", " ++ toString p.toNat ++ ", " ++ toString s.toNat ++ ")"⟩
  | date => if c.kind? = none then some (.call "DateTimeUtils.toInternal") else none
  | time _ =>
    if c.kind? = none then some (.call "DateTimeUtils.toInternal")
    else if c.kind? = some .long then some ⟨"((int) ", ")"⟩ else none
  | timestamp _ =>
    if c = localDateTime then some (.call "TimestampData.fromLocalDateTime")
    else if c = sqlTimestamp then some (.call "TimestampData.fromTimestamp") else none
  | timestampLtz _ =>
    if c = instant then some (.call "TimestampData.fromInstant")
    else if c = sqlTimestamp then some ⟨"TimestampData.fromInstant(", ".toInstant())"⟩
    else if c.kind? = some .long then some (.call "TimestampData.fromEpochMillis") else none
  | _ => none

def inlineAffix? (d : Direction) (t : SimpleType) (c : RuntimeClass) : Option Affix :=
  match d with
  | .toExternal => t.toExternal? c
  | .toInternal => t.toInternal? c

end SimpleType

namespace BridgedType

/-- Whether both forms are the same, up to implicit boxing. -/
def isIdentity (b : BridgedType) : Bool :=
  b.isInternal ||
    match b.type with
    | .simple t _ => t.sharesPrimitive b.runtimeClass
    | _ => false

/-- How a type is converted to or from its class; not at all if it does not accept it. -/
def conversion? (b : BridgedType) (d : Direction) : Option Conversion :=
  if !b.isSupported then none
  else if b.isIdentity then some .identity
  else
    match b.type with
    | .simple t _ => (t.inlineAffix? d b.runtimeClass).map .inline
    | _ => some .registered

/-- The text around a term that the converter in a field converts. -/
def fieldAffix (b : BridgedType) (field : String) : Direction → Affix
  | .toExternal => ⟨"((" ++ b.runtimeClass.term ++ ") " ++ field ++ ".toExternal(", "))"⟩
  | .toInternal => ⟨"((" ++ b.type.internalClass.term ++ ") " ++ field ++ ".toInternal(", "))"⟩

/-- The text around a converted term; a converter that it needs is registered. -/
def affix (b : BridgedType) (d : Direction) : Generating Affix :=
  match b.conversion? d with
  | none => throw (.unsupported b)
  | some .identity => return .bare
  | some (.inline a) => return a
  | some .registered => do
    let field ← converterField b
    return b.fieldAffix field d

theorem run_affix (b : BridgedType) (d : Direction) (r : Registry) :
    (b.affix d).run.run r =
      match b.conversion? d with
      | none => (.error (.unsupported b), r)
      | some .identity => (.ok .bare, r)
      | some (.inline a) => (.ok a, r)
      | some .registered =>
        (.ok (b.fieldAffix ((converterField b).run r).1 d), ((converterField b).run r).2) := by
  unfold affix
  cases h : b.conversion? d with
  | none => rfl
  | some c => cases c <;> rfl

def convert (b : BridgedType) (d : Direction) (term : String) : Generating String := do
  let a ← b.affix d
  return a.around term

theorem run_convert (b : BridgedType) (d : Direction) (term : String) (r : Registry) :
    (b.convert d term).run.run r =
      match (b.affix d).run.run r with
      | (.error e, r) => (.error e, r)
      | (.ok a, r) => (.ok (a.around term), r) := by
  unfold convert
  rw [Generating.run_bind]
  rcases (b.affix d).run.run r with ⟨_ | _, _⟩ <;> rfl

theorem orderly_affix (b : BridgedType) (d : Direction) : (b.affix d).Orderly := by
  unfold affix
  cases b.conversion? d with
  | none => exact Generating.orderly_throw _
  | some c =>
    cases c with
    | identity | inline => exact Generating.orderly_pure _
    | registered =>
      exact Generating.orderly_bind
        (Generating.orderly_lift (Registering.orderly_converterField b))
        fun _ => Generating.orderly_pure _

theorem orderly_convert (b : BridgedType) (d : Direction) (term : String) :
    (b.convert d term).Orderly :=
  Generating.orderly_bind (b.orderly_affix d) fun _ => Generating.orderly_pure _

end BridgedType

/-- A set of conversions that calls can be generated with. What they do to the registry they do by
its own steps. -/
structure Converter where
  /-- Whether a type's values may be passed as a class. -/
  accepts : SqlType → RuntimeClass → Bool
  /-- The external form of a term. -/
  toExternal : BridgedType → String → Generating String
  /-- The internal form of a term. -/
  toInternal : BridgedType → String → Generating String
  /-- The value that a function sees for a literal. -/
  literal : Literal → SqlType → Except CallError ExternalLiteral
  orderly_toExternal : ∀ b term, (toExternal b term).Orderly
  orderly_toInternal : ∀ b term, (toInternal b term).Orderly

namespace Converter

def convert (cv : Converter) (b : BridgedType) : Direction → String → Generating String
  | .toExternal => cv.toExternal b
  | .toInternal => cv.toInternal b

theorem orderly_convert (cv : Converter) (b : BridgedType) (d : Direction) (term : String) :
    (cv.convert b d term).Orderly := by
  cases d with
  | toExternal => exact cv.orderly_toExternal b term
  | toInternal => exact cv.orderly_toInternal b term

/-- The value that a function sees for a literal; the literal has to be of the type. -/
def literalValue (v : Literal) (t : SqlType) : Except CallError ExternalLiteral :=
  match v.external? t with
  | some x => .ok x
  | none => .error (.notOfType v t)

def standard : Converter where
  accepts := SqlType.accepts
  toExternal b term := b.convert .toExternal term
  toInternal b term := b.convert .toInternal term
  literal := literalValue
  orderly_toExternal b term := b.orderly_convert .toExternal term
  orderly_toInternal b term := b.orderly_convert .toInternal term

/-- The same conversions under another rule of what may be passed. They still refuse what they
cannot convert. -/
def accepting (c : Converter) (accepts : SqlType → RuntimeClass → Bool) : Converter :=
  { c with accepts }

end Converter

end ScalarCall

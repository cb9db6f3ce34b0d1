/-!
SQL types. Simple types have no parts; arrays, maps and rows are made of other types; an opaque
type names the class of its values. Every type but the type of the null literal says whether its
values may be null.
-/

namespace ScalarCall

/-- The greatest length of a text or byte sequence. -/
def maxLength : UInt32 := 2147483647

inductive SimpleType
  | boolean | tinyint | smallint | int | bigint | float | double
  | decimal (precision scale : UInt8)
  | char (length : UInt32)
  | varchar (length : UInt32)
  | binary (length : UInt32)
  | varbinary (length : UInt32)
  | date
  | time (precision : UInt8)
  | timestamp (precision : UInt8)
  | timestampLtz (precision : UInt8)
deriving DecidableEq

/-- SQL types. The type of the null literal has no flag: it always admits null. -/
inductive SqlType
  | null
  | simple (type : SimpleType) (nullable : Bool)
  | raw (className : String) (nullable : Bool)
  | array (element : SqlType) (nullable : Bool)
  | map (key value : SqlType) (nullable : Bool)
  | row (fields : List (String × SqlType)) (nullable : Bool)

namespace SqlType

def string : SqlType := simple (.varchar maxLength) true

def bytes : SqlType := simple (.varbinary maxLength) true

def isNullable : SqlType → Bool
  | null => true
  | simple _ n | raw _ n | array _ n | map _ _ n | row _ n => n

/-- The same type with the given nullability, where it can have it. -/
def withNullable (nullable : Bool) : SqlType → SqlType
  | null => null
  | simple t _ => simple t nullable
  | raw c _ => raw c nullable
  | array e _ => array e nullable
  | map k v _ => map k v nullable
  | row fs _ => row fs nullable

def notNull (t : SqlType) : SqlType := t.withNullable false

/-- Points in time shown in the zone of the session. -/
def isTimestampLtz : SqlType → Bool
  | simple (.timestampLtz _) _ => true
  | _ => false

def isRaw : SqlType → Bool
  | raw .. => true
  | _ => false

@[simp] theorem withNullable_isNullable (t : SqlType) : t.withNullable t.isNullable = t := by
  cases t <;> rfl

/-! ### Induction and equality -/

/-- Induction over a type, the fields of a row at once. -/
@[induction_eliminator]
theorem induct {P : SqlType → Prop} (null : P null) (simple : ∀ t n, P (simple t n))
    (raw : ∀ c n, P (raw c n)) (array : ∀ e n, P e → P (array e n))
    (map : ∀ k v n, P k → P v → P (map k v n))
    (row : ∀ fs n, (∀ f ∈ fs, P f.2) → P (row fs n)) (t : SqlType) : P t :=
  SqlType.rec (motive_1 := P) (motive_2 := fun fs => ∀ f ∈ fs, P f.2) (motive_3 := fun f => P f.2)
    null simple raw array map row (fun _ h => nomatch h)
    (fun _ _ hf hfs g hg => (List.mem_cons.1 hg).elim (fun e => e ▸ hf) (hfs g))
    (fun _ _ h => h) t

mutual
/-- Equality of types is decided part by part. -/
def decEq : (a b : SqlType) → Decidable (a = b)
  | null, null => isTrue rfl
  | simple s m, simple t n => decidable_of_iff (s = t ∧ m = n) (by simp)
  | raw s m, raw t n => decidable_of_iff (s = t ∧ m = n) (by simp)
  | array e m, array f n =>
    have := decEq e f
    decidable_of_iff (e = f ∧ m = n) (by simp)
  | map k v m, map l w n =>
    have := decEq k l
    have := decEq v w
    decidable_of_iff (k = l ∧ v = w ∧ m = n) (by simp)
  | row fs m, row gs n =>
    have := decEqFields fs gs
    decidable_of_iff (fs = gs ∧ m = n) (by simp)
  | null, simple .. | null, raw .. | null, array .. | null, map .. | null, row ..
  | simple .., null | simple .., raw .. | simple .., array .. | simple .., map ..
  | simple .., row .. | raw .., null | raw .., simple .. | raw .., array .. | raw .., map ..
  | raw .., row .. | array .., null | array .., simple .. | array .., raw .. | array .., map ..
  | array .., row .. | map .., null | map .., simple .. | map .., raw .. | map .., array ..
  | map .., row .. | row .., null | row .., simple .. | row .., raw .. | row .., array ..
  | row .., map .. => isFalse nofun
def decEqFields : (a b : List (String × SqlType)) → Decidable (a = b)
  | [], [] => isTrue rfl
  | [], _ :: _ => isFalse nofun
  | _ :: _, [] => isFalse nofun
  | (m, s) :: fs, (n, t) :: gs =>
    have := decEq s t
    have := decEqFields fs gs
    decidable_of_iff (m = n ∧ s = t ∧ fs = gs) (by simp [and_assoc])
end

instance : DecidableEq SqlType := decEq

end SqlType

end ScalarCall

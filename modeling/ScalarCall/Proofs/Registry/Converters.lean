import ScalarCall.Proofs.Conversion.Support

/-!
What conversions register. Those of types with parts go through a converter in a field, and types
without a field get one in the order in which they are needed. Nothing else about the registry
changes.
-/

namespace ScalarCall

/-- The conversion goes through a converter in a field. -/
def BridgedType.needsField (b : BridgedType) : Bool := b.type.isStructured && !b.isIdentity

namespace Registry

/-- The registry in which a type has a field, if its conversion needs one. -/
def provide (r : Registry) (b : BridgedType) : Registry :=
  if b.needsField then ((converterField b).run r).2 else r

def provideAll (r : Registry) (bs : List BridgedType) : Registry := bs.foldl provide r

/-- The types that need a field and have none, each once, in the order of the list. -/
def missing (r : Registry) (bs : List BridgedType) : List BridgedType :=
  (bs.filter fun b => b.needsField && (r.converterField? b).isNone).eraseDups

/-- The members for new types. Their fields are numbered on from the names given out so far. -/
def newMembers (r : Registry) (bs : List BridgedType) : List Member :=
  bs.mapIdx fun i b => .converter b (numbered r.settings.converterFieldHint (r.names.length + i))

/-- The second registry is the first one with converters for new types, and nothing more. -/
structure AddsConverters (r s : Registry) (bs : List BridgedType) : Prop where
  settings : s.settings = r.settings
  references : s.references = r.references
  functionFields : s.functionFields = r.functionFields
  closings : s.closings = r.closings
  locals : s.locals = r.locals
  names : s.names = r.names ++ (r.newMembers bs).map Member.field
  converters : s.converters = r.converters ++ bs
  converterFields :
    s.converterFields = r.converterFields ++ bs.zip ((r.newMembers bs).map Member.field)
  declarations : s.declarations = r.declarations ++ (r.newMembers bs).map Member.declaration
  initializations : s.initializations = r.initializations ++ (r.newMembers bs).mapIdx fun i m =>
    m.initialization "converters" (r.converters.length + i)
  openings : s.openings = r.openings ++ (r.newMembers bs).map Member.opening

variable {r s : Registry} {b : BridgedType} {bs : List BridgedType}

def withNewConverter (r : Registry) (b : BridgedType) : Registry :=
  (r.withName r.newConverterField).withConverter b r.newConverterField

lemma provide_of_new (hb : b.needsField = true) (new : r.converterField? b = none) :
    r.provide b = r.withNewConverter b := by
  rw [provide, if_pos hb, run_converterField, new]
  rfl

lemma provide_of_known {field : String} (h : r.converterField? b = some field) :
    r.provide b = r := by
  rw [provide, run_converterField, h]
  exact ite_self r

lemma provide_of_not_needsField (h : b.needsField = false) : r.provide b = r := by
  rw [provide, h]
  rfl

lemma isNone_converterField?_withNewConverter (r : Registry) (b c : BridgedType) :
    ((r.withNewConverter b).converterField? c).isNone =
      ((r.converterField? c).isNone && !(c == b)) := by
  show ((r.converterFields ++ [(b, r.newConverterField)]).lookup c).isNone = _
  rw [List.lookup_append, converterField?]
  cases h : c == b <;> simp [List.lookup_cons, h]

lemma newMembers_cons (r : Registry) (b : BridgedType) (bs : List BridgedType) :
    r.newMembers (b :: bs) =
      .converter b r.newConverterField :: (r.withNewConverter b).newMembers bs := by
  have hlen : (r.withNewConverter b).names.length = r.names.length + 1 := by
    simp [withNewConverter, withConverter, withStatements, withName]
  have hset : (r.withNewConverter b).settings = r.settings := rfl
  simp only [newMembers, List.mapIdx_cons, hlen, hset, Nat.add_right_comm _ 1, Nat.add_zero,
    ← Nat.add_assoc]
  rfl

lemma missing_cons_of_new (hb : b.needsField = true) (new : r.converterField? b = none)
    (bs : List BridgedType) : r.missing (b :: bs) = b :: (r.withNewConverter b).missing bs := by
  have hp : (b.needsField && (r.converterField? b).isNone) = true := by simp [hb, new]
  simp only [missing, List.filter_cons, hp, ↓reduceIte, List.eraseDups_cons, List.filter_filter,
    isNone_converterField?_withNewConverter]
  congr 3
  funext c
  rw [Bool.and_comm, Bool.and_assoc]

lemma missing_cons_of_not (h : (b.needsField && (r.converterField? b).isNone) = false)
    (bs : List BridgedType) : r.missing (b :: bs) = r.missing bs := by
  simp only [missing, List.filter_cons, h, Bool.false_eq_true, ↓reduceIte]

lemma AddsConverters.refl (r : Registry) : r.AddsConverters r [] := by
  constructor <;> simp [newMembers]

lemma AddsConverters.cons (h : (r.withNewConverter b).AddsConverters s bs) :
    r.AddsConverters s (b :: bs) where
  settings := h.settings
  references := h.references
  functionFields := h.functionFields
  closings := by
    rw [h.closings]
    exact List.append_nil _
  locals := h.locals
  names := by
    rw [h.names, newMembers_cons]
    exact List.append_assoc _ _ _
  converters := by
    rw [h.converters]
    exact List.append_assoc _ _ _
  converterFields := by
    rw [h.converterFields, newMembers_cons]
    exact List.append_assoc _ _ _
  declarations := by
    rw [h.declarations, newMembers_cons]
    exact List.append_assoc _ _ _
  initializations := by
    have hlen : (r.withNewConverter b).converters.length = r.converters.length + 1 := by
      simp [withNewConverter, withConverter, withName]
    rw [h.initializations, newMembers_cons, List.mapIdx_cons]
    simp only [hlen, Nat.add_right_comm _ 1, ← Nat.add_assoc]
    exact List.append_assoc _ _ _
  openings := by
    rw [h.openings, newMembers_cons]
    exact List.append_assoc _ _ _

/-- **Providing for types adds the converters that are missing, in order, and nothing else.** -/
theorem addsConverters_provideAll (r : Registry) (bs : List BridgedType) :
    r.AddsConverters (r.provideAll bs) (r.missing bs) := by
  induction bs generalizing r with
  | nil => exact .refl r
  | cons b bs ih =>
    have hcons : r.provideAll (b :: bs) = (r.provide b).provideAll bs := rfl
    rw [hcons]
    cases hb : b.needsField with
    | false =>
      rw [provide_of_not_needsField hb, missing_cons_of_not (by rw [hb, Bool.false_and])]
      exact ih r
    | true =>
      cases hf : r.converterField? b with
      | none =>
        rw [provide_of_new hb hf, missing_cons_of_new hb hf]
        exact (ih _).cons
      | some field =>
        rw [provide_of_known hf, missing_cons_of_not (by simp [hf])]
        exact ih r

end Registry

end ScalarCall

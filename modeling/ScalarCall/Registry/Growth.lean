import ScalarCall.Registry

/-!
What can become of a registry. It grows by four kinds of steps only; a computation that changes the
registry by nothing else is called orderly, whether it succeeds or fails.
-/

namespace ScalarCall

namespace Registry

/-- The registries that a registry grows into. A function and a converter are added only where
there is none for the identifier or the type. -/
inductive GrowsTo (r : Registry) : Registry → Prop
  | refl : GrowsTo r r
  | name {s : Registry} (hint : String) (h : GrowsTo r s) : GrowsTo r (s.withName (s.nextName hint))
  | localVariable {s : Registry} (typeTerm hint : String) (h : GrowsTo r s) :
    GrowsTo r ((s.withName (s.nextName hint)).withLocal ⟨typeTerm, s.nextName hint⟩)
  | function {s : Registry} (f : FunctionRef) (h : GrowsTo r s)
    (new : s.functionField? f.identifier = none) :
    GrowsTo r ((s.withName (s.newFunctionField f)).withFunction f (s.newFunctionField f))
  | converter {s : Registry} (b : BridgedType) (h : GrowsTo r s)
    (new : s.converterField? b = none) :
    GrowsTo r ((s.withName s.newConverterField).withConverter b s.newConverterField)

theorem GrowsTo.trans {r s t : Registry} (h : r.GrowsTo s) (k : s.GrowsTo t) : r.GrowsTo t := by
  induction k with
  | refl => exact h
  | name hint _ ih => exact ih.name hint
  | localVariable typeTerm hint _ ih => exact ih.localVariable typeTerm hint
  | function f _ new ih => exact ih.function f new
  | converter b _ new ih => exact ih.converter b new

end Registry

variable {α β : Type}

/-- The computation changes the registry by steps of growth only. -/
def Registering.Orderly (m : Registering α) : Prop := ∀ r : Registry, r.GrowsTo (m.run r).2

/-- The computation changes the registry by steps of growth only, even if it fails. -/
def Generating.Orderly (m : Generating α) : Prop := ∀ r : Registry, r.GrowsTo (m.run.run r).2

/-- The computation takes every registry to a related one, even if it fails. -/
def Generating.Relates (R : Registry → Registry → Prop) (m : Generating α) : Prop :=
  ∀ r : Registry, R r (m.run.run r).2

namespace Registering

theorem Orderly.growsTo {m : Registering α} (hm : m.Orderly) {r s : Registry} {a : α}
    (h : m.run r = (a, s)) : r.GrowsTo s := by
  have hg := hm r
  rwa [h] at hg

theorem orderly_pure (a : α) : Orderly (pure a) := fun _ => .refl

theorem orderly_bind {m : Registering α} {f : α → Registering β} (hm : Orderly m)
    (hf : ∀ a, Orderly (f a)) : Orderly (m >>= f) :=
  fun r => (hm r).trans (hf _ _)

theorem orderly_get_bind {f : Registry → Registering α} (hf : ∀ s, Orderly (f s)) :
    Orderly (get >>= f) :=
  fun r => hf r r

theorem orderly_freshName (hint : String) : Orderly (freshName hint) := fun _ => .name hint .refl

theorem orderly_declareLocal (typeTerm hint : String) : Orderly (declareLocal typeTerm hint) :=
  fun _ => .localVariable typeTerm hint .refl

theorem orderly_functionField (f : FunctionRef) : Orderly (functionField f) := by
  intro r
  rw [run_functionField]
  cases h : r.functionField? f.identifier with
  | none => exact .function f .refl h
  | some field => exact .refl

theorem orderly_converterField (b : BridgedType) : Orderly (converterField b) := by
  intro r
  rw [run_converterField]
  cases h : r.converterField? b with
  | none => exact .converter b .refl h
  | some field => exact .refl

end Registering

namespace Generating

/-! ### Relations that computations keep to -/

section

variable {R : Registry → Registry → Prop} {m : Generating α} {f : α → Generating β}

theorem Relates.of_run (h : m.Relates R) {r s : Registry} {x : Except CallError α}
    (hrun : m.run.run r = (x, s)) : R r s := by
  have hr := h r
  rwa [hrun] at hr

theorem relates_pure (hrefl : ∀ r, R r r) (a : α) : Relates R (pure a) := fun r => hrefl r

theorem relates_throw (hrefl : ∀ r, R r r) (e : CallError) :
    Relates R (throw e : Generating α) :=
  fun r => hrefl r

/-- A second step goes on from where a first one ends, unless that fails. -/
theorem relates_bind (htrans : ∀ r s t, R r s → R s t → R r t) (hm : m.Relates R)
    (hf : ∀ a, (f a).Relates R) : (m >>= f).Relates R := by
  intro r
  have h := hm r
  rw [run_bind]
  generalize m.run.run r = x at h ⊢
  rcases x with ⟨_ | a, s⟩
  · exact h
  · exact htrans _ _ _ h (hf a s)

theorem relates_get_bind {f : Registry → Generating α} (hf : ∀ s, (f s).Relates R) :
    (get >>= f).Relates R :=
  fun r => hf r r

end

theorem Orderly.growsTo {m : Generating α} (hm : m.Orderly) {r s : Registry}
    {x : Except CallError α} (h : m.run.run r = (x, s)) : r.GrowsTo s :=
  Relates.of_run hm h

theorem orderly_pure (a : α) : Orderly (pure a) := relates_pure (fun _ => .refl) a

theorem orderly_throw (e : CallError) : Orderly (throw e : Generating α) :=
  relates_throw (fun _ => .refl) e

theorem orderly_lift {m : Registering α} (hm : m.Orderly) : Orderly (liftM m : Generating α) := hm

theorem orderly_ofExcept (x : Except CallError α) : Orderly (liftM x : Generating α) :=
  fun _ => .refl

theorem orderly_bind {m : Generating α} {f : α → Generating β} (hm : Orderly m)
    (hf : ∀ a, Orderly (f a)) : Orderly (m >>= f) :=
  relates_bind (fun _ _ _ h k => h.trans k) hm hf

theorem orderly_get_bind {f : Registry → Generating α} (hf : ∀ s, Orderly (f s)) :
    Orderly (get >>= f) :=
  relates_get_bind hf

end Generating

end ScalarCall

import ScalarCall.Proofs.Registry.Names

/-!
A registry as the record of the names that it gave out. Each name goes to a local variable, to the
field of a function or of a converter, or to nothing that the registry keeps; and what a registry
grows into is what these steps make of it, one after the other.
-/

namespace ScalarCall.Registry

/-- A name with what it is given to. A loose name is used in code but kept nowhere. -/
inductive Mint
  | loose (name : String)
  | localVariable (v : LocalVariable)
  | function (f : FunctionRef) (field : String)
  | converter (b : BridgedType) (field : String)

namespace Mint

def name : Mint → String
  | loose x | function _ x | converter _ x => x
  | localVariable v => v.name

def looseNames : Mint → List String
  | loose x => [x]
  | _ => []

def locals : Mint → List LocalVariable
  | localVariable v => [v]
  | _ => []

def functionFields : Mint → List (String × String)
  | function f x => [(f.identifier, x)]
  | _ => []

def converterFields : Mint → List (BridgedType × String)
  | converter b x => [(b, x)]
  | _ => []

end Mint

def mint (r : Registry) : Mint → Registry
  | .loose x => r.withName x
  | .localVariable v => (r.withName v.name).withLocal v
  | .function f x => (r.withName x).withFunction f x
  | .converter b x => (r.withName x).withConverter b x

def mintAll (r : Registry) (ms : List Mint) : Registry := ms.foldl mint r

variable {r s t : Registry} {ms ns : List Mint}

lemma mintAll_append (r : Registry) (ms ns : List Mint) :
    r.mintAll (ms ++ ns) = (r.mintAll ms).mintAll ns :=
  List.foldl_append

/-- All growth is by names that are given out. -/
theorem GrowsTo.exists_mintAll (h : r.GrowsTo s) : ∃ ms, s = r.mintAll ms := by
  have step : ∀ {u : Registry} (m : Mint), (∃ ms, u = r.mintAll ms) →
      ∃ ms, u.mint m = r.mintAll ms := by
    rintro u m ⟨ms, rfl⟩
    exact ⟨ms ++ [m], (r.mintAll_append ms [m]).symm⟩
  induction h with
  | refl => exact ⟨[], rfl⟩
  | name hint _ ih => exact step (.loose _) ih
  | localVariable typeTerm hint _ ih => exact step (.localVariable ⟨typeTerm, _⟩) ih
  | function f _ _ ih => exact step (.function f _) ih
  | converter b _ _ ih => exact step (.converter b _) ih

/-- A list of the registry that each name lengthens by a part of its own is lengthened by all of
these parts. -/
lemma view_mintAll {α : Type} (view : Registry → List α) (part : Mint → List α)
    (h : ∀ r m, view (r.mint m) = view r ++ part m) (r : Registry) (ms : List Mint) :
    view (r.mintAll ms) = view r ++ ms.flatMap part := by
  induction ms generalizing r with
  | nil => simp [mintAll]
  | cons m ms ih =>
    have hcons : r.mintAll (m :: ms) = (r.mint m).mintAll ms := rfl
    rw [hcons, ih, h, List.flatMap_cons, List.append_assoc]

lemma names_mintAll (r : Registry) (ms : List Mint) :
    (r.mintAll ms).names = r.names ++ ms.map Mint.name := by
  rw [List.map_eq_flatMap]
  exact view_mintAll names _ (fun r m => by cases m <;> rfl) r ms

lemma mint_views (r : Registry) (m : Mint) :
    (r.mint m).locals = r.locals ++ m.locals ∧
    (r.mint m).functionFields = r.functionFields ++ m.functionFields ∧
    (r.mint m).converterFields = r.converterFields ++ m.converterFields := by
  cases m <;> simp [mint, withName, withLocal, withFunction, withConverter, withStatements,
    Mint.locals, Mint.functionFields, Mint.converterFields]

lemma locals_mintAll (r : Registry) (ms : List Mint) :
    (r.mintAll ms).locals = r.locals ++ ms.flatMap Mint.locals :=
  view_mintAll locals _ (fun r m => (r.mint_views m).1) r ms

lemma functionFields_mintAll (r : Registry) (ms : List Mint) :
    (r.mintAll ms).functionFields = r.functionFields ++ ms.flatMap Mint.functionFields :=
  view_mintAll functionFields _ (fun r m => (r.mint_views m).2.1) r ms

lemma converterFields_mintAll (r : Registry) (ms : List Mint) :
    (r.mintAll ms).converterFields = r.converterFields ++ ms.flatMap Mint.converterFields :=
  view_mintAll converterFields _ (fun r m => (r.mint_views m).2.2) r ms

/-- Every name goes to one thing. -/
lemma perm_names (ms : List Mint) :
    ((ms.flatMap Mint.functionFields).map Prod.snd ++
      (ms.flatMap Mint.converterFields).map Prod.snd ++
      (ms.flatMap Mint.locals).map LocalVariable.name ++ ms.flatMap Mint.looseNames).Perm
      (ms.map Mint.name) := by
  rw [List.perm_iff_count]
  intro x
  induction ms with
  | nil => simp
  | cons m ms ih =>
    simp only [List.count_append] at ih ⊢
    cases m <;> simp [Mint.name, Mint.functionFields, Mint.converterFields, Mint.locals,
      Mint.looseNames, List.count_cons, ← ih] <;> omega

end ScalarCall.Registry

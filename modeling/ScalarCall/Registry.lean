import ScalarCall.Call.Error
import ScalarCall.Settings.Basic

/-!
The registry of one generated class: the functions and converters that it holds in fields, the
local variables of its method, and a supply of names. A function is registered once for each
identifier and a converter once for each type.
-/

namespace ScalarCall

/-- An instance of a function that the class is given. -/
structure FunctionRef where
  identifier : String
  className : String
deriving DecidableEq

inductive Member
  | function (ref : FunctionRef) (field : String)
  | converter (type : BridgedType) (field : String)
deriving DecidableEq

structure LocalVariable where
  typeTerm : String
  name : String
deriving DecidableEq

/-- The state of one generated class. What a new field adds to it is kept in several lists side by
side: the given instance, the field under which it is found, and the statements about the field. -/
structure Registry where
  settings : Settings := {}
  /-- The names given out, in order. -/
  names : List String := []
  /-- The functions that the class is given, in order. -/
  references : List FunctionRef := []
  /-- The types whose converters the class is given, in order. -/
  converters : List BridgedType := []
  /-- The fields of functions, by identifier. -/
  functionFields : List (String × String) := []
  /-- The fields of converters, by type. -/
  converterFields : List (BridgedType × String) := []
  /-- The declarations of the fields. -/
  declarations : List String := []
  /-- The statements that fill the fields. -/
  initializations : List String := []
  /-- The statements that open the fields. -/
  openings : List String := []
  /-- The statements that close the fields. -/
  closings : List String := []
  /-- The local variables, in the order of their declaration. -/
  locals : List LocalVariable := []
deriving DecidableEq

def converterClass : String := "DataStructureConverter"

/-- An identifier with an underscore for every character that a name cannot hold. -/
def nameOf (identifier : String) : String :=
  .ofList (identifier.toList.map fun c => if c.isAlphanum then c else '_')

namespace Member

def field : Member → String
  | function _ f | converter _ f => f

def className : Member → String
  | function r _ => r.className
  | converter .. => converterClass

def function? : Member → Option FunctionRef
  | function r _ => some r
  | converter .. => none

def converter? : Member → Option BridgedType
  | function .. => none
  | converter b _ => some b

def declaration (m : Member) : String :=
  "private transient " ++ m.className ++ " " ++ m.field ++ ";"

/-- The statement that fills the field from one of the two arrays that the class is given. -/
def initialization (m : Member) (array : String) (index : Nat) : String :=
  m.field ++ " = ((" ++ m.className ++ ") " ++ array ++ "[" ++ toString index ++ "]);"

def opening : Member → String
  | function _ f => f ++ ".open(functionContext);"
  | converter _ f => f ++ ".open(classLoader);"

/-- The statement that closes what the field holds. Converters are not closed. -/
def closing? : Member → Option String
  | function _ f => some (f ++ ".close();")
  | converter .. => none

end Member

namespace Registry

def functionField? (r : Registry) (identifier : String) : Option String :=
  r.functionFields.lookup identifier

def converterField? (r : Registry) (b : BridgedType) : Option String := r.converterFields.lookup b

def localDeclarations (r : Registry) : List String :=
  r.locals.map fun v => v.typeTerm ++ " " ++ v.name ++ ";"

def lines (statements : List String) : String := "\n".intercalate statements

def numbered (hint : String) (n : Nat) : String := hint ++ "$" ++ toString n

/-- The name that a hint leads to: the hint, and the number of names given out so far. -/
def nextName (r : Registry) (hint : String) : String := numbered hint r.names.length

def withName (r : Registry) (name : String) : Registry := { r with names := r.names ++ [name] }

/-- The registry with the statements about one more field, which is filled from a place of one of
the two arrays. -/
def withStatements (r : Registry) (m : Member) (array : String) (index : Nat) : Registry :=
  { r with
    declarations := r.declarations ++ [m.declaration]
    initializations := r.initializations ++ [m.initialization array index]
    openings := r.openings ++ [m.opening]
    closings := r.closings ++ m.closing?.toList }

def withFunction (r : Registry) (f : FunctionRef) (field : String) : Registry :=
  { r.withStatements (.function f field) "references" r.references.length with
    references := r.references ++ [f]
    functionFields := r.functionFields ++ [(f.identifier, field)] }

def withConverter (r : Registry) (b : BridgedType) (field : String) : Registry :=
  { r.withStatements (.converter b field) "converters" r.converters.length with
    converters := r.converters ++ [b]
    converterFields := r.converterFields ++ [(b, field)] }

def withLocal (r : Registry) (v : LocalVariable) : Registry := { r with locals := r.locals ++ [v] }

def newFunctionField (r : Registry) (f : FunctionRef) : String :=
  r.nextName (r.settings.functionFieldHint ++ nameOf f.identifier)

def newConverterField (r : Registry) : String := r.nextName r.settings.converterFieldHint

end Registry

/-! ### Steps -/

/-- A step that changes the registry and cannot fail. -/
abbrev Registering := StateM Registry

/-- A step that changes the registry and may fail. What it registered before it failed stays. -/
abbrev Generating := ExceptT CallError (StateM Registry)

def freshName (hint : String) : Registering String := do
  let name := (← get).nextName hint
  modify (·.withName name)
  return name

/-- Declares a local variable under a fresh name. -/
def declareLocal (typeTerm hint : String) : Registering String := do
  let name ← freshName hint
  modify (·.withLocal ⟨typeTerm, name⟩)
  return name

/-- The field of a function, which is registered if its identifier is new. -/
def functionField (f : FunctionRef) : Registering String := do
  let r ← get
  match r.functionField? f.identifier with
  | some field => return field
  | none =>
    let field := r.newFunctionField f
    set ((r.withName field).withFunction f field)
    return field

/-- The field of the converter of a type, which is registered if the type is new. -/
def converterField (b : BridgedType) : Registering String := do
  let r ← get
  match r.converterField? b with
  | some field => return field
  | none =>
    let field := r.newConverterField
    set ((r.withName field).withConverter b field)
    return field

theorem run_freshName (hint : String) (r : Registry) :
    (freshName hint).run r = (r.nextName hint, r.withName (r.nextName hint)) := rfl

theorem run_functionField (f : FunctionRef) (r : Registry) :
    (functionField f).run r =
      match r.functionField? f.identifier with
      | some field => (field, r)
      | none =>
        (r.newFunctionField f,
          (r.withName (r.newFunctionField f)).withFunction f (r.newFunctionField f)) := by
  unfold functionField
  cases h : r.functionField? f.identifier <;> simp [h] <;> rfl

theorem run_converterField (b : BridgedType) (r : Registry) :
    (converterField b).run r =
      match r.converterField? b with
      | some field => (field, r)
      | none =>
        (r.newConverterField,
          (r.withName r.newConverterField).withConverter b r.newConverterField) := by
  unfold converterField
  cases h : r.converterField? b <;> simp [h] <;> rfl

namespace Generating

variable {α β : Type}

theorem run_ofExcept (x : Except CallError α) (r : Registry) :
    (liftM x : Generating α).run.run r = (x, r) := rfl

theorem run_lift (m : Registering α) (r : Registry) :
    (liftM m : Generating α).run.run r = (.ok (m.run r).1, (m.run r).2) := rfl

theorem run_get_bind (f : Registry → Generating α) (r : Registry) :
    (get >>= f).run.run r = (f r).run.run r := rfl

/-- A second step starts where a first one ends, unless that fails. -/
theorem run_bind (m : Generating α) (f : α → Generating β) (r : Registry) :
    (m >>= f).run.run r =
      match m.run.run r with
      | (.error e, s) => (.error e, s)
      | (.ok a, s) => (f a).run.run s := by
  rw [ExceptT.run_bind, StateT.run_bind]
  rcases m.run.run r with ⟨_ | _, _⟩ <;> rfl

/-- Two steps give a result only if both do. -/
theorem run_bind_eq_ok {m : Generating α} {f : α → Generating β} {r t : Registry} {b : β} :
    (m >>= f).run.run r = (.ok b, t) ↔
      ∃ a s, m.run.run r = (.ok a, s) ∧ (f a).run.run s = (.ok b, t) := by
  rw [run_bind]
  rcases m.run.run r with ⟨e | a, s⟩
  · exact ⟨nofun, nofun⟩
  · constructor
    · exact fun h => ⟨a, s, rfl, h⟩
    · rintro ⟨_, _, ⟨⟩, h⟩
      exact h

end Generating

end ScalarCall

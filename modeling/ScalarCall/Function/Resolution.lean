import ScalarCall.Call.Error
import ScalarCall.Function.Basic

/-!
Which signature of a function takes given operands. Every parameter has a score; the signature
with the greatest sum is taken, and of several the one declared first.
-/

namespace ScalarCall

/-- A signature expanded to one parameter for each operand. -/
structure Resolved where
  parameters : List RuntimeClass
  result : RuntimeClass
deriving DecidableEq

/-- How well a class takes an operand: not at all, or a number. An operand that excludes null
prefers a primitive, and one that admits it prefers its default class. -/
def parameterScore? (t : SqlType) (c : RuntimeClass) : Option Nat :=
  if c = .anyObject then some 0
  else if !t.accepts c then none
  else if c.isPrimitive then some (if t.isNullable then 1 else 3)
  else if c = t.defaultClass then some (if t.isNullable then 3 else 2)
  else some 1

def totalScore? : List SqlType → List RuntimeClass → Option Nat
  | t :: ts, c :: cs =>
    match parameterScore? t c, totalScore? ts cs with
    | some m, some n => some (m + n)
    | _, _ => none
  | _, _ => some 0

/-- A signature expanded to operands of the given types, and its score, if it takes them. -/
def Overload.candidate? (m : Overload) (types : List SqlType) : Option (Nat × Resolved) :=
  (m.expand? types.length).bind fun parameters =>
    (totalScore? types parameters).map fun score => (score, ⟨parameters, m.result⟩)

/-- The one of two candidates with the greater score, the first of two equal ones. -/
def betterOf (best next : Option (Nat × Resolved)) : Option (Nat × Resolved) :=
  match best, next with
  | some b, some n => if b.1 < n.1 then some n else some b
  | some b, none => some b
  | none, n => n

def bestCandidate? (overloads : List Overload) (types : List SqlType) : Option (Nat × Resolved) :=
  (overloads.map (·.candidate? types)).foldl betterOf none

/-- A rule that picks the signature of a function for operands of given types. -/
abbrev Resolver := Function → List SqlType → Except NoOverload Resolved

def resolve : Resolver := fun f types =>
  match bestCandidate? f.overloads types with
  | some (_, m) => .ok m
  | none => .error ⟨f.identifier, types, f.overloads⟩

structure Signature where
  parameters : List RuntimeClass
  types : List BridgedType
  result : RuntimeClass
deriving DecidableEq

/-- The type of a parameter that a function says nothing about: the operand's own, or if that does
not accept the class, or every class would do, what the class stands for. -/
def parameterType (c : RuntimeClass) (operand : SqlType) : BridgedType :=
  if c ≠ .anyObject && operand.accepts c then ⟨operand, c⟩ else .ofClass c

def Signature.of (f : Function) (m : Resolved) (operands : List SqlType) : Signature :=
  { parameters := m.parameters
    types := (f.parameterTypes m.parameters).getD (List.zipWith parameterType m.parameters operands)
    result := m.result }

end ScalarCall

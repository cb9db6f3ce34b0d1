import Mathlib.Tactic.Lemma
import ScalarCall.Session

/-!
Everything that a session is asked for makes its registry grow by the registry's own steps, also
when it fails half way.
-/

namespace ScalarCall

open Generating

namespace Converter

variable (cv : Converter)

section

variable {R : Registry → Registry → Prop} (hrefl : ∀ r, R r r)
  (htrans : ∀ r s t, R r s → R s t → R r t) (hcv : ∀ b term, (cv.toExternal b term).Relates R)

include hrefl htrans hcv

/-- All that an argument does to the registry is what its conversion does. -/
lemma relates_argument (operand : Expression) (c : RuntimeClass) (declared : BridgedType) :
    (cv.argument operand c declared).Relates R := by
  unfold argument
  split
  · exact relates_pure hrefl _
  · refine relates_bind htrans (hcv _ _) fun _ => ?_
    exact relates_get_bind fun _ => relates_pure hrefl _

lemma relates_argumentList (operands : List Expression) (classes : List RuntimeClass)
    (types : List BridgedType) : (cv.argumentList operands classes types).Relates R := by
  fun_induction argumentList cv operands classes types with
  | case1 e es c cs b bs ih =>
    refine relates_bind htrans (cv.relates_argument hrefl htrans hcv e c b) fun _ => ?_
    exact relates_bind htrans ih fun _ => relates_pure hrefl _
  | case2 => exact relates_pure hrefl _

lemma relates_arguments (operands : List Expression) (classes : List RuntimeClass)
    (types : List BridgedType) : (cv.arguments operands classes types).Relates R := by
  unfold arguments
  dsimp only
  split
  · exact fun r => hrefl r
  · split
    · exact fun r => hrefl r
    · exact cv.relates_argumentList hrefl htrans hcv operands classes types

end

lemma orderly_argumentList (operands : List Expression) (classes : List RuntimeClass)
    (types : List BridgedType) : (cv.argumentList operands classes types).Orderly :=
  cv.relates_argumentList (fun _ => .refl) (fun _ _ _ h k => h.trans k) cv.orderly_toExternal
    operands classes types

theorem orderly_arguments (operands : List Expression) (classes : List RuntimeClass)
    (types : List BridgedType) : (cv.arguments operands classes types).Orderly :=
  cv.relates_arguments (fun _ => .refl) (fun _ _ _ h k => h.trans k) cv.orderly_toExternal
    operands classes types

end Converter

theorem Computation.orderly_unbox (t : SqlType) (input : String) : (unbox t input).Orderly := by
  unfold unbox
  refine Registering.orderly_get_bind fun s => ?_
  refine Registering.orderly_bind (Registering.orderly_declareLocal _ _) fun result => ?_
  split
  · refine Registering.orderly_bind (Registering.orderly_declareLocal _ _) fun indicator => ?_
    exact Registering.orderly_pure _
  · exact Registering.orderly_pure _

namespace CallGenerator

variable (g : CallGenerator)

lemma orderly_primitiveBlock (arguments : List Expression) (returnType : SqlType)
    (c : RuntimeClass) : (g.primitiveBlock arguments returnType c).Orderly := by
  unfold primitiveBlock
  refine Registering.orderly_bind (Registering.orderly_functionField _) fun field => ?_
  refine Registering.orderly_get_bind fun s => ?_
  exact Registering.orderly_bind (Registering.orderly_declareLocal _ _) fun _ =>
    Registering.orderly_pure _

lemma orderly_objectBlock (arguments : List Expression) (returnType : SqlType) (c : RuntimeClass)
    (external internal : String) :
    (g.objectBlock arguments returnType c external internal).Orderly := by
  unfold objectBlock
  refine Registering.orderly_bind (Registering.orderly_functionField _) fun field => ?_
  refine Registering.orderly_get_bind fun s => ?_
  refine Registering.orderly_bind (Registering.orderly_declareLocal _ _) fun kept => ?_
  exact Registering.orderly_bind (Computation.orderly_unbox _ _) fun _ =>
    Registering.orderly_pure _

lemma orderly_invoke (arguments : List Expression) (types : List SqlType) (returnType : SqlType)
    (c : RuntimeClass) (folded : List (Option ExternalLiteral)) :
    (g.invoke arguments types returnType c folded).Orderly := by
  unfold invoke
  split
  · exact orderly_lift (g.orderly_primitiveBlock _ _ _)
  · refine orderly_get_bind fun s => ?_
    refine orderly_bind (orderly_lift (Registering.orderly_freshName _)) fun external => ?_
    refine orderly_bind (g.converter.orderly_toInternal _ _) fun internal => ?_
    exact orderly_lift (g.orderly_objectBlock _ _ _ _ _)

theorem orderly_block (operands : List Expression) (returnType : SqlType) :
    (g.block operands returnType).Orderly := by
  unfold block
  refine orderly_bind (orderly_ofExcept _) fun signature => ?_
  refine orderly_bind (orderly_ofExcept _) fun folded => ?_
  refine orderly_bind (g.converter.orderly_arguments _ _ _) fun arguments => ?_
  exact g.orderly_invoke _ _ _ _ _

end CallGenerator

theorem Request.orderly_perform (q : Request) : q.perform.Orderly := by
  cases q with
  | name hint =>
    exact orderly_bind (orderly_lift (Registering.orderly_freshName hint)) fun _ => orderly_pure _
  | localVariable typeTerm hint =>
    exact orderly_bind (orderly_lift (Registering.orderly_declareLocal typeTerm hint)) fun _ =>
      orderly_pure _
  | function ref =>
    exact orderly_bind (orderly_lift (Registering.orderly_functionField ref)) fun _ =>
      orderly_pure _
  | converter b =>
    exact orderly_bind (orderly_lift (Registering.orderly_converterField b)) fun _ =>
      orderly_pure _
  | convertBy cv b d term =>
    exact orderly_bind (cv.orderly_convert b d term) fun _ => orderly_pure _
  | argumentsBy cv operands classes types =>
    exact orderly_bind (cv.orderly_arguments operands classes types) fun _ => orderly_pure _
  | present t term => exact orderly_pure _
  | unbox t term =>
    exact orderly_bind (orderly_lift (Computation.orderly_unbox t term)) fun _ => orderly_pure _
  | generate g operands returnType =>
    exact orderly_bind (g.orderly_block operands returnType) fun _ => orderly_pure _

namespace Registry

theorem growsTo_perform (r : Registry) (q : Request) : r.GrowsTo (r.perform q).2 :=
  q.orderly_perform r

theorem growsTo_after (r : Registry) (qs : List Request) : r.GrowsTo (r.after qs) := by
  induction qs generalizing r with
  | nil => exact .refl
  | cons q qs ih => exact (r.growsTo_perform q).trans (ih _)

end Registry

end ScalarCall

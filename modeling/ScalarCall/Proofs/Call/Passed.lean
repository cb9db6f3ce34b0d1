import ScalarCall.Proofs.Call.Targets
import ScalarCall.Proofs.Conversion.Around

/-!
What is passed for operands. There is one argument for each, and it differs from its operand in the
term alone. A parameter of an opaque type takes every operand; one of any other type that does not
accept its own class takes none, and the first of these is reported.
-/

namespace ScalarCall

open Registry

/-- The type that an operand is converted from, in the class that it is converted to. An opaque
parameter leaves the type to the operand, and the class too if the operand cannot be passed in its
own. -/
inductive PassedFrom (declared : BridgedType) (operand : SqlType) : BridgedType → Prop
  | declared (hd : declared.type.isRaw = false) : PassedFrom declared operand declared
  | bridged (hd : declared.type.isRaw = true)
    (ha : operand.accepts declared.runtimeClass = true) :
    PassedFrom declared operand ⟨operand, declared.runtimeClass⟩
  | byDefault (hd : declared.type.isRaw = true)
    (ha : operand.accepts declared.runtimeClass = false) :
    PassedFrom declared operand ⟨operand, operand.defaultClass⟩

/-- The term that is passed for an operand, with the converters of a registry. A primitive is passed
as it is, or as milliseconds if it is a point in time; an object is converted, and guarded by the
operand's null term if nulls are tracked. -/
inductive Passes (r : Registry) (e : Expression) (c : RuntimeClass) (b : BridgedType) :
    String → Prop
  | asIs (hc : c.isPrimitive = true)
    (hm : ¬ (e.type.isTimestampLtz = true ∧ c = .primitive .long)) : Passes r e c b e.term
  | millis (ht : e.type.isTimestampLtz = true) (hc : c = .primitive .long) :
    Passes r e c b (e.term ++ ".getMillisecond()")
  | converted {t : BridgedType} {text : String} (hc : c.isPrimitive = false)
    (source : PassedFrom b e.type t)
    (hrun : (t.convert .toExternal e.term).run.run r = (.ok text, r)) :
    Passes r e c b
      (if r.settings.nullCheck then e.nullTerm ++ " ? null : (" ++ text ++ ")" else text)

/-- No operand can be passed to a parameter of the class and the type. -/
def takesNothing (c : RuntimeClass) (b : BridgedType) : Bool :=
  !c.isPrimitive && !b.type.isRaw && !b.type.accepts b.runtimeClass

def firstRefused? (cs : List RuntimeClass) (bs : List BridgedType) : Option BridgedType :=
  ((cs.zip bs).find? fun p => takesNothing p.1 p.2).map Prod.snd

variable {c : RuntimeClass} {b : BridgedType} {cs : List RuntimeClass} {bs : List BridgedType}
  {e : Expression} {es args : List Expression} {r s m : Registry} {term : String}

lemma firstRefused?_cons_of_pos (h : takesNothing c b = true) :
    firstRefused? (c :: cs) (b :: bs) = some b := by
  simp [firstRefused?, h]

lemma firstRefused?_cons_of_neg (h : takesNothing c b = false) :
    firstRefused? (c :: cs) (b :: bs) = firstRefused? cs bs := by
  simp [firstRefused?, h]

lemma Passes.mono (h : Passes r e c b term) (hs : r.GrowsTo s) : Passes s e c b term := by
  cases h with
  | asIs hc hm => exact .asIs hc hm
  | millis ht hc => exact .millis ht hc
  | converted hc source hrun =>
    rw [← hs.settings_eq]
    exact .converted hc source (BridgedType.run_convert_of_growsTo hrun hs)

namespace Converter

lemma target_of_not_isRaw (hd : b.type.isRaw = false) (t : SqlType) : standard.target b t = b := by
  have hg : b.isGeneric = false := hd
  unfold target
  rw [hg]
  rfl

lemma passedFrom_target (b : BridgedType) (t : SqlType) : PassedFrom b t (standard.target b t) := by
  cases hd : b.type.isRaw with
  | false =>
    rw [target_of_not_isRaw hd]
    exact .declared hd
  | true =>
    have hg : b.isGeneric = true := hd
    unfold target
    rw [hg, accepts_standard]
    cases ha : t.accepts b.runtimeClass with
    | true => exact .bridged hd ha
    | false => exact .byDefault hd ha

/-- A parameter that takes anything at all has a conversion for every operand. -/
lemma isSupported_target_of_takes (hc : c.isPrimitive = false) (h : takesNothing c b = false)
    (t : SqlType) : (standard.target b t).isSupported = true := by
  have hsource := passedFrom_target b t
  generalize standard.target b t = source at hsource
  cases hsource with
  | declared hd =>
    have hb : b.type.accepts b.runtimeClass = true := by simpa [takesNothing, hc, hd] using h
    exact hb
  | bridged hd ha => exact ha
  | byDefault hd ha => exact t.accepts_defaultClass

/-- A primitive is passed without its registry being looked at. -/
lemma exists_passes_asMillis (hc : c.isPrimitive = true) (e : Expression) (b : BridgedType)
    (r : Registry) : ∃ term, e.asMillis c = e.withTerm term ∧ Passes r e c b term := by
  unfold Expression.asMillis
  by_cases hm : e.type.isTimestampLtz = true ∧ c = .primitive .long
  · obtain ⟨ht, rfl⟩ := hm
    refine ⟨e.term ++ ".getMillisecond()", ?_, .millis ht rfl⟩
    have hdot : "." ++ millisecondAccessor = ".getMillisecond()" := rfl
    rw [if_pos (by simp [ht]), String.append_assoc, hdot]
  · refine ⟨e.term, ?_, .asIs hc hm⟩
    rw [if_neg (by simpa using hm)]
    rfl

lemma exists_passes_of_takes (h : takesNothing c b = false) (e : Expression) (r : Registry) :
    ∃ term m, (standard.argument e c b).run.run r = (.ok (e.withTerm term), m) ∧
      Passes m e c b term := by
  cases hc : c.isPrimitive with
  | true =>
    obtain ⟨term, hterm, hpasses⟩ := exists_passes_asMillis hc e b r
    refine ⟨term, r, ?_, hpasses⟩
    rw [run_argument_of_primitive _ hc, hterm]
  | false =>
    have hs := isSupported_target_of_takes hc h e.type
    obtain ⟨text, ht⟩ := BridgedType.run_convert_provides hs .toExternal e.term r
    have hexternal : (standard.toExternal (standard.target b e.type) e.term).run.run r = _ := ht
    refine ⟨_, _, ?_, .converted hc (passedFrom_target b e.type)
      (BridgedType.run_convert_of_growsTo ht .refl)⟩
    rw [run_argument_of_object _ hc, Expression.asMillis_of_object hc, hexternal]
    rfl

lemma run_argument_of_takesNothing (h : takesNothing c b = true) (e : Expression) (r : Registry) :
    (standard.argument e c b).run.run r = (.error (.unsupported b), r) := by
  simp only [takesNothing, Bool.and_eq_true, Bool.not_eq_true'] at h
  obtain ⟨⟨hc, hd⟩, ha⟩ := h
  have ht := target_of_not_isRaw hd e.type
  have hs : (standard.target b e.type).isSupported = false := by
    rw [ht]
    exact ha
  rw [run_argument_of_not_supported hc hs, ht]

/-! ### Lists of operands -/

lemma run_argumentList_of_firstRefused? (hc : cs.length = es.length) (hb : bs.length = es.length)
    (h : firstRefused? cs bs = some b) (r : Registry) :
    ∃ s, (standard.argumentList es cs bs).run.run r = (.error (.unsupported b), s) := by
  induction es generalizing cs bs r with
  | nil =>
    obtain rfl := List.length_eq_zero_iff.1 hc
    cases h
  | cons e es ih =>
    obtain ⟨c, cs, rfl⟩ := List.exists_cons_of_length_eq_add_one hc
    obtain ⟨b', bs, rfl⟩ := List.exists_cons_of_length_eq_add_one hb
    rw [run_argumentList_cons]
    cases ht : takesNothing c b' with
    | true =>
      rw [firstRefused?_cons_of_pos ht] at h
      cases h
      rw [run_argument_of_takesNothing ht]
      exact ⟨r, rfl⟩
    | false =>
      rw [firstRefused?_cons_of_neg ht] at h
      obtain ⟨term, m, ha, -⟩ := exists_passes_of_takes ht e r
      obtain ⟨s, hs⟩ := ih (Nat.succ.inj hc) (Nat.succ.inj hb) h m
      rw [ha]
      dsimp only
      rw [hs]
      exact ⟨s, rfl⟩

lemma forall₂_passes_of_firstRefused? (hc : cs.length = es.length) (hb : bs.length = es.length)
    (h : firstRefused? cs bs = none) (r : Registry) :
    ∃ args s, (standard.argumentList es cs bs).run.run r = (.ok args, s) ∧
      List.Forall₂ (fun p a => ∃ term, a = Expression.withTerm p.1 term ∧
        Passes s p.1 p.2.1 p.2.2 term) (es.zip (cs.zip bs)) args := by
  induction es generalizing cs bs r with
  | nil =>
    obtain rfl := List.length_eq_zero_iff.1 hc
    obtain rfl := List.length_eq_zero_iff.1 hb
    exact ⟨[], r, rfl, .nil⟩
  | cons e es ih =>
    obtain ⟨c, cs, rfl⟩ := List.exists_cons_of_length_eq_add_one hc
    obtain ⟨b, bs, rfl⟩ := List.exists_cons_of_length_eq_add_one hb
    have ht : takesNothing c b = false := by
      by_contra ht
      rw [firstRefused?_cons_of_pos (by simpa using ht)] at h
      cases h
    rw [firstRefused?_cons_of_neg ht] at h
    obtain ⟨term, m, ha, hpasses⟩ := exists_passes_of_takes ht e r
    obtain ⟨args, s, hargs, hrest⟩ := ih (Nat.succ.inj hc) (Nat.succ.inj hb) h m
    have hms : m.GrowsTo s := (standard.orderly_argumentList es cs bs).growsTo hargs
    rw [run_argumentList_cons, ha]
    dsimp only
    rw [hargs]
    exact ⟨_, s, rfl, .cons ⟨term, rfl, hpasses.mono hms⟩ hrest⟩

/-- **What stands for operands in a call.** If there are not as many classes, or else types, as
operands, this is said and nothing is registered. Otherwise the first parameter is reported that
takes nothing; and if there is none, every operand gets its argument, in order, which differs from
it in the term alone. The converters that this needs, and only these, are registered by then. -/
theorem outcome_arguments (es : List Expression) (cs : List RuntimeClass) (bs : List BridgedType)
    (r : Registry) :
    let outcome := ((standard.arguments es cs bs).run.run r).1
    let after := ((standard.arguments es cs bs).run.run r).2
    let aligned := cs.length = es.length ∧ bs.length = es.length
    (∀ m n, outcome = .error (.arity m n) ↔
      n = es.length ∧ [cs.length, bs.length].find? (· ≠ es.length) = some m) ∧
    (¬ aligned → after = r) ∧
    (∀ b, outcome = .error (.unsupported b) ↔ aligned ∧ firstRefused? cs bs = some b) ∧
    (aligned → firstRefused? cs bs = none →
      ∃ args, outcome = .ok args ∧ args.length = es.length ∧
        List.Forall₂ (fun p a => ∃ term, a = Expression.withTerm p.1 term ∧
          Passes after p.1 p.2.1 p.2.2 term) (es.zip (cs.zip bs)) args ∧
        r.AddsConverters after (r.missing (standard.targets es cs bs))) := by
  intro outcome after aligned
  by_cases hc : cs.length = es.length
  · by_cases hb : bs.length = es.length
    · have hrun := run_arguments_of_length standard hc hb r
      cases h : firstRefused? cs bs with
      | some b =>
        obtain ⟨s, hs⟩ := run_argumentList_of_firstRefused? hc hb h r
        have ho : outcome = .error (.unsupported b) := congrArg Prod.fst (hrun.trans hs)
        simp [ho, hc, hb, aligned]
      | none =>
        obtain ⟨args, s, hs, hargs⟩ := forall₂_passes_of_firstRefused? hc hb h r
        have ho : outcome = .ok args := congrArg Prod.fst (hrun.trans hs)
        have ha : after = s := congrArg Prod.snd (hrun.trans hs)
        have hlen : args.length = es.length := by simpa [hc, hb] using hargs.length_eq.symm
        have hadds := addsConverters_of_run_arguments rfl (hrun.trans hs)
        simp [ho, ha, hc, hb, aligned, hargs, hlen, hadds]
    · have hrun := run_arguments_of_types_ne standard hc hb r
      have ho : outcome = .error (.arity bs.length es.length) := congrArg Prod.fst hrun
      have ha : after = r := congrArg Prod.snd hrun
      simp [ho, ha, hc, hb, aligned, and_comm, eq_comm]
  · have hrun := run_arguments_of_classes_ne standard hc bs r
    have ho : outcome = .error (.arity cs.length es.length) := congrArg Prod.fst hrun
    have ha : after = r := congrArg Prod.snd hrun
    simp [ho, ha, hc, aligned, and_comm, eq_comm]

end Converter

end ScalarCall

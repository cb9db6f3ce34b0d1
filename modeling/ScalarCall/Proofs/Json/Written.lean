import Mathlib.Tactic.Common
import ScalarCall.Json.Value

/-!
JSON texts that are read back as what they were written for: quoted strings, truth values, and
objects of what can be read back.
-/

namespace ScalarCall.Json

/-! ### Texts and tokens -/

/-- The text is read as the tokens, after whatever other tokens. -/
def Spells (cs : List Char) (ts : List Token) : Prop :=
  ∀ tokens, (Scan.mk tokens .nothing).run cs = some ⟨ts.reverse ++ tokens, .nothing⟩

variable {c : Char} {cs ds : List Char} {ts us : List Token}

lemma Spells.append (h : Spells cs ts) (k : Spells ds us) : Spells (cs ++ ds) (ts ++ us) := by
  intro tokens
  rw [Scan.run_append, h, Option.bind_some, k, List.reverse_append, List.append_assoc]

lemma tokens?_of_spells (h : Spells cs ts) : tokens? cs = some ts := by
  have hrun := h []
  unfold tokens? Scan.start
  rw [hrun]
  simp [Scan.finish]

lemma spells_space (h : isSpace c = true) : Spells [c] [] := by
  intro tokens
  simp [Scan.run, Scan.step, Scan.stepNothing, h]

lemma spells_leftBrace : Spells ['\x7b'] [.leftBrace] := fun _ => rfl
lemma spells_rightBrace : Spells ['\x7d'] [.rightBrace] := fun _ => rfl
lemma spells_comma : Spells [','] [.comma] := fun _ => rfl
lemma spells_colon : Spells [':'] [.colon] := fun _ => rfl

lemma spells_bool (b : Bool) :
    Spells (toString b).toList [if b then .true else .false] := by
  cases b <;> exact fun _ => rfl

/-! ### Quoted strings -/

/-- The part of a string that a character is read back as: control characters without a short
escape come back by number. -/
def itemOf (c : Char) : Item :=
  if (shortEscape? c).isNone && c.toNat < 0x20 then .unit c.toNat else .char c

lemma hexValue?_digitChar {n : ℕ} (h : n < 16) : hexValue? (Nat.digitChar n) = some n := by
  have hall : ∀ k : Fin 16, hexValue? (Nat.digitChar k) = some k.val := by decide
  exact hall ⟨n, h⟩

lemma run_quoteChar (tokens : List Token) (items : List Item) (c : Char) :
    (Scan.mk tokens (.string items)).run (quoteChar c) =
      some ⟨tokens, .string (itemOf c :: items)⟩ := by
  unfold quoteChar itemOf
  cases he : shortEscape? c with
  | some e =>
    unfold shortEscape? at he
    split_ifs at he <;> subst c <;> cases he <;> rfl
  | none =>
    by_cases hc : c.toNat < 0x20
    · have hhigh := hexValue?_digitChar (n := c.toNat / 16) (by omega)
      have hlow := hexValue?_digitChar (n := c.toNat % 16) (by omega)
      have hzero : hexValue? '0' = some 0 := rfl
      have hvalue : 16 * (c.toNat / 16) + c.toNat % 16 = c.toNat := Nat.div_add_mod _ _
      simp [hc, Scan.run, Scan.step, Scan.stepString, Scan.stepEscape, Scan.stepUnit, hhigh, hlow,
        hzero, hvalue]
    · have hquote : c ≠ '"' := by
        rintro rfl
        cases he
      have hslash : c ≠ '\\' := by
        rintro rfl
        cases he
      simp [hc, Scan.run, Scan.step, Scan.stepString, hquote, hslash]

lemma run_quoteChars (tokens : List Token) (items : List Item) (cs : List Char) :
    (Scan.mk tokens (.string items)).run (cs.flatMap quoteChar) =
      some ⟨tokens, .string ((cs.map itemOf).reverse ++ items)⟩ := by
  induction cs generalizing items with
  | nil => rfl
  | cons c cs ih =>
    rw [List.flatMap_cons, Scan.run_append, run_quoteChar, Option.bind_some, ih]
    simp

lemma spells_quote (s : String) : Spells (quote s) [.string (s.toList.map itemOf)] := by
  intro tokens
  have hopen : (Scan.mk tokens .nothing).run ['"'] = some ⟨tokens, .string []⟩ := rfl
  have hq : quote s = ['"'] ++ (s.toList.flatMap quoteChar ++ ['"']) := rfl
  rw [hq, Scan.run_append, hopen, Option.bind_some, Scan.run_append, run_quoteChars,
    Option.bind_some]
  simp [Scan.run, Scan.step, Scan.stepString, Scan.add]

/-- A unit that is half of no pair stands for itself. -/
lemma chars?_unit_cons {u : ℕ} (h : isHigh u = false) (l : isLow u = false) (items : List Item) :
    chars? (.unit u :: items) = (chars? items).map (Char.ofNat u :: ·) := by
  cases items with
  | nil => simp [chars?, h, l]
  | cons item items => cases item <;> simp [chars?, h, l]

lemma chars?_itemOf_cons (c : Char) (items : List Item) :
    chars? (itemOf c :: items) = (chars? items).map (c :: ·) := by
  unfold itemOf
  split_ifs with hc
  · have hlt : c.toNat < 0x20 := by simpa using (Bool.and_eq_true_iff.1 hc).2
    have hhigh : isHigh c.toNat = false := by simp [isHigh]; omega
    have hlow : isLow c.toNat = false := by simp [isLow]; omega
    rw [chars?_unit_cons hhigh hlow, Char.ofNat_toNat]
  · rw [chars?]

lemma chars?_map_itemOf (cs : List Char) : chars? (cs.map itemOf) = some cs := by
  induction cs with
  | nil => rfl
  | cons c cs ih => rw [List.map_cons, chars?_itemOf_cons, ih, Option.map_some]

lemma text?_map_itemOf (s : String) : text? (s.toList.map itemOf) = some s := by
  rw [text?, chars?_map_itemOf, Option.map_some, String.ofList_toList]

/-! ### Tokens and values -/

lemma Reading.run_append (r : Reading) (ts us : List Token) :
    r.run (ts ++ us) = (r.run ts).bind (·.run us) := by
  induction ts generalizing r with
  | nil => rfl
  | cons t ts ih =>
    simp only [List.cons_append, Reading.run]
    split
    · exact ih _
    · rfl

def Reads (ts : List Token) (v : Value) : Prop :=
  ∀ frames mayClose, (Reading.mk frames (.value mayClose)).run ts = some ⟨frames, .after v⟩

def Writes (cs : List Char) (v : Value) : Prop := ∃ ts, Spells cs ts ∧ Reads ts v

variable {v : Value}

lemma parse?_of_writes (h : Writes cs v) : parse? (.ofList cs) = some v := by
  obtain ⟨ts, hs, hr⟩ := h
  have hrun := hr [] false
  unfold parse? Reading.start
  rw [String.toList_ofList, tokens?_of_spells hs, Option.bind_some, hrun]
  rfl

lemma writes_bool (b : Bool) : Writes (toString b).toList (.bool b) :=
  ⟨_, spells_bool b, by cases b <;> exact fun _ _ => rfl⟩

lemma writes_quote (s : String) : Writes (quote s) (.string (s.toList.map itemOf)) :=
  ⟨_, spells_quote s, fun _ _ => rfl⟩

/-! ### Members of objects -/

/-- The text is a name, a colon and a value. -/
def WritesMember (cs : List Char) (name : List Item) (v : Value) : Prop :=
  ∃ ts, Spells cs (.string name :: .colon :: ts) ∧ Reads ts v

/-- The text is read, where a name is due, as the members that an object ends with. -/
def WritesMembers (cs : List Char) (members : List (List Item × Value)) : Prop :=
  ∃ ts, Spells cs ts ∧ ∀ frames mayClose before,
    (Reading.mk frames (.name mayClose before)).run ts =
      some ⟨frames, .after (.object (before.reverse ++ members))⟩

variable {name : List Item} {members : List (List Item × Value)}

lemma Reads.run_member (h : Reads ts v) (frames : List Frame) (mayClose : Bool)
    (before : List (List Item × Value)) (us : List Token) :
    (Reading.mk frames (.name mayClose before)).run (.string name :: .colon :: (ts ++ us)) =
      (Reading.mk (.object before name :: frames) (.after v)).run us := by
  have hvalue := h (.object before name :: frames) false
  change (Reading.mk (.object before name :: frames) (.value false)).run (ts ++ us) = _
  rw [Reading.run_append, hvalue, Option.bind_some]

lemma WritesMember.last (h : WritesMember cs name v) (hend : Spells ds [.rightBrace]) :
    WritesMembers (cs ++ ds) [(name, v)] := by
  obtain ⟨ts, hs, hr⟩ := h
  refine ⟨_, hs.append hend, fun frames mayClose before => ?_⟩
  rw [List.cons_append, List.cons_append, hr.run_member]
  simp [Reading.run, Reading.step, Reading.stepAfter]

lemma WritesMember.cons {es : List Char} (h : WritesMember cs name v) (hsep : Spells ds [.comma])
    (hrest : WritesMembers es members) :
    WritesMembers (cs ++ (ds ++ es)) ((name, v) :: members) := by
  obtain ⟨ts, hs, hr⟩ := h
  obtain ⟨us, hus, hread⟩ := hrest
  refine ⟨_, hs.append (hsep.append hus), fun frames mayClose before => ?_⟩
  rw [List.cons_append, List.cons_append, hr.run_member]
  have hcomma : (Reading.mk (.object before name :: frames) (.after v)).run ([.comma] ++ us) =
      (Reading.mk frames (.name false ((name, v) :: before))).run us := rfl
  rw [hcomma, hread]
  simp

lemma WritesMembers.object (h : WritesMembers cs members) (hopen : Spells ds [.leftBrace]) :
    Writes (ds ++ cs) (.object members) := by
  obtain ⟨ts, hs, hread⟩ := h
  exact ⟨_, hopen.append hs, fun frames _ => hread frames true []⟩

end ScalarCall.Json

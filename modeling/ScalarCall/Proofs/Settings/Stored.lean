import Mathlib.Data.List.Forall2
import ScalarCall.Proofs.Json.Written
import ScalarCall.Proofs.Settings.Valid

/-!
Stored settings are read back. Their text is an object with a member for each setting, on a line of
its own; every hint comes back as it was, even if it is none that a name could begin with, and only
then is it checked.
-/

namespace ScalarCall.Settings

open Json

/-! ### Members on lines -/

variable {cs : List Char} {v : Value}

lemma writesMember_storedLine (name : String) (h : Writes cs v) :
    WritesMember (storedLine (name, cs)) (name.toList.map itemOf) v := by
  obtain ⟨ts, hs, hr⟩ := h
  have hspace : Spells [' '] [] := spells_space rfl
  have hname := (hspace.append hspace).append (spells_quote name)
  have hvalue := (spells_colon.append hspace).append hs
  exact ⟨ts, by simpa [storedLine] using hname.append hvalue, hr⟩

/-- Members as they are read, their names still in parts. -/
def unnamed (members : List (String × Value)) : List (List Item × Value) :=
  members.map fun m => (m.1.toList.map itemOf, m.2)

lemma namedMembers?_unnamed (members : List (String × Value)) :
    namedMembers? (unnamed members) = some members := by
  induction members with
  | nil => rfl
  | cons m members ih =>
    have hstep : namedMembers? (unnamed (m :: members)) =
        ((text? (m.1.toList.map itemOf)).map (·, m.2)).bind fun n =>
          (namedMembers? (unnamed members)).map (n :: ·) := by
      unfold namedMembers? unnamed
      rw [List.map_cons, List.mapM_cons]
      exact congrArg _ (funext fun n => (Option.map_eq_bind ..).symm)
    rw [hstep, ih, text?_map_itemOf]
    rfl

lemma writesMembers_storedLines {lines : List (String × List Char)}
    {members : List (String × Value)}
    (h : List.Forall₂ (fun l m => l.1 = m.1 ∧ Writes l.2 m.2) lines members) (hne : lines ≠ []) :
    WritesMembers ([',', '\n'].intercalate (lines.map storedLine) ++ ['\n', '\x7d'])
      (unnamed members) := by
  have hbreak : Spells ['\n'] [] := spells_space rfl
  induction h with
  | nil => exact absurd rfl hne
  | @cons l m lines members hlm hrest ih =>
    obtain ⟨name, cs⟩ := l
    obtain ⟨_, v⟩ := m
    obtain ⟨rfl, hwrites⟩ := hlm
    have hmember := writesMember_storedLine name hwrites
    cases hrest with
    | nil => simpa [unnamed] using hmember.last (hbreak.append spells_rightBrace)
    | cons hlm' hrest' =>
      have hall := hmember.cons (spells_comma.append hbreak) (ih (List.cons_ne_nil _ _))
      simpa [unnamed, List.intercalate] using hall

/-! ### The members of settings -/

variable (s : Settings)

def hintValue (h : Hint) : Value := .string ((s.get h).toList.map itemOf)

def readMembers : List (String × Value) :=
  (nullCheckKey, .bool s.nullCheck) :: Hint.all.map fun h => (h.key, s.hintValue h)

lemma parse?_storedText : parse? s.storedText = some (.object (unnamed s.readMembers)) := by
  have hlines : List.Forall₂ (fun l m => l.1 = m.1 ∧ Writes l.2 m.2) s.storedMembers
      s.readMembers := by
    refine .cons ⟨rfl, writes_bool _⟩ ?_
    rw [List.forall₂_map_left_iff, List.forall₂_map_right_iff, List.forall₂_same]
    exact fun h _ => ⟨rfl, writes_quote _⟩
  have hbreak : Spells ['\n'] [] := spells_space rfl
  have hmembers := writesMembers_storedLines hlines (List.cons_ne_nil _ _)
  exact parse?_of_writes (hmembers.object (spells_leftBrace.append hbreak))

lemma valuesOf_nullCheckKey : valuesOf nullCheckKey s.readMembers = [.bool s.nullCheck] := rfl

lemma valuesOf_key (h : Hint) : valuesOf h.key s.readMembers = [s.hintValue h] := by
  cases h <;> rfl

/-- Each hint that is read replaces the one before by that of the stored settings. -/
lemma foldlM_readHints? (hs : List Hint) (t : Settings) :
    hs.foldlM (readHints? s.readMembers) t =
      some (hs.foldl (fun t h => t.set h (s.get h)) t) := by
  induction hs generalizing t with
  | nil => rfl
  | cons h hs ih =>
    have hread : readHints? s.readMembers t h = some (t.set h (s.get h)) := by
      unfold readHints?
      rw [valuesOf_key]
      simp only [hintValue, readHint?, text?_map_itemOf, Option.map_some]
    rw [List.foldlM_cons, hread, List.foldl_cons, ← ih]
    rfl

lemma get_foldl_set (hs : List Hint) (t : Settings) (k : Hint) :
    (hs.foldl (fun t h => t.set h (s.get h)) t).get k = if k ∈ hs then s.get k else t.get k := by
  induction hs generalizing t with
  | nil => simp
  | cons h hs ih =>
    rw [List.foldl_cons, ih, get_set]
    by_cases hk : k = h <;> simp [hk]

lemma nullCheck_foldl_set (hs : List Hint) (t : Settings) :
    (hs.foldl (fun t h => t.set h (s.get h)) t).nullCheck = t.nullCheck := by
  induction hs generalizing t with
  | nil => rfl
  | cons h hs ih => rw [List.foldl_cons, ih, nullCheck_set]

lemma ofMembers?_readMembers : ofMembers? s.readMembers = some s := by
  have hnull : readNullCheck? s.readMembers {} = some { nullCheck := s.nullCheck } := by
    unfold readNullCheck?
    rw [valuesOf_nullCheckKey]
  unfold ofMembers?
  rw [hnull]
  change Hint.all.foldlM (readHints? s.readMembers) { nullCheck := s.nullCheck } = some s
  rw [foldlM_readHints?]
  refine congrArg some (ext_get (nullCheck_foldl_set s _ _) fun k => ?_)
  rw [get_foldl_set, if_pos k.mem_all]

/-! ### Files and the check -/

lemma ofFile_toUTF8 (text : String) : ofFile (some text.toUTF8) = ofText text := by
  have hutf8 : String.fromUTF8? text.toUTF8 = some text := dif_pos text.isValidUTF8
  simp only [ofFile, hutf8]

/-- Settings that the check refuses have a hint that is no identifier, and the refusal has it. -/
lemma validate_cases :
    s.validate = .ok s ∨
      ∃ h, s.validate = .error (.notIdentifier h (s.get h)) ∧ isIdentifier (s.get h) = false := by
  unfold validate
  split
  · next h hfind =>
    have hbad := List.find?_some hfind
    exact .inr ⟨h, rfl, by simpa using hbad⟩
  · exact .inl rfl

/-- Stored settings are read as they were, whatever their hints are, and then checked. Loading their
text or their file gives the settings themselves or the refusal of a hint, quoted as it was. -/
theorem ofFile_storedText :
    (parse? s.storedText).bind ofValue? = some s ∧
      ofText s.storedText = s.validate ∧
      ofFile (some s.storedText.toUTF8) = s.validate ∧
      (s.validate = .ok s ∨
        ∃ h, s.validate = .error (.notIdentifier h (s.get h)) ∧
          isIdentifier (s.get h) = false) := by
  have hread : (parse? s.storedText).bind ofValue? = some s := by
    rw [parse?_storedText, Option.bind_some, ofValue?, namedMembers?_unnamed, Option.bind_some,
      ofMembers?_readMembers]
  have htext : ofText s.storedText = s.validate := by
    unfold ofText
    rw [hread]
  have hfile : ofFile (some s.storedText.toUTF8) = s.validate := by
    rw [ofFile_toUTF8, htext]
  exact ⟨hread, htext, hfile, validate_cases s⟩

end ScalarCall.Settings

import Mathlib.Data.List.DropRight
import Mathlib.Tactic.Common
import ScalarCall.Text.Blank

/-!
Trimmed texts. A text is trimmed if white space stands at neither end; trimming gives a trimmed
text, and gives back one that is. What is not white space stays in any case.
-/

namespace ScalarCall.Text

structure IsTrimmed (cs : List Char) : Prop where
  head : ∀ c ∈ cs.head?, isBlank c = false
  last : ∀ c ∈ cs.getLast?, isBlank c = false

lemma isTrimmed_nil : IsTrimmed [] := by
  constructor <;> rintro c ⟨⟩

/-- What stands between two texts does not matter to the ends. -/
lemma IsTrimmed.append {cs ds : List Char} (hc : IsTrimmed cs) (hd : IsTrimmed ds) (hcs : cs ≠ [])
    (hds : ds ≠ []) (separator : List Char) : IsTrimmed (cs ++ separator ++ ds) := by
  constructor
  · rw [List.append_assoc, List.head?_append_of_ne_nil _ hcs]
    exact hc.head
  · rw [List.getLast?_append_of_ne_nil _ hds]
    exact hd.last

lemma dropBlankEnd_eq (cs : List Char) : dropBlankEnd cs = cs.rdropWhile isBlank := rfl

lemma isTrimmed_trimChars (cs : List Char) : IsTrimmed (trimChars cs) := by
  unfold trimChars
  rw [dropBlankEnd_eq]
  set ds := cs.dropWhile isBlank with hds
  constructor
  · intro c hc
    -- dropping at the end leaves the first character, or nothing
    have hne : ds.rdropWhile isBlank ≠ [] := by
      intro h
      rw [h] at hc
      cases hc
    obtain ⟨rest, hrest⟩ := List.rdropWhile_prefix (p := isBlank) (l := ds)
    have hd : ds.head? = some c := by
      rw [← hrest, List.head?_append_of_ne_nil _ hne]
      exact hc
    have h := List.head?_dropWhile_not isBlank cs
    rw [← hds, hd] at h
    exact h
  · intro c hc
    obtain ⟨hne, rfl⟩ := List.mem_getLast?_eq_getLast hc
    simpa using List.rdropWhile_last_not isBlank ds hne

lemma trimChars_of_isTrimmed {cs : List Char} (h : IsTrimmed cs) : trimChars cs = cs := by
  unfold trimChars
  have hd : cs.dropWhile isBlank = cs := by
    rcases cs with _ | ⟨c, cs⟩
    · rfl
    · exact List.dropWhile_cons_of_neg (by simp [h.head c rfl])
  rw [hd, dropBlankEnd_eq, List.rdropWhile_eq_self_iff]
  intro hne
  simp [h.last _ (List.getLast?_eq_some_getLast hne)]

lemma trim_of_isTrimmed {s : String} (h : IsTrimmed s.toList) : trim s = s := by
  rw [trim, trimChars_of_isTrimmed h, String.ofList_toList]

lemma isTrimmed_trim (s : String) : IsTrimmed (trim s).toList := by
  rw [toList_trim]
  exact isTrimmed_trimChars _

lemma trim_eq_self_iff {s : String} : trim s = s ↔ IsTrimmed s.toList :=
  ⟨fun h => h ▸ isTrimmed_trim s, trim_of_isTrimmed⟩

/-! ### Visible characters -/

/-- The characters of a text that are not white space, in order. -/
def visible (cs : List Char) : List Char := cs.filter fun c => !isBlank c

@[simp] lemma visible_append (cs ds : List Char) : visible (cs ++ ds) = visible cs ++ visible ds :=
  List.filter_append cs ds

lemma visible_reverse (cs : List Char) : visible cs.reverse = (visible cs).reverse :=
  List.filter_reverse

lemma visible_dropWhile (cs : List Char) : visible (cs.dropWhile isBlank) = visible cs := by
  induction cs with
  | nil => rfl
  | cons c cs ih =>
    by_cases hc : isBlank c = true
    · rw [List.dropWhile_cons_of_pos hc, ih, visible, visible,
        List.filter_cons_of_neg (by simp [hc])]
    · rw [List.dropWhile_cons_of_neg hc]

/-- Nothing but white space is trimmed. -/
lemma visible_trimChars (cs : List Char) : visible (trimChars cs) = visible cs := by
  unfold trimChars dropBlankEnd
  rw [visible_reverse, visible_dropWhile, visible_reverse, List.reverse_reverse, visible_dropWhile]

end ScalarCall.Text

import Mathlib.Data.List.Nodup
import ScalarCall.Proofs.Text.Separated
import ScalarCall.Registry.Growth
import Std.Data.String.ToNat

/-!
The names that a registry gives out. Each ends in a number, the count of the names before it, so
that a name is never given out twice, whatever hints are asked for.
-/

namespace ScalarCall.Registry

/-! ### Numbers at the end of names -/

lemma isDigit_of_mem_repr {n : ℕ} {c : Char} (h : c ∈ n.repr.toList) : c.isDigit = true := by
  rw [Nat.toList_repr] at h
  exact Nat.isDigit_of_mem_toDigits (by omega) (by omega) h

/-- From the end, the number comes before the separator. -/
lemma reverse_numbered (hint : String) (n : ℕ) :
    (numbered hint n).toList.reverse = n.repr.toList.reverse ++ '$' :: hint.toList.reverse := by
  simp [numbered, toString]

/-- Names with different numbers differ, even if one hint ends in digits. -/
theorem numbered_inj {h k : String} {m n : ℕ} (e : numbered h m = numbered k n) : m = n := by
  have hdigits : ∀ i : ℕ, ∀ c ∈ i.repr.toList.reverse, c.isDigit = true := by
    intro i c hc
    exact isDigit_of_mem_repr (List.mem_reverse.1 hc)
  have hsep : ∀ x : List Char, ∀ c ∈ ('$' :: x).head?, c.isDigit = false := by
    rintro x c ⟨⟩
    rfl
  have he := congrArg (·.toList.reverse) e
  simp only [reverse_numbered] at he
  obtain ⟨hd, -⟩ := Text.append_inj_of_forall (hdigits m) (hdigits n) (hsep _) (hsep _) he
  exact Nat.repr_injective (String.toList_inj.1 (List.reverse_injective hd))

/-! ### Names given out between two registries -/

variable {r s t u : Registry} {x : String}

@[simp] lemma names_withName : (r.withName x).names = r.names ++ [x] := rfl
@[simp] lemma names_withLocal (v : LocalVariable) : (r.withLocal v).names = r.names := rfl

/-- The names that the second registry has given out since the first. -/
def minted (r s : Registry) : List String := s.names.drop r.names.length

lemma minted_eq (h : s.names = t.names) : minted r s = minted r t := by
  rw [minted, minted, h]

lemma minted_append (h : r.names <+: s.names) (k : s.names <+: t.names) :
    minted r t = minted r s ++ minted s t := by
  obtain ⟨xs, hs⟩ := h
  obtain ⟨ys, ht⟩ := k
  simp [minted, ← ht, ← hs]

lemma minted_withName (h : r.names <+: s.names) : minted r (s.withName x) = minted r s ++ [x] := by
  have hle := h.length_le
  rw [minted, names_withName, List.drop_append_of_le_length hle, minted]

/-- Every kind of growth gives out one name, made of some hint. -/
lemma GrowsTo.inductNames {P : Registry → Prop} (h : r.GrowsTo s) (refl : P r)
    (step : ∀ (s t : Registry) (hint : String), r.GrowsTo s →
      t.names = s.names ++ [s.nextName hint] → t.settings = s.settings → P s → P t) : P s := by
  induction h with
  | refl => exact refl
  | name hint h ih => exact step _ _ hint h rfl rfl ih
  | localVariable typeTerm hint h ih => exact step _ _ hint h rfl rfl ih
  | function f h new ih => exact step _ _ _ h rfl rfl ih
  | converter b h new ih => exact step _ _ _ h rfl rfl ih

theorem GrowsTo.settings_eq (h : r.GrowsTo s) : s.settings = r.settings := by
  refine h.inductNames (P := fun s => s.settings = r.settings) rfl ?_
  intro s t hint _ _ ht ih
  rw [ht, ih]

theorem GrowsTo.prefix_names (h : r.GrowsTo s) : r.names <+: s.names := by
  refine h.inductNames (P := fun s => r.names <+: s.names) (List.prefix_refl _) ?_
  intro s t hint _ ht _ ih
  rw [ht]
  exact ih.trans (List.prefix_append _ _)

/-- A name's number is its place among all names. -/
theorem GrowsTo.exists_numbered (h : r.GrowsTo s) (hx : x ∈ minted r s) :
    ∃ hint n, r.names.length ≤ n ∧ n < s.names.length ∧ x = numbered hint n := by
  refine h.inductNames (P := fun s => x ∈ minted r s →
    ∃ hint n, r.names.length ≤ n ∧ n < s.names.length ∧ x = numbered hint n) ?_ ?_ hx
  · intro hx
    simp [minted] at hx
  · intro s t hint hs ht _ ih hx
    have hle := hs.prefix_names.length_le
    have hlen : t.names.length = s.names.length + 1 := by simp [ht]
    rw [minted_eq (t := s.withName (s.nextName hint)) ht, minted_withName hs.prefix_names,
      List.mem_append, List.mem_singleton] at hx
    -- a name from before keeps its number; the new one is numbered by the length
    rcases hx with hx | rfl
    · obtain ⟨hint', n, hn, hn', rfl⟩ := ih hx
      exact ⟨hint', n, hn, by omega, rfl⟩
    · exact ⟨hint, s.names.length, hle, by omega, rfl⟩

theorem GrowsTo.nextName_notMem (h : r.GrowsTo s) (hint : String) :
    s.nextName hint ∉ minted r s := by
  intro hmem
  obtain ⟨hint', n, -, hn, he⟩ := h.exists_numbered hmem
  have := numbered_inj he
  omega

theorem GrowsTo.nodup_minted (h : r.GrowsTo s) : (minted r s).Nodup := by
  refine h.inductNames (P := fun s => (minted r s).Nodup) (by simp [minted]) ?_
  intro s t hint hs ht _ ih
  rw [minted_eq (t := s.withName (s.nextName hint)) ht, minted_withName hs.prefix_names]
  rw [← List.concat_eq_append]
  exact List.Nodup.concat (hs.nextName_notMem hint) ih

lemma minted_subset_right (h : s.names <+: t.names) : minted r s ⊆ minted r t := by
  obtain ⟨more, hmore⟩ := h
  intro x hx
  rw [minted, ← hmore, List.drop_append]
  exact List.mem_append_left _ hx

lemma minted_subset_left (h : r.names <+: s.names) : minted s t ⊆ minted r t :=
  (List.drop_sublist_drop_left t.names h.length_le).subset

/-- Steps one after the other give out different names. -/
theorem disjoint_minted (hrs : r.GrowsTo s) (hst : s.names.length ≤ t.names.length)
    (htu : t.GrowsTo u) : (minted r s).Disjoint (minted t u) := by
  intro x hx hx'
  obtain ⟨hint, m, -, hm, rfl⟩ := hrs.exists_numbered hx
  obtain ⟨hint', n, hn, -, he⟩ := htu.exists_numbered hx'
  have := numbered_inj he
  omega

end ScalarCall.Registry

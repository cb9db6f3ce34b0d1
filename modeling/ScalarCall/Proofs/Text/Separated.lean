import Mathlib.Tactic.Common

/-!
Where texts in a row end. A text ends before the first character that it cannot hold, and the items
of a list before a comma or what closes the list, so that all of them can be told from what follows.
-/

namespace ScalarCall.Text

/-- Two texts of characters of a kind, each before a character of another kind or at the end, are
the same if they begin alike. -/
lemma append_inj_of_forall {p : Char → Bool} {as bs x y : List Char} (ha : ∀ c ∈ as, p c = true)
    (hb : ∀ c ∈ bs, p c = true) (hx : ∀ c ∈ x.head?, p c = false) (hy : ∀ c ∈ y.head?, p c = false)
    (h : as ++ x = bs ++ y) : as = bs ∧ x = y := by
  have hstop : ∀ z : List Char, (∀ c ∈ z.head?, p c = false) → z.takeWhile p = [] := by
    intro z hz
    cases z with
    | nil => rfl
    | cons c z => simp [hz c rfl]
  have htake : as = bs := by
    have := congrArg (List.takeWhile p) h
    rw [List.takeWhile_append_of_pos ha, List.takeWhile_append_of_pos hb, hstop x hx, hstop y hy,
      List.append_nil, List.append_nil] at this
    exact this
  subst htake
  exact ⟨rfl, List.append_cancel_left h⟩

/-- Texts without a character are the same if that comes after both. -/
lemma append_cons_inj {c : Char} {as bs x y : List Char} (ha : c ∉ as) (hb : c ∉ bs)
    (h : as ++ c :: x = bs ++ c :: y) : as = bs ∧ x = y := by
  have hne : ∀ cs : List Char, c ∉ cs → ∀ d ∈ cs, (d != c) = true := by
    intro cs hc d hd
    exact bne_iff_ne.2 fun e => hc (e ▸ hd)
  obtain ⟨rfl, htail⟩ := append_inj_of_forall (hne as ha) (hne bs hb) (by simp) (by simp) h
  exact ⟨rfl, (List.cons.inj htail).2⟩

/-- What comes after an item: a comma and a space before the next one, or what closes the list. -/
inductive FollowsItem (close : Char) : List Char → Prop
  | next (x : List Char) : FollowsItem close (',' :: ' ' :: x)
  | last (x : List Char) : FollowsItem close (close :: x)

variable {α : Type} {f : α → List Char} {close : Char} {as bs : List α} {x y : List Char}

/-- What comes after the first item of a list: the other items and what closes it. -/
def afterFirst (f : α → List Char) (close : Char) : List α → List Char → List Char
  | [], x => close :: x
  | a :: as, x => ',' :: ' ' :: (f a ++ afterFirst f close as x)

lemma intercalate_cons_append (f : α → List Char) (close : Char) (a : α) (as : List α)
    (x : List Char) :
    [',', ' '].intercalate ((a :: as).map f) ++ close :: x = f a ++ afterFirst f close as x := by
  induction as generalizing a with
  | nil => simp [List.intercalate, afterFirst]
  | cons b as ih =>
    rw [afterFirst, ← ih b]
    simp [List.intercalate]

lemma followsItem_afterFirst (f : α → List Char) (close : Char) (as : List α) (x : List Char) :
    FollowsItem close (afterFirst f close as x) := by
  cases as with
  | nil => exact .last x
  | cons a as => exact .next _

/-- The items after the first can be told from what follows the list, if each can be told from what
follows it. -/
lemma afterFirst_inj (hclose : close ≠ ',')
    (hitem : ∀ a ∈ as, ∀ b ∈ bs, ∀ z w, FollowsItem close z → FollowsItem close w →
      f a ++ z = f b ++ w → a = b ∧ z = w)
    (h : afterFirst f close as x = afterFirst f close bs y) : as = bs ∧ x = y := by
  induction as generalizing bs with
  | nil =>
    cases bs with
    | nil => exact ⟨rfl, (List.cons.inj h).2⟩
    | cons b bs => exact absurd (List.cons.inj h).1 hclose
  | cons a as ih =>
    cases bs with
    | nil => exact absurd (List.cons.inj h).1.symm hclose
    | cons b bs =>
      have htail := (List.cons.inj (List.cons.inj h).2).2
      obtain ⟨rfl, hrest⟩ := hitem a List.mem_cons_self b List.mem_cons_self _ _
        (followsItem_afterFirst f close as x) (followsItem_afterFirst f close bs y) htail
      obtain ⟨rfl, hxy⟩ := ih
        (fun c hc d hd => hitem c (List.mem_cons_of_mem _ hc) d (List.mem_cons_of_mem _ hd)) hrest
      exact ⟨rfl, hxy⟩

/-- A list can be told from what follows it, if its items can be told from what follows these and
none of them begins with what closes the list. -/
theorem intercalate_append_inj (hclose : close ≠ ',')
    (hstart : ∀ a ∈ as ++ bs, ∀ z, (f a ++ z).head? ≠ some close)
    (hitem : ∀ a ∈ as, ∀ b ∈ bs, ∀ z w, FollowsItem close z → FollowsItem close w →
      f a ++ z = f b ++ w → a = b ∧ z = w)
    (h : [',', ' '].intercalate (as.map f) ++ close :: x =
      [',', ' '].intercalate (bs.map f) ++ close :: y) :
    as = bs ∧ x = y := by
  cases as with
  | nil =>
    cases bs with
    | nil => exact ⟨rfl, by simpa [List.intercalate] using h⟩
    | cons b bs =>
      rw [intercalate_cons_append] at h
      exact absurd (congrArg List.head? h).symm (hstart b (by simp) _)
  | cons a as =>
    rw [intercalate_cons_append] at h
    cases bs with
    | nil => exact absurd (congrArg List.head? h) (hstart a (by simp) _)
    | cons b bs =>
      rw [intercalate_cons_append] at h
      obtain ⟨rfl, hrest⟩ := hitem a List.mem_cons_self b List.mem_cons_self _ _
        (followsItem_afterFirst f close as x) (followsItem_afterFirst f close bs y) h
      obtain ⟨rfl, hxy⟩ := afterFirst_inj hclose
        (fun c hc d hd => hitem c (List.mem_cons_of_mem _ hc) d (List.mem_cons_of_mem _ hd)) hrest
      exact ⟨rfl, hxy⟩

end ScalarCall.Text

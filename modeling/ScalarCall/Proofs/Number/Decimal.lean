import Mathlib.Tactic.Common
import ScalarCall.Literal
import Std.Data.String.ToInt

/-!
Decimals are written exactly. The text of a decimal has a whole part without a zero that could be
left out and as many places as its scale, and without the point it spells the unscaled value. So
both can be read off the text.
-/

namespace ScalarCall

namespace Number

/-! ### Digits -/

/-- Digits that are the whole part of a number: one at least, and no zero before others. -/
structure IsWhole (ds : List Char) : Prop where
  isDigit : ∀ c ∈ ds, c.isDigit = true
  ne_nil : ds ≠ []
  eq_of_head? : ds.head? = some '0' → ds = ['0']

variable {d n scale : Nat} {ds whole places : List Char} {c : Char}

lemma isDigit_of_mem_toDigits (h : c ∈ Nat.toDigits 10 d) : c.isDigit = true :=
  Nat.isDigit_of_mem_toDigits (by omega) (by omega) h

/-- Only the digits of zero begin with a zero. -/
lemma eq_zero_of_head?_toDigits (h : (Nat.toDigits 10 d).head? = some '0') : d = 0 := by
  induction d using Nat.strongRecOn with
  | ind d ih =>
    rw [Nat.toDigits_eq_if (by omega)] at h
    split at h
    · simpa using h
    · have hne : Nat.toDigits 10 (d / 10) ≠ [] := Nat.toDigits_ne_nil
      obtain ⟨c, cs, hcs⟩ := List.exists_cons_of_ne_nil hne
      have hd := ih (d / 10) (by omega) (by simpa [hcs] using h)
      omega

lemma isWhole_toDigits (d : Nat) : IsWhole (Nat.toDigits 10 d) where
  isDigit _ := isDigit_of_mem_toDigits
  ne_nil := Nat.toDigits_ne_nil
  eq_of_head? h := by rw [eq_zero_of_head?_toDigits h, Nat.toDigits_zero]

lemma IsWhole.take (h : IsWhole ds) (hn : 0 < n) : IsWhole (ds.take n) := by
  obtain ⟨hd, hne, hhead⟩ := h
  obtain ⟨c, cs, rfl⟩ := List.exists_cons_of_ne_nil hne
  obtain ⟨n, rfl⟩ := Nat.exists_eq_add_of_lt hn
  refine ⟨fun x hx => hd x (List.mem_of_mem_take hx), by simp, fun h => ?_⟩
  have hzero := hhead (by simpa using h)
  simp [hzero]

/-! ### Padding -/

lemma paddedDigits_of_le (h : n ≤ (Nat.toDigits 10 d).length) :
    paddedDigits n d = Nat.toDigits 10 d := by
  simp [paddedDigits, Nat.sub_eq_zero_of_le h]

lemma length_paddedDigits (n d : Nat) :
    (paddedDigits n d).length = max n (Nat.toDigits 10 d).length := by
  simp only [paddedDigits, List.length_append, List.length_replicate]
  omega

lemma isDigit_of_mem_paddedDigits (h : c ∈ paddedDigits n d) : c.isDigit = true := by
  rcases List.mem_append.1 h with h | h
  · rw [List.eq_of_mem_replicate h]
    rfl
  · exact isDigit_of_mem_toDigits h

/-- Zeros in front do not change what digits spell. -/
lemma ofDigitChars_paddedDigits (n d : Nat) : Nat.ofDigitChars 10 (paddedDigits n d) 0 = d := by
  simp [paddedDigits, Nat.ofDigitChars_append]

/-- Of digits padded to one more than the scale, a whole part is left before the places. -/
lemma isWhole_take_paddedDigits (scale d : Nat) :
    IsWhole ((paddedDigits (scale + 1) d).take ((paddedDigits (scale + 1) d).length - scale)) := by
  by_cases h : scale < (Nat.toDigits 10 d).length
  · rw [paddedDigits_of_le h]
    exact (isWhole_toDigits d).take (by omega)
  · -- all digits are places, and the whole part is the first zero put before them
    obtain ⟨k, hk⟩ : ∃ k, scale + 1 - (Nat.toDigits 10 d).length = k + 1 :=
      Nat.exists_eq_add_one.2 (by omega)
    have hlen : (paddedDigits (scale + 1) d).length - scale = 1 := by
      rw [length_paddedDigits]
      omega
    have hpad : paddedDigits (scale + 1) d =
        '0' :: (List.replicate k '0' ++ Nat.toDigits 10 d) := by
      simp [paddedDigits, hk, List.replicate_succ]
    rw [hlen, hpad]
    exact isWhole_toDigits 0

/-! ### The point -/

/-- Digits before a point and places after it. Without places there is no point. -/
def pointed (whole places : List Char) : List Char :=
  if places = [] then whole else whole ++ '.' :: places

def placesOf (text : List Char) : List Char := (text.dropWhile (· ≠ '.')).tail

lemma ne_point_of_isDigit (h : c.isDigit = true) : c ≠ '.' := by
  rintro rfl
  cases h

lemma filter_pointed (hw : ∀ c ∈ whole, c.isDigit = true) (hp : ∀ c ∈ places, c.isDigit = true) :
    (pointed whole places).filter (· ≠ '.') = whole ++ places := by
  have hwhole : whole.filter (· ≠ '.') = whole := by
    simpa [List.filter_eq_self] using fun c hc => ne_point_of_isDigit (hw c hc)
  have hplaces : places.filter (· ≠ '.') = places := by
    simpa [List.filter_eq_self] using fun c hc => ne_point_of_isDigit (hp c hc)
  unfold pointed
  split
  · next h => rw [hwhole, h, List.append_nil]
  · rw [List.filter_append, hwhole, List.filter_cons_of_neg (by simp), hplaces]

/-- What stands before the point does not matter for the places. -/
lemma placesOf_append_pointed {sign : List Char} (hs : '.' ∉ sign)
    (hw : ∀ c ∈ whole, c.isDigit = true) : placesOf (sign ++ pointed whole places) = places := by
  have hbefore : ∀ c ∈ sign ++ whole, decide (c ≠ '.') = true := by
    intro c hc
    rcases List.mem_append.1 hc with hc | hc
    · exact decide_eq_true fun h => hs (h ▸ hc)
    · exact decide_eq_true (ne_point_of_isDigit (hw c hc))
  unfold placesOf pointed
  split
  · next h =>
    rw [h, ← List.append_nil (sign ++ whole), List.dropWhile_append_of_pos hbefore]
    rfl
  · rw [← List.append_assoc, List.dropWhile_append_of_pos hbefore]
    simp

lemma exists_positional_eq (d scale : Nat) :
    ∃ whole places, positional d scale = pointed whole places ∧ IsWhole whole ∧
      (∀ c ∈ places, c.isDigit = true) ∧ places.length = scale ∧
      Nat.ofDigitChars 10 (whole ++ places) 0 = d := by
  set ds := paddedDigits (scale + 1) d with hds
  have hlen : scale < ds.length := by
    rw [hds, length_paddedDigits]
    omega
  have hplaces : (ds.drop (ds.length - scale)).length = scale := by
    rw [List.length_drop]
    omega
  refine ⟨ds.take (ds.length - scale), ds.drop (ds.length - scale), ?_,
    isWhole_take_paddedDigits scale d, fun c hc => ?_, hplaces, ?_⟩
  · unfold positional pointed
    by_cases h : scale = 0
    · subst h
      have hone : 1 ≤ (Nat.toDigits 10 d).length := Nat.length_toDigits_pos
      simp [hds, paddedDigits_of_le hone]
    · rw [if_neg h, if_neg (by rw [← List.length_eq_zero_iff, hplaces]; exact h)]
  · exact isDigit_of_mem_paddedDigits (List.mem_of_mem_drop hc)
  · rw [List.take_append_drop, hds, ofDigitChars_paddedDigits]

/-! ### The sign -/

lemma signed_eq_append (negative : Bool) (ds : List Char) :
    signed negative ds = (if negative then ['-'] else []) ++ ds := by
  cases negative <;> rfl

lemma toNat?_ofList (hne : ds ≠ []) (hd : ∀ c ∈ ds, c.isDigit = true) :
    (String.ofList ds).toNat? = some (Nat.ofDigitChars 10 ds 0) := by
  have hnat : (String.ofList ds).isNat = true :=
    String.isNat_of_isDigit (by simpa using hne) (by simpa using hd)
  have hfilter : ds.filter (· != '_') = ds := by
    rw [List.filter_eq_self]
    rintro c hc
    have hdigit := hd c hc
    by_contra h
    obtain rfl : c = '_' := by simpa using h
    cases hdigit
  rw [String.toNat?_eq_some_ofDigitChars hnat, String.toList_ofList, hfilter]

/-- The digits of a value under its sign are read as the value. -/
lemma toInt?_signed {v : Int} (hne : ds ≠ []) (hd : ∀ c ∈ ds, c.isDigit = true)
    (hv : Nat.ofDigitChars 10 ds 0 = v.natAbs) :
    (String.ofList (signed (v < 0) ds)).toInt? = some v := by
  have hread := toNat?_ofList hne hd
  rw [hv] at hread
  rw [String.toInt?_eq_some_iff]
  by_cases h : v < 0
  · refine .inr ⟨String.ofList ds, ?_, v.natAbs, hread, by omega⟩
    simp [signed, h]
  · refine .inl ⟨v.natAbs, ?_, by omega⟩
    simpa [signed, h] using hread

/-! ### Decimals -/

lemma exists_decimalText_eq (v : Int) (scale : Nat) :
    ∃ whole places,
      (decimalText v scale).toList = (if v < 0 then ['-'] else []) ++ pointed whole places ∧
      IsWhole whole ∧ (∀ c ∈ places, c.isDigit = true) ∧ places.length = scale ∧
      Nat.ofDigitChars 10 (whole ++ places) 0 = v.natAbs := by
  obtain ⟨whole, places, htext, hw, hp, hlen, hread⟩ := exists_positional_eq v.natAbs scale
  refine ⟨whole, places, ?_, hw, hp, hlen, hread⟩
  simp [decimalText, signed_eq_append, htext]

lemma toInt?_decimalText (v : Int) (scale : Nat) :
    (String.ofList ((decimalText v scale).toList.filter (· ≠ '.'))).toInt? = some v := by
  obtain ⟨whole, places, htext, hw, hp, -, hread⟩ := exists_decimalText_eq v scale
  have hsign : (if v < 0 then ['-'] else []).filter (· ≠ '.') = if v < 0 then ['-'] else [] := by
    split <;> rfl
  have hfilter : (decimalText v scale).toList.filter (· ≠ '.') =
      signed (v < 0) (whole ++ places) := by
    rw [htext, List.filter_append, hsign, filter_pointed hw.isDigit hp, signed_eq_append]
    simp
  rw [hfilter]
  refine toInt?_signed (by simp [hw.ne_nil]) (fun c hc => ?_) hread
  exact (List.mem_append.1 hc).elim (hw.isDigit c) (hp c)

lemma length_placesOf_decimalText (v : Int) (scale : Nat) :
    (placesOf (decimalText v scale).toList).length = scale := by
  obtain ⟨whole, places, htext, hw, -, hlen, -⟩ := exists_decimalText_eq v scale
  have hsign : '.' ∉ (if v < 0 then ['-'] else []) := by split <;> simp
  rw [htext, placesOf_append_pointed hsign hw.isDigit, hlen]

/-- The unscaled value and the scale can both be read off the text. -/
lemma decimalText_inj {v w : Int} {m n : Nat} : decimalText v m = decimalText w n ↔ v = w ∧ m = n := by
  constructor
  · intro h
    constructor
    · have hvalue := toInt?_decimalText v m
      rw [h, toInt?_decimalText w n] at hvalue
      exact (Option.some.inj hvalue).symm
    · have hscale := length_placesOf_decimalText v m
      rw [h, length_placesOf_decimalText w n] at hscale
      exact hscale.symm
  · rintro ⟨rfl, rfl⟩
    rfl

end Number

open Number

/-- **The text of a decimal is exact.** It is a minus sign if the value is negative, a whole part
without zeros before it, and, if the scale is not zero, a point and as many digits as the scale
says. Without the point it is read as the unscaled value, so that two decimals have one text only if
they are of the same value and scale. -/
theorem ExternalLiteral.text_bigDecimal (v : Int) (s : UInt8) :
    (∃ whole places : List Char,
      (bigDecimal v s).text.toList =
        (if v < 0 then ['-'] else []) ++ whole ++ (if s = 0 then [] else '.' :: places) ∧
      IsWhole whole ∧ (∀ c ∈ places, c.isDigit = true) ∧ places.length = s.toNat) ∧
    (String.ofList ((bigDecimal v s).text.toList.filter (· ≠ '.'))).toInt? = some v ∧
    ∀ w t, (bigDecimal v s).text = (bigDecimal w t).text ↔ v = w ∧ s = t := by
  refine ⟨?_, toInt?_decimalText v s.toNat, fun w t => ?_⟩
  · obtain ⟨whole, places, htext, hw, hp, hlen, -⟩ := exists_decimalText_eq v s.toNat
    refine ⟨whole, places, ?_, hw, hp, hlen⟩
    have hnil : places = [] ↔ s = 0 := by
      rw [← List.length_eq_zero_iff, hlen, ← UInt8.toNat_inj]
      rfl
    rw [text, htext, pointed]
    by_cases h : s = 0
    · simp [h, hnil]
    · simp [h, hnil]
  · rw [← UInt8.toNat_inj]
    exact decimalText_inj

/-- As many digits as places, of the least value of 128 bits. -/
example : (ExternalLiteral.bigDecimal (-170141183460469231731687303715884105728) 39).text =
    "-0.170141183460469231731687303715884105728" := by
  decide +kernel

end ScalarCall

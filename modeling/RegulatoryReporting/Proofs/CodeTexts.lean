import Mathlib.Data.Nat.ModEq
import RegulatoryReporting.Proofs.LookupsAhead
import RegulatoryReporting.Proofs.StampOrder

/-!
# Codes Written Out and Codes Miswritten

A check digit looks at a code through its digits: a letter is written as its number, `A` as ten
up to `Z` as thirty-five (`spelledOut`). So a letter takes two places, and where a digit stands
depends on the letters to its right.

What a check digit is there for are slips (`Slip`): a character is replaced by another one, or
two neighbours change places. A slip that touches no blanks is one in the text without the
blanks around it (`Slip.trimList`), so that blanks need not be looked at any further.

## Main results

* `Shape.fits_append_iff`, `Shape.fits_run_iff` — a shape, part by part.
* `digitsValue_numeral` — the number of a character is read from its digits.
* `modEq_of_digitsValue` — numbers that differ in one part agree modulo what is prime to ten
  only if the parts do.
* `Slip.trimList` — slips and the blanks around a text.
-/

namespace RegulatoryReporting

variable {cs ds : List Char} {c d : Char}

/-! ### Shapes -/

namespace Shape

/-- Two shapes in a row. -/
theorem fits_append_iff {shape₁ shape₂ : Shape} :
    (shape₁ ++ shape₂).fits cs = true ↔
      ∃ xs ys, cs = xs ++ ys ∧ shape₁.fits xs = true ∧ shape₂.fits ys = true := by
  induction shape₁ generalizing cs with
  | nil =>
    constructor
    · exact fun h => ⟨[], cs, rfl, rfl, h⟩
    · rintro ⟨xs, ys, rfl, hxs, hys⟩
      obtain rfl := List.length_eq_zero_iff.1 (length_of_fits hxs)
      exact hys
  | cons p shape₁ ih =>
    cases cs with
    | nil =>
      refine ⟨nofun, ?_⟩
      rintro ⟨xs, ys, hnil, hxs, -⟩
      obtain ⟨rfl, -⟩ := List.append_eq_nil_iff.1 hnil.symm
      cases hxs
    | cons c cs =>
      rw [List.cons_append, fits, Bool.and_eq_true, ih]
      constructor
      · rintro ⟨hc, xs, ys, rfl, hxs, hys⟩
        exact ⟨c :: xs, ys, rfl, by rw [fits, hc, hxs, Bool.and_self], hys⟩
      · rintro ⟨xs, ys, hsplit, hxs, hys⟩
        cases xs with
        | nil => cases hxs
        | cons x xs =>
          obtain ⟨rfl, rfl⟩ := List.cons.inj hsplit
          rw [fits, Bool.and_eq_true] at hxs
          exact ⟨hxs.1, xs, ys, rfl, hxs.2, hys⟩

/-- A number of places of one kind. -/
theorem fits_run_iff {n : Nat} {p : Place} :
    (run n p).fits cs = true ↔ cs.length = n ∧ ∀ c ∈ cs, p.admits c = true := by
  induction n generalizing cs with
  | zero => cases cs <;> simp [run, fits]
  | succ n ih =>
    cases cs with
    | nil => simp [run, List.replicate_succ, fits]
    | cons c cs =>
      have hrun : (run (n + 1) p).fits (c :: cs) = (p.admits c && (run n p).fits cs) := rfl
      rw [hrun, Bool.and_eq_true, ih, List.length_cons, Nat.succ_inj, List.forall_mem_cons]
      tauto

/-- A text that is as long as its shape has no blanks around it. -/
theorem trimList_eq_of_fits {shape : Shape} (h : shape.fits (Text.trimList cs) = true)
    (hlength : cs.length = shape.length) : Text.trimList cs = cs :=
  (Text.trimList_sublist cs).eq_of_length ((length_of_fits h).trans hlength.symm)

end Shape

/-- Where a valid text has a shape, the text without the blanks around it is refused exactly if
the text is not valid. -/
theorem notChecked?_trim_eq_none_iff {shape : Shape} {valid : String → Bool} {s : String}
    (htrim : valid (Text.trim s) = valid s)
    (hfits : valid s = true → shape.fits (Text.trimList s.toList) = true)
    (label failure : String) :
    notChecked? (shape.fits (Text.trim s).toList) (valid (Text.trim s)) (Text.trim s) label
      failure = none ↔ valid s = true := by
  rw [htrim, Text.trim, String.toList_ofList]
  cases hvalid : valid s with
  | true => simp [notChecked?, hfits hvalid]
  | false => cases shape.fits (Text.trimList s.toList) <;> simp [notChecked?]

/-! ### Characters as numbers -/

/-- A character of a code: a capital letter or a digit. -/
def IsCodeChar (c : Char) : Prop := c.isUpper = true ∨ c.isDigit = true

instance : DecidablePred IsCodeChar := fun c =>
  inferInstanceAs (Decidable (c.isUpper = true ∨ c.isDigit = true))

/-- Some places admit the characters of codes. -/
theorem admits_capitalOrDigit_iff : Place.capitalOrDigit.admits c = true ↔ IsCodeChar c := by
  rw [Place.admits, Bool.or_eq_true, IsCodeChar]

/-- Whether a text has characters of codes only can be computed. -/
theorem all_admits_iff :
    cs.all Place.capitalOrDigit.admits = true ↔ ∀ c ∈ cs, IsCodeChar c := by
  simp only [List.all_eq_true, admits_capitalOrDigit_iff]

/-- A text of characters of codes has no blanks around it. -/
theorem trimList_of_isCodeChar (h : ∀ c ∈ cs, IsCodeChar c) : Text.trimList cs = cs :=
  Text.trimList_of_forall fun c hc =>
    Text.isWhiteSpace_of_admits (admits_capitalOrDigit_iff.2 (h c hc))

/-- The code points of the capital letters. -/
theorem toNat_of_isUpper (h : c.isUpper = true) : 65 ≤ c.toNat ∧ c.toNat ≤ 90 := by
  have hrange : 'A'.val ≤ c.val ∧ c.val ≤ 'Z'.val := of_decide_eq_true h
  rw [UInt32.le_iff_toNat_le, UInt32.le_iff_toNat_le] at hrange
  exact hrange

/-- A capital letter is no digit. -/
theorem isDigit_eq_false_of_isUpper (h : c.isUpper = true) : c.isDigit = false := by
  have hrange := toNat_of_isUpper h
  refine eq_false_of_ne_true fun hdigit => ?_
  have hdigits : 48 ≤ c.toNat ∧ c.toNat ≤ 57 := Char.isDigit_iff_toNat.1 hdigit
  omega

/-- A digit stands for itself. -/
theorem codeValue_of_isDigit (h : c.isDigit = true) : codeValue c = digitValue c := if_pos h

/-- A capital letter stands for a number of two digits. -/
theorem codeValue_of_isUpper (h : c.isUpper = true) :
    codeValue c = c.toNat - 55 ∧ 10 ≤ codeValue c ∧ codeValue c ≤ 35 := by
  have hrange := toNat_of_isUpper h
  have hvalue : codeValue c = c.toNat - 55 :=
    if_neg (by simp [isDigit_eq_false_of_isUpper h])
  omega

/-- The number of a character of a code has at most two digits. -/
theorem codeValue_lt (h : IsCodeChar c) : codeValue c < 36 := by
  rcases h with hupper | hdigit
  · exact Nat.lt_succ_of_le (codeValue_of_isUpper hupper).2.2
  · have hlt := digitValue_lt hdigit
    rw [codeValue_of_isDigit hdigit]
    omega

/-- The digits that are written for a character of a code: for a letter those of its number, `A`
being ten and `Z` thirty-five. -/
def numeral (c : Char) : List Char :=
  if c.isUpper then Nat.toDigits 10 (c.toNat - 'A'.toNat + 10) else [c]

/-- A code with its letters written as numbers. -/
def spelledOut (cs : List Char) : List Char := cs.flatMap numeral

/-- A digit is written as it is. -/
theorem numeral_of_isDigit (h : c.isDigit = true) : numeral c = [c] := by
  refine if_neg fun hupper => ?_
  rw [isDigit_eq_false_of_isUpper hupper] at h
  cases h

/-- A capital letter is written as its number. -/
theorem numeral_of_isUpper (h : c.isUpper = true) :
    numeral c = Nat.toDigits 10 (codeValue c) := by
  have hrange := toNat_of_isUpper h
  have hnumber : c.toNat - 'A'.toNat + 10 = codeValue c := by
    rw [(codeValue_of_isUpper h).1]
    change c.toNat - 65 + 10 = _
    omega
  rw [numeral, if_pos h, hnumber]

/-- A capital letter takes two places. -/
theorem length_numeral_of_isUpper (h : c.isUpper = true) : (numeral c).length = 2 := by
  obtain ⟨-, hmin, hmax⟩ := codeValue_of_isUpper h
  rw [numeral_of_isUpper h, Nat.toDigits_of_base_le (by decide) hmin,
    Nat.toDigits_of_lt_base (by omega)]
  rfl

/-- The number of a character is read from its digits. -/
theorem digitsValue_numeral (h : IsCodeChar c) : digitsValue (numeral c) = codeValue c := by
  rcases h with hupper | hdigit
  · rw [numeral_of_isUpper hupper, digitsValue_toDigits]
  · rw [numeral_of_isDigit hdigit, codeValue_of_isDigit hdigit, digitsValue_cons,
      List.length_nil, pow_zero, Nat.one_mul]
    rfl

/-- Characters of a code stand for different numbers. -/
theorem eq_of_codeValue_eq (hc : IsCodeChar c) (hd : IsCodeChar d)
    (h : codeValue c = codeValue d) : c = d := by
  have hvalue : ∀ {x : Char}, IsCodeChar x →
      (65 ≤ x.toNat ∧ codeValue x = x.toNat - 55) ∨
        (48 ≤ x.toNat ∧ x.toNat ≤ 57 ∧ codeValue x = x.toNat - 48) := by
    rintro x (hupper | hdigit)
    · exact .inl ⟨(toNat_of_isUpper hupper).1, (codeValue_of_isUpper hupper).1⟩
    · have hrange : 48 ≤ x.toNat ∧ x.toNat ≤ 57 := Char.isDigit_iff_toNat.1 hdigit
      exact .inr ⟨hrange.1, hrange.2, codeValue_of_isDigit hdigit⟩
  rw [← Char.toNat_inj]
  rcases hvalue hc with hc | hc <;> rcases hvalue hd with hd | hd <;> omega

/-! ### Codes as numbers -/

/-- A part of a code is written out on its own. -/
theorem spelledOut_append (cs ds : List Char) :
    spelledOut (cs ++ ds) = spelledOut cs ++ spelledOut ds := List.flatMap_append

/-- A character of a code is written out on its own. -/
theorem spelledOut_cons (c : Char) (cs : List Char) :
    spelledOut (c :: cs) = numeral c ++ spelledOut cs := List.flatMap_cons

/-- A code is written out around one of its characters. -/
theorem spelledOut_append_cons (before : List Char) (c : Char) (after : List Char) :
    spelledOut (before ++ c :: after) =
      spelledOut before ++ numeral c ++ spelledOut after := by
  rw [spelledOut_append, spelledOut_cons, List.append_assoc]

/-- A code is written out around two neighbours. -/
theorem spelledOut_append_cons_cons (before : List Char) (c d : Char) (after : List Char) :
    spelledOut (before ++ c :: d :: after) =
      spelledOut before ++ (numeral c ++ numeral d) ++ spelledOut after := by
  rw [spelledOut_append_cons, spelledOut_cons, List.append_assoc, List.append_assoc,
    List.append_assoc]

/-- Digits are written as they are. -/
theorem spelledOut_of_isDigits (h : IsDigits cs) : spelledOut cs = cs := by
  induction cs with
  | nil => rfl
  | cons c cs ih =>
    obtain ⟨hc, hcs⟩ := List.forall_mem_cons.1 h
    rw [spelledOut_cons, numeral_of_isDigit hc, ih hcs, List.singleton_append]

/-- What is written are digits. -/
theorem isDigits_spelledOut (h : ∀ c ∈ cs, IsCodeChar c) : IsDigits (spelledOut cs) := by
  intro d hd
  obtain ⟨c, hc, hd⟩ := List.mem_flatMap.1 hd
  rcases h c hc with hupper | hdigit
  · rw [numeral_of_isUpper hupper] at hd
    exact isDigits_toDigits _ d hd
  · rw [numeral_of_isDigit hdigit, List.mem_singleton] at hd
    rwa [hd]

/-- The number of digits after digits. -/
theorem digitsValue_append (cs ds : List Char) :
    digitsValue (cs ++ ds) = 10 ^ ds.length * digitsValue cs + digitsValue ds := by
  rw [digitsValue_eq, Nat.ofDigitChars_append, Nat.ofDigitChars_eq_ofDigitChars_zero,
    ← digitsValue_eq, ← digitsValue_eq]

/-- As many digits that write one number are the same. -/
theorem eq_of_digitsValue_eq (hcs : IsDigits cs) (hds : IsDigits ds)
    (hlength : cs.length = ds.length) (h : digitsValue cs = digitsValue ds) : cs = ds := by
  have hvalues : Ord.compare (digitsValue cs) (digitsValue ds) = .eq := compare_eq_iff_eq.2 h
  have hchars := Json.compareChars_append_of_isDigits hcs hds hlength [] []
  rw [hvalues, Ordering.eq_then, List.append_nil, List.append_nil] at hchars
  have htexts : Ord.compare (String.ofList cs) (String.ofList ds) = .eq := by
    rw [← Json.compareChars_toList, String.toList_ofList, String.toList_ofList, hchars]
    rfl
  exact String.ofList_injective (compare_eq_iff_eq.1 htexts)

/-- Numbers that differ in one part agree modulo what is prime to ten only if the parts do. -/
theorem modEq_of_digitsValue {m : Nat} (hm : Nat.gcd m 10 = 1) {before us vs after : List Char}
    (hlength : us.length = vs.length)
    (h : digitsValue (before ++ us ++ after) ≡ digitsValue (before ++ vs ++ after) [MOD m]) :
    digitsValue us ≡ digitsValue vs [MOD m] := by
  rw [digitsValue_append, digitsValue_append _ after, digitsValue_append, digitsValue_append before,
    hlength] at h
  have hshifted := Nat.ModEq.add_right_cancel' _ h
  exact Nat.ModEq.add_left_cancel' _
    (Nat.ModEq.cancel_left_of_coprime (Nat.Coprime.pow_right _ hm) hshifted)

/-! ### Slips -/

/-- One slip in a text: a character is replaced by another one, or two different neighbours
change places. Which characters can be taken for each other is a matter of the text. -/
inductive Slip (replaced swapped : Char → Char → Prop) : List Char → List Char → Prop
  | replace (before : List Char) {c d : Char} (after : List Char) (hne : c ≠ d)
      (h : replaced c d) : Slip replaced swapped (before ++ c :: after) (before ++ d :: after)
  | swap (before : List Char) {c d : Char} (after : List Char) (hne : c ≠ d)
      (h : swapped c d) :
      Slip replaced swapped (before ++ c :: d :: after) (before ++ d :: c :: after)

/-- Up to a character that is not blank, only blanks at the beginning are dropped, and after it
only blanks at the end. -/
theorem Text.trimList_append_cons (hc : isWhiteSpace c = false) (before after : List Char) :
    trimList (before ++ c :: after) =
      before.dropWhile isWhiteSpace ++ c :: dropTrailing after := by
  have hstart : (before ++ c :: after).dropWhile isWhiteSpace =
      before.dropWhile isWhiteSpace ++ c :: after := by
    induction before with
    | nil => rw [List.nil_append, List.dropWhile_cons_of_neg (by simp [hc])]; rfl
    | cons b before ih =>
      rw [List.cons_append, List.dropWhile_cons, List.dropWhile_cons]
      split
      · exact ih
      · rfl
  rw [trimList, hstart]
  induction before.dropWhile isWhiteSpace with
  | nil => rw [List.nil_append, List.nil_append, dropTrailing_cons, if_neg (by simp [hc])]
  | cons b kept ih =>
    rw [List.cons_append, dropTrailing_cons, ih, if_neg (by simp)]
    rfl

namespace Slip

variable {replaced swapped : Char → Char → Prop}

/-- A slip that touches no blanks is one in the text without the blanks around it. -/
theorem trimList (h : Slip replaced swapped cs ds)
    (hreplaced : ∀ c d, replaced c d →
      Text.isWhiteSpace c = false ∧ Text.isWhiteSpace d = false)
    (hswapped : ∀ c d, swapped c d →
      Text.isWhiteSpace c = false ∧ Text.isWhiteSpace d = false) :
    Slip replaced swapped (Text.trimList cs) (Text.trimList ds) := by
  have hend : ∀ {c : Char} (after : List Char), Text.isWhiteSpace c = false →
      Text.dropTrailing (c :: after) = c :: Text.dropTrailing after := fun after hc => by
    rw [Text.dropTrailing_cons, if_neg (by simp [hc])]
  cases h with
  | replace before after hne h =>
    obtain ⟨hc, hd⟩ := hreplaced _ _ h
    rw [Text.trimList_append_cons hc, Text.trimList_append_cons hd]
    exact .replace _ _ hne h
  | swap before after hne h =>
    obtain ⟨hc, hd⟩ := hswapped _ _ h
    rw [Text.trimList_append_cons hc, Text.trimList_append_cons hd, hend after hc, hend after hd]
    exact .swap _ _ hne h

end Slip

end RegulatoryReporting

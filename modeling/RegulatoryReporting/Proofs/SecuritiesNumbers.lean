import Mathlib.Data.Nat.Bits
import Mathlib.Data.Nat.Digits.Defs
import Mathlib.Tactic.IntervalCases
import RegulatoryReporting.Proofs.CodeTexts

/-!
# Checked Securities Identification Numbers

The check digit of a securities identification number completes a weighted sum over the digits
of the body to a multiple of ten. This is the Luhn test of the whole number (`luhnSum`): from
the right, every second digit counts as the digit sum of its double, and since the check digit
itself is the last digit, the first one that is doubled is the one before it.

Whether a digit is doubled depends on how many digits stand to its right, and so on the letters
among the characters there. This parity is carried along when a list of digits is cut
(`weightedSum_append`). A slip among digits changes no parity, and the two ways in which a digit
can count, plain and doubled, both tell the ten digits apart modulo ten, while their difference
tells all digits apart but zero and nine. So every slip is seen, except the exchange of a zero
and a nine.

## Main results

* `luhnSum_eq` — the Luhn sum as the weighted sum from the right.
* `isValidIsin_iff` — the check is the Luhn test of the whole number.
* `isin_checked_by_luhn` — with it, the one check digit of a body and the slips that are seen.
-/

namespace RegulatoryReporting

variable {body cs ds : List Char} {c d check : Char} {s t : String}

/-! ### Digits and what they count -/

/-- The Luhn sum of digits: every second digit, counted from the right and beginning with the
one before the last, counts as the digit sum of its double. -/
def luhnSum (ds : List Nat) : Nat :=
  (ds.reverse.mapIdx fun i d => if i % 2 = 1 then (Nat.digits 10 (2 * d)).sum else d).sum

/-- The digit sum of the double of a digit. -/
theorem sum_digits_double {d : Nat} (h : d < 10) :
    (Nat.digits 10 (2 * d)).sum = doubledDigit d := by
  interval_cases d <;> simp [doubledDigit]

/-- The weighted sum goes on with the parity of the digits before. -/
theorem weightedSum_append (double : Bool) (xs ys : List Nat) :
    weightedSum double (xs ++ ys) =
      weightedSum double xs + weightedSum (double ^^ xs.length.bodd) ys := by
  induction xs generalizing double with
  | nil => simp [weightedSum]
  | cons x xs ih =>
    have hparity : (!double ^^ xs.length.bodd) = (double ^^ (x :: xs).length.bodd) := by
      simp
    rw [List.cons_append, weightedSum, ih, weightedSum, hparity, Nat.add_assoc]

/-- Digits that count by their place, the first place being a given one. -/
theorem sum_mapIdx_eq {ds : List Nat} (h : ∀ d ∈ ds, d < 10) (first : Nat) :
    (ds.mapIdx fun i d =>
      if (i + first) % 2 = 1 then (Nat.digits 10 (2 * d)).sum else d).sum =
      weightedSum first.bodd ds := by
  induction ds generalizing first with
  | nil => rfl
  | cons d ds ih =>
    rw [List.forall_mem_cons] at h
    have hplaces : ∀ i, i + 1 + first = i + (first + 1) := fun i => by omega
    have hparity : (0 + first) % 2 = 1 ↔ first.bodd = true := by
      rw [Nat.zero_add, Nat.mod_two_of_bodd]
      cases first.bodd <;> decide
    rw [List.mapIdx_cons, List.sum_cons, weightedSum]
    simp only [hplaces, ih h.2 (first + 1), Nat.bodd_succ, hparity, sum_digits_double h.1]

/-- The Luhn sum is the weighted sum from the right. -/
theorem luhnSum_eq {ds : List Nat} (h : ∀ d ∈ ds, d < 10) :
    luhnSum ds = weightedSum false ds.reverse :=
  sum_mapIdx_eq (fun d hd => h d (List.mem_reverse.1 hd)) 0

/-! ### Digits that are told apart -/

/-- Doubled digits are told apart by their last digits. -/
theorem eq_of_doubledDigit_mod_eq {a b : Nat} (ha : a < 10) (hb : b < 10)
    (h : doubledDigit a % 10 = doubledDigit b % 10) : a = b := by
  simp only [doubledDigit] at h
  split at h <;> split at h <;> omega

/-- Which of two digits is doubled is told by the last digit, except for a zero and a nine. -/
theorem eq_or_zero_nine_of_doubledDigit_add_eq {a b : Nat} (ha : a < 10) (hb : b < 10)
    (h : (doubledDigit a + b) % 10 = (doubledDigit b + a) % 10) :
    a = b ∨ (a = 0 ∧ b = 9) ∨ (a = 9 ∧ b = 0) := by
  simp only [doubledDigit] at h
  split at h <;> split at h <;> omega

/-- A digit that is replaced by another one changes the last digit of the weighted sum. -/
theorem weightedSum_replace_ne (double : Bool) (xs ys : List Nat) {a b : Nat} (ha : a < 10)
    (hb : b < 10) (hne : a ≠ b) :
    weightedSum double (xs ++ a :: ys) % 10 ≠ weightedSum double (xs ++ b :: ys) % 10 := by
  intro h
  rw [weightedSum_append, weightedSum_append, weightedSum, weightedSum] at h
  generalize (double ^^ xs.length.bodd) = doubled at h
  cases doubled with
  | false => simp only [Bool.false_eq_true, if_false] at h; omega
  | true =>
    simp only [if_true] at h
    exact hne (eq_of_doubledDigit_mod_eq ha hb (by omega))

/-- Two neighbours that are exchanged change the last digit of the weighted sum, unless they
are a zero and a nine. -/
theorem weightedSum_swap_ne (double : Bool) (xs ys : List Nat) {a b : Nat} (ha : a < 10)
    (hb : b < 10) (hne : a ≠ b) (hzero : ¬ (a = 0 ∧ b = 9)) (hnine : ¬ (a = 9 ∧ b = 0)) :
    weightedSum double (xs ++ a :: b :: ys) % 10 ≠
      weightedSum double (xs ++ b :: a :: ys) % 10 := by
  intro h
  simp only [weightedSum_append, weightedSum] at h
  generalize (double ^^ xs.length.bodd) = doubled at h
  have hdigits : (doubledDigit a + b) % 10 = (doubledDigit b + a) % 10 := by
    cases doubled with
    | false => simp only [Bool.false_eq_true, Bool.not_false, if_false, if_true] at h; omega
    | true => simp only [Bool.false_eq_true, Bool.not_true, if_false, if_true] at h; omega
  rcases eq_or_zero_nine_of_doubledDigit_add_eq ha hb hdigits with heq | hends | hends
  · exact hne heq
  · exact hzero hends
  · exact hnine hends

/-! ### The digits of a number -/

/-- The digit of a numeral below ten. -/
theorem digitValue_digitChar {n : Nat} (h : n < 10) : digitValue n.digitChar = n := by
  have hvalue := digitsValue_toDigits n
  rwa [Nat.toDigits_of_lt_base h, digitsValue_cons, List.length_nil, pow_zero,
    Nat.one_mul] at hvalue

/-- The digits of a character are those that are written for it. -/
theorem map_digitValue_numeral (h : IsCodeChar c) : (numeral c).map digitValue = codeDigits c := by
  rcases h with hupper | hdigit
  · obtain ⟨-, hmin, hmax⟩ := codeValue_of_isUpper hupper
    rw [numeral_of_isUpper hupper, Nat.toDigits_of_base_le (by decide) hmin,
      Nat.toDigits_of_lt_base (by omega), codeDigits, if_pos hmin, List.map_append,
      List.map_singleton, List.map_singleton, digitValue_digitChar (by omega),
      digitValue_digitChar (by omega)]
    rfl
  · have hlt : codeValue c < 10 := codeValue_of_isDigit hdigit ▸ digitValue_lt hdigit
    rw [numeral_of_isDigit hdigit, codeDigits, if_neg (Nat.not_le.2 hlt),
      codeValue_of_isDigit hdigit, List.map_singleton]

/-- The digits of a text with its letters written as numbers. -/
def expandedDigits (cs : List Char) : List Nat := (spelledOut cs).map digitValue

/-- A part of a code has its own digits. -/
theorem expandedDigits_append (cs ds : List Char) :
    expandedDigits (cs ++ ds) = expandedDigits cs ++ expandedDigits ds := by
  rw [expandedDigits, spelledOut_append, List.map_append]
  rfl

/-- A digit is followed by the digits of the rest. -/
theorem expandedDigits_cons (h : c.isDigit = true) (cs : List Char) :
    expandedDigits (c :: cs) = digitValue c :: expandedDigits cs := by
  rw [expandedDigits, spelledOut_cons, numeral_of_isDigit h]
  rfl

/-- These are the digits that the check goes through. -/
theorem expandedDigits_eq (h : ∀ c ∈ cs, IsCodeChar c) :
    expandedDigits cs = cs.flatMap codeDigits := by
  rw [expandedDigits, spelledOut, List.map_flatMap]
  exact List.flatMap_congr fun c hc => map_digitValue_numeral (h c hc)

/-- They are below ten. -/
theorem expandedDigits_lt (h : ∀ c ∈ cs, IsCodeChar c) : ∀ d ∈ expandedDigits cs, d < 10 := by
  intro d hd
  obtain ⟨x, hx, rfl⟩ := List.mem_map.1 hd
  exact digitValue_lt (isDigits_spelledOut h x hx)

/-! ### The Luhn test -/

/-- The body of a securities identification number: eleven capital letters or digits, of which
the first two are letters. -/
structure IsIsinBody (body : List Char) : Prop where
  /-- The body has eleven characters. -/
  length_eq : body.length = 11
  /-- The first two are capital letters. -/
  isUpper_country : ∀ c ∈ body.take 2, c.isUpper = true
  /-- All are capital letters or digits. -/
  isCodeChar : ∀ c ∈ body, IsCodeChar c

/-- What has the shape of a number has a body and a check digit. -/
theorem fits_isin_iff : Shape.isin.fits cs = true ↔ ∃ body check, cs = body ++ [check] ∧
    IsIsinBody body ∧ check.isDigit = true := by
  rw [Shape.isin, Shape.fits_append_iff]
  constructor
  · rintro ⟨body, last, rfl, hbody, hlast⟩
    obtain ⟨country, core, rfl, hcountry, hcore⟩ := Shape.fits_append_iff.1 hbody
    obtain ⟨htwo, hletters⟩ := Shape.fits_run_iff.1 hcountry
    obtain ⟨hnine, hchars⟩ := Shape.fits_run_iff.1 hcore
    obtain ⟨hone, hdigit⟩ := Shape.fits_run_iff.1 hlast
    obtain ⟨check, rfl⟩ := List.length_eq_one_iff.1 hone
    refine ⟨country ++ core, check, rfl, ⟨?_, ?_, ?_⟩, hdigit check List.mem_cons_self⟩
    · rw [List.length_append, htwo, hnine]
    · rwa [List.take_left' htwo]
    · exact List.forall_mem_append.2 ⟨fun c hc => .inl (hletters c hc),
        fun c hc => admits_capitalOrDigit_iff.1 (hchars c hc)⟩
  · rintro ⟨body, check, rfl, ⟨hlength, hletters, hchars⟩, hdigit⟩
    refine ⟨body, [check], rfl, ?_, Shape.fits_run_iff.2 ⟨rfl, List.forall_mem_singleton.2 hdigit⟩⟩
    refine Shape.fits_append_iff.2 ⟨body.take 2, body.drop 2, (List.take_append_drop 2 body).symm,
      Shape.fits_run_iff.2 ⟨?_, hletters⟩, Shape.fits_run_iff.2 ⟨?_, fun c hc => ?_⟩⟩
    · rw [List.length_take, hlength]
      rfl
    · rw [List.length_drop, hlength]
    · exact admits_capitalOrDigit_iff.2 (hchars c (List.mem_of_mem_drop hc))

/-- A valid number has the shape of one. -/
theorem fits_of_isValidIsin (h : isValidIsin s = true) :
    Shape.isin.fits (Text.trimList s.toList) = true := by
  rw [isValidIsin, Bool.and_eq_true] at h
  exact h.1

/-- Digits are told apart by their values. -/
theorem eq_of_digitValue_eq (hc : c.isDigit = true) (hd : d.isDigit = true)
    (h : digitValue c = digitValue d) : c = d := by
  rw [← codeValue_of_isDigit hc, ← codeValue_of_isDigit hd] at h
  exact eq_of_codeValue_eq (.inr hc) (.inr hd) h

namespace IsIsinBody

/-- All characters of a number are those of codes. -/
theorem isCodeChar_append (h : IsIsinBody body) (hcheck : check.isDigit = true) :
    ∀ c ∈ body ++ [check], IsCodeChar c :=
  List.forall_mem_append.2 ⟨h.isCodeChar, List.forall_mem_singleton.2 (.inr hcheck)⟩

/-- The check digit is the last digit of the Luhn sum that is not doubled. -/
theorem luhnSum_append (h : IsIsinBody body) (hcheck : check.isDigit = true) :
    luhnSum (expandedDigits (body ++ [check])) =
      digitValue check + weightedSum true (body.flatMap codeDigits).reverse := by
  rw [luhnSum_eq (expandedDigits_lt (h.isCodeChar_append hcheck)), expandedDigits_append,
    expandedDigits_cons hcheck, List.reverse_append, expandedDigits_eq h.isCodeChar]
  rfl

/-- A number is valid if its check digit completes the body. -/
theorem isValidIsin_eq (h : IsIsinBody body) (hcheck : check.isDigit = true)
    (hs : Text.trimList s.toList = body ++ [check]) :
    isValidIsin s = true ↔ completingDigit body = digitValue check := by
  have hfits : Shape.isin.fits (body ++ [check]) = true :=
    fits_isin_iff.2 ⟨body, check, rfl, h, hcheck⟩
  have hvalue : digitsValue [check] = digitValue check := by
    rw [digitsValue_cons, List.length_nil, pow_zero, Nat.one_mul]
    rfl
  simp only [isValidIsin, hs, hfits, Bool.true_and, List.take_left' h.length_eq,
    List.drop_left' h.length_eq, beq_iff_eq, hvalue]

end IsIsinBody

/-- **The check is the Luhn test of the whole number.** -/
theorem isValidIsin_iff (s : String) :
    isValidIsin s = true ↔ ∃ body check, Text.trimList s.toList = body ++ [check] ∧
      IsIsinBody body ∧ check.isDigit = true ∧
        luhnSum (expandedDigits (body ++ [check])) % 10 = 0 := by
  have hagree : ∀ {body check}, Text.trimList s.toList = body ++ [check] → IsIsinBody body →
      check.isDigit = true →
      (isValidIsin s = true ↔ luhnSum (expandedDigits (body ++ [check])) % 10 = 0) := by
    intro body check hs hbody hcheck
    rw [hbody.isValidIsin_eq hcheck hs, hbody.luhnSum_append hcheck, completingDigit]
    have hlt := digitValue_lt hcheck
    omega
  constructor
  · intro h
    obtain ⟨body, check, hs, hbody, hcheck⟩ := fits_isin_iff.1 (fits_of_isValidIsin h)
    exact ⟨body, check, hs, hbody, hcheck, (hagree hs hbody hcheck).1 h⟩
  · rintro ⟨body, check, hs, hbody, hcheck, hsum⟩
    exact (hagree hs hbody hcheck).2 hsum

/-! ### Completing a body -/

/-- A character that makes a body valid is a check digit. -/
theorem isDigit_of_isValidIsin (hbody : IsIsinBody body)
    (h : isValidIsin (String.ofList (body ++ [check])) = true) : check.isDigit = true := by
  have hfits := fits_of_isValidIsin h
  rw [String.toList_ofList] at hfits
  have hkept : Text.trimList (body ++ [check]) = body ++ [check] :=
    Shape.trimList_eq_of_fits hfits
      (by rw [List.length_append, hbody.length_eq, List.length_singleton]; rfl)
  rw [hkept] at hfits
  obtain ⟨body', check', hparts, hbody', hcheck⟩ := fits_isin_iff.1 hfits
  obtain ⟨-, hsame⟩ := List.append_inj hparts (hbody.length_eq.trans hbody'.length_eq.symm)
  rwa [List.singleton_inj.1 hsame]

/-- The check digit of a body completes its weighted sum. -/
theorem isValidIsin_ofList_iff (hbody : IsIsinBody body) :
    isValidIsin (String.ofList (body ++ [check])) = true ↔
      check = (completingDigit body).digitChar := by
  have hlt : completingDigit body < 10 := Nat.mod_lt _ (by decide)
  have hdigit : (completingDigit body).digitChar.isDigit = true := by
    rw [Nat.isDigit_digitChar]
    exact decide_eq_true hlt
  have hvalid : ∀ {check : Char}, check.isDigit = true →
      (isValidIsin (String.ofList (body ++ [check])) = true ↔
        completingDigit body = digitValue check) := fun hcheck => by
    rw [hbody.isValidIsin_eq hcheck]
    rw [String.toList_ofList, trimList_of_isCodeChar (hbody.isCodeChar_append hcheck)]
  constructor
  · intro h
    have hcheck := isDigit_of_isValidIsin hbody h
    refine eq_of_digitValue_eq hcheck hdigit ?_
    rw [digitValue_digitChar hlt, (hvalid hcheck).1 h]
  · rintro rfl
    exact (hvalid hdigit).2 (digitValue_digitChar hlt).symm

/-! ### Slips -/

/-- Two digits. -/
def AreDigits (c d : Char) : Prop := c.isDigit = true ∧ d.isDigit = true

/-- Two digits of which not one is a zero and the other a nine. -/
def AreDigitsButZeroNine (c d : Char) : Prop :=
  AreDigits c d ∧ ¬ (c = '0' ∧ d = '9') ∧ ¬ (c = '9' ∧ d = '0')

/-- A slip among digits changes the last digit of the Luhn sum. -/
theorem Slip.luhnSum_ne (h : Slip AreDigits AreDigitsButZeroNine cs ds)
    (hcs : ∀ c ∈ cs, IsCodeChar c) (hds : ∀ c ∈ ds, IsCodeChar c) :
    luhnSum (expandedDigits cs) % 10 ≠ luhnSum (expandedDigits ds) % 10 := by
  rw [luhnSum_eq (expandedDigits_lt hcs), luhnSum_eq (expandedDigits_lt hds)]
  cases h with
  | replace before after hne hdigits =>
    obtain ⟨hc, hd⟩ := hdigits
    simp only [expandedDigits_append, expandedDigits_cons hc, expandedDigits_cons hd,
      List.reverse_append, List.reverse_cons, List.append_assoc, List.singleton_append]
    exact weightedSum_replace_ne _ _ _ (digitValue_lt hc) (digitValue_lt hd)
      fun hvalue => hne (eq_of_digitValue_eq hc hd hvalue)
  | swap before after hne hdigits =>
    obtain ⟨⟨hc, hd⟩, hzero, hnine⟩ := hdigits
    simp only [expandedDigits_append, expandedDigits_cons hc, expandedDigits_cons hd,
      List.reverse_append, List.reverse_cons, List.append_assoc, List.singleton_append]
    refine weightedSum_swap_ne _ _ _ (digitValue_lt hd) (digitValue_lt hc) ?_ ?_ ?_
    · exact fun hvalue => hne (eq_of_digitValue_eq hd hc hvalue).symm
    · exact fun hvalues => hnine ⟨eq_of_digitValue_eq hc (d := '9') rfl hvalues.2,
        eq_of_digitValue_eq hd (d := '0') rfl hvalues.1⟩
    · exact fun hvalues => hzero ⟨eq_of_digitValue_eq hc (d := '0') rfl hvalues.2,
        eq_of_digitValue_eq hd (d := '9') rfl hvalues.1⟩

/-- The validator refuses what is not valid. -/
theorem Validator.refuses?_isinChecksum (allowed : List String) (lookup : Option Lookup)
    (s : String) : isinChecksum.refuses? allowed lookup s = none ↔ isValidIsin s = true := by
  have htrim : isValidIsin (Text.trim s) = isValidIsin s := by
    rw [isValidIsin, isValidIsin, Text.trim, String.toList_ofList, Text.trimList_trimList]
  rw [refuses?, refusesTrimmed?]
  exact notChecked?_trim_eq_none_iff htrim fits_of_isValidIsin _ _

/-- **Numbers are checked by the Luhn test, which shows slips among digits.**

* A text without the blanks around it is valid if and only if it is two capital letters, nine
  capital letters or digits and a digit, and the Luhn sum of all its digits, its letters written
  as numbers, is a multiple of ten. The validator refuses all other texts and no others.
* Exactly one check digit completes a body.
* If a valid number has a digit replaced by another one, or two different neighbouring digits
  exchanged that are not a zero and a nine, the result is not valid. -/
theorem isin_checked_by_luhn :
    (∀ s : String, (isValidIsin s = true ↔
      ∃ body check, Text.trimList s.toList = body ++ [check] ∧ IsIsinBody body ∧
        check.isDigit = true ∧ luhnSum (expandedDigits (body ++ [check])) % 10 = 0) ∧
      ∀ (allowed : List String) (lookup : Option Lookup),
        Validator.isinChecksum.refuses? allowed lookup s = none ↔ isValidIsin s = true) ∧
    (∀ body : List Char, IsIsinBody body →
      ∃! check : Char, isValidIsin (String.ofList (body ++ [check])) = true) ∧
    ∀ s t : String, isValidIsin s = true →
      Slip AreDigits AreDigitsButZeroNine s.toList t.toList → isValidIsin t = false := by
  refine ⟨fun s => ⟨isValidIsin_iff s, fun allowed lookup =>
    Validator.refuses?_isinChecksum allowed lookup s⟩, fun body hbody => ?_, fun s t hs hslip => ?_⟩
  · exact ⟨_, (isValidIsin_ofList_iff hbody).2 rfl,
      fun check hvalid => (isValidIsin_ofList_iff hbody).1 hvalid⟩
  · refine eq_false_of_ne_true fun ht => ?_
    obtain ⟨body, check, htrimS, hbodyS, hcheckS, hsumS⟩ := (isValidIsin_iff s).1 hs
    obtain ⟨body', check', htrimT, hbodyT, hcheckT, hsumT⟩ := (isValidIsin_iff t).1 ht
    have hblank : ∀ c d, AreDigits c d →
        Text.isWhiteSpace c = false ∧ Text.isWhiteSpace d = false := fun c d h =>
      ⟨isWhiteSpace_eq_false_of_isDigit h.1, isWhiteSpace_eq_false_of_isDigit h.2⟩
    have htrimmed := hslip.trimList hblank fun c d h => hblank c d h.1
    rw [htrimS, htrimT] at htrimmed
    exact htrimmed.luhnSum_ne (hbodyS.isCodeChar_append hcheckS)
      (hbodyT.isCodeChar_append hcheckT) (hsumS.trans hsumT.symm)

/-- A number with letters among its digits, and its last two digits exchanged. -/
theorem letteredIsin_checked_by_luhn :
    Text.trimList "DE000BAY0017 ".toList = "DE000BAY001".toList ++ ['7'] ∧
      IsIsinBody "DE000BAY001".toList ∧
      luhnSum (expandedDigits ("DE000BAY001".toList ++ ['7'])) % 10 = 0 ∧
      isValidIsin "DE000BAY0017 " = true ∧
      (∃! check : Char, isValidIsin (String.ofList ("DE000BAY001".toList ++ [check])) = true) ∧
      Slip AreDigits AreDigitsButZeroNine "DE000BAY0017 ".toList "DE000BAY0071 ".toList ∧
      isValidIsin "DE000BAY0071 " = false := by
  have htrim : Text.trimList "DE000BAY0017 ".toList = "DE000BAY001".toList ++ ['7'] := by
    decide +kernel
  have hbody : IsIsinBody "DE000BAY001".toList :=
    ⟨rfl, List.all_eq_true.1 rfl, all_admits_iff.1 rfl⟩
  have hsum : luhnSum (expandedDigits ("DE000BAY001".toList ++ ['7'])) % 10 = 0 := by
    decide +kernel
  have hslip : Slip AreDigits AreDigitsButZeroNine "DE000BAY0017 ".toList
      "DE000BAY0071 ".toList :=
    .swap "DE000BAY00".toList [' '] (by decide : '1' ≠ '7') ⟨⟨rfl, rfl⟩, by decide, by decide⟩
  obtain ⟨hiff, hunique, hslips⟩ := isin_checked_by_luhn
  have hvalid : isValidIsin "DE000BAY0017 " = true :=
    (hiff _).1.2 ⟨_, _, htrim, hbody, rfl, hsum⟩
  exact ⟨htrim, hbody, hsum, hvalid, hunique _ hbody, hslip, hslips _ _ hvalid hslip⟩

end RegulatoryReporting

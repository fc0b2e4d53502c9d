import Mathlib.Data.List.Induction
import RegulatoryReporting.Proofs.CodeTexts

/-!
# Checked Legal Entity Identifiers

Two ways to check an identifier agree. One goes through the body and two zeros from left to
right, keeps a remainder modulo 97 and asks whether the check digits complement it to
ninety-eight. The other takes the whole identifier, written out as digits, for one number and
asks whether it is one more than a multiple of 97. They agree because a remainder is kept under
every step (`remainder97_eq`); the check digits that only the second one would accept, `00`,
`01` and `99`, are told apart by their value.

As one number, an identifier shows every slip. The characters that are touched stand for less
than 97 and take the same places before and after, so the numbers differ by a power of ten
times the difference of two such values, or nine or ninety-nine times it. None of these is a
multiple of 97.

## Main results

* `isValidLei_iff` — the two ways to check agree.
* `existsUnique_leiCheck` — one pair of check digits completes a body.
* `lei_checked_modulo_97` — both, with the bounds of the computation and the validator.
* `lei_shows_slips` — no slip gives a valid identifier again.
-/

namespace RegulatoryReporting

/-- The parts of a legal entity identifier: eighteen capital letters or digits, and two check
digits. -/
structure IsLei (body check : List Char) : Prop where
  /-- The body has eighteen characters. -/
  length_body : body.length = 18
  /-- They are capital letters and digits. -/
  isCodeChar_body : ∀ c ∈ body, IsCodeChar c
  /-- Two characters follow. -/
  length_check : check.length = 2
  /-- They are digits. -/
  isDigits_check : IsDigits check

/-- The check digits that no remainder leads to, although the number may be right. -/
def unusedChecks : List (List Char) := [['0', '0'], ['0', '1'], ['9', '9']]

variable {body check cs ds : List Char} {c d : Char} {s t : String}

/-! ### The remainder -/

/-- One more character of a code is a number of one or two more digits. -/
theorem remainderStep_eq (h : IsCodeChar c) (r : Nat) :
    remainderStep r c = (10 ^ (numeral c).length * r + codeValue c) % 97 := by
  rcases h with hupper | hdigit
  · obtain ⟨-, hmin, -⟩ := codeValue_of_isUpper hupper
    rw [remainderStep, if_neg (Nat.not_lt.2 hmin), length_numeral_of_isUpper hupper, Nat.mul_comm]
    rfl
  · have hlt : codeValue c < 10 := codeValue_of_isDigit hdigit ▸ digitValue_lt hdigit
    rw [remainderStep, if_pos hlt, numeral_of_isDigit hdigit, Nat.mul_comm]
    rfl

/-- The remainder that is kept is that of the number that was read. -/
theorem remainder97_eq (h : ∀ c ∈ cs, IsCodeChar c) :
    remainder97 cs = digitsValue (spelledOut cs) % 97 := by
  induction cs using List.reverseRecOn with
  | nil => rfl
  | append_singleton cs c ih =>
    rw [List.forall_mem_append, List.forall_mem_singleton] at h
    have hread : remainder97 (cs ++ [c]) = remainderStep (remainder97 cs) c := by
      rw [remainder97, List.foldl_append]
      rfl
    have hnumber : digitsValue (spelledOut (cs ++ [c])) =
        10 ^ (numeral c).length * digitsValue (spelledOut cs) + codeValue c := by
      rw [spelledOut_append, digitsValue_append, spelledOut_cons, spelledOut, List.flatMap_nil,
        List.append_nil, digitsValue_numeral h.2]
    rw [hread, remainderStep_eq h.2, ih h.1, hnumber, Nat.add_mod, Nat.mul_mod, Nat.mod_mod,
      ← Nat.mul_mod, ← Nat.add_mod]

/-- Two zeros after a body make its number a hundred times as large. -/
theorem remainder97_append_zeros (h : ∀ c ∈ body, IsCodeChar c) :
    remainder97 (body ++ ['0', '0']) = 100 * digitsValue (spelledOut body) % 97 := by
  have hdigits : IsDigits ['0', '0'] := List.all_eq_true.1 rfl
  have hzeros : ∀ c ∈ ['0', '0'], IsCodeChar c := fun c hc => .inr (hdigits c hc)
  rw [remainder97_eq (List.forall_mem_append.2 ⟨h, hzeros⟩), spelledOut_append,
    digitsValue_append]
  rfl

/-! ### The identifier as one number -/

/-- What has the shape of an identifier has its parts. -/
theorem fits_lei_iff : Shape.lei.fits cs = true ↔ ∃ body check, cs = body ++ check ∧
    IsLei body check := by
  rw [Shape.lei, Shape.fits_append_iff]
  constructor
  · rintro ⟨body, check, rfl, hbody, hcheck⟩
    obtain ⟨hlength, hchars⟩ := Shape.fits_run_iff.1 hbody
    obtain ⟨htwo, hdigits⟩ := Shape.fits_run_iff.1 hcheck
    exact ⟨body, check, rfl, hlength, fun c hc => admits_capitalOrDigit_iff.1 (hchars c hc), htwo,
      hdigits⟩
  · rintro ⟨body, check, rfl, hlength, hchars, htwo, hdigits⟩
    exact ⟨body, check, rfl,
      Shape.fits_run_iff.2 ⟨hlength, fun c hc => admits_capitalOrDigit_iff.2 (hchars c hc)⟩,
      Shape.fits_run_iff.2 ⟨htwo, hdigits⟩⟩

/-- A valid identifier has the shape of one. -/
theorem fits_of_isValidLei (h : isValidLei s = true) :
    Shape.lei.fits (Text.trimList s.toList) = true := by
  rw [isValidLei, Bool.and_eq_true] at h
  exact h.1

namespace IsLei

/-- All characters of an identifier are those of codes. -/
theorem isCodeChar (h : IsLei body check) : ∀ c ∈ body ++ check, IsCodeChar c :=
  List.forall_mem_append.2 ⟨h.isCodeChar_body, fun c hc => .inr (h.isDigits_check c hc)⟩

/-- The check digits are the last two digits of the number. -/
theorem digitsValue_eq (h : IsLei body check) :
    digitsValue (spelledOut (body ++ check)) =
      100 * digitsValue (spelledOut body) + digitsValue check := by
  rw [spelledOut_append, spelledOut_of_isDigits h.isDigits_check, digitsValue_append,
    h.length_check]
  rfl

/-- Two check digits write less than a hundred. -/
theorem digitsValue_check_lt (h : IsLei body check) : digitsValue check < 100 := by
  have hlt := digitsValue_lt h.isDigits_check
  rwa [h.length_check] at hlt

/-- The check digits that are not used are told by their values. -/
theorem mem_unusedChecks_iff (h : IsLei body check) :
    check ∈ unusedChecks ↔ digitsValue check = 0 ∨ digitsValue check = 1 ∨
      digitsValue check = 99 := by
  have hvalue : ∀ {unused : List Char}, unused.all Char.isDigit = true → unused.length = 2 →
      (check = unused ↔ digitsValue check = digitsValue unused) := fun hdigits hlength =>
    ⟨congrArg digitsValue, eq_of_digitsValue_eq h.isDigits_check (List.all_eq_true.1 hdigits)
      (h.length_check.trans hlength.symm)⟩
  rw [unusedChecks, List.mem_cons, List.mem_cons, List.mem_singleton, hvalue rfl rfl,
    hvalue rfl rfl, hvalue rfl rfl]
  rfl

/-- An identifier is valid if its check digits complement the remainder to ninety-eight. -/
theorem isValidLei_eq (h : IsLei body check) (hs : Text.trimList s.toList = body ++ check) :
    isValidLei s = true ↔ 98 - remainder97 (body ++ ['0', '0']) = digitsValue check := by
  have hfits : Shape.lei.fits (body ++ check) = true := fits_lei_iff.2 ⟨body, check, rfl, h⟩
  simp only [isValidLei, hs, hfits, Bool.true_and, List.take_left' h.length_body,
    List.drop_left' h.length_body, beq_iff_eq]

end IsLei

/-- **The two ways to check agree.** -/
theorem isValidLei_iff (s : String) :
    isValidLei s = true ↔
      ∃ body check, Text.trimList s.toList = body ++ check ∧ IsLei body check ∧
        digitsValue (spelledOut (body ++ check)) % 97 = 1 ∧ check ∉ unusedChecks := by
  have hagree : ∀ {body check}, Text.trimList s.toList = body ++ check → IsLei body check →
      (isValidLei s = true ↔ digitsValue (spelledOut (body ++ check)) % 97 = 1 ∧
        check ∉ unusedChecks) := by
    intro body check hs hlei
    rw [hlei.isValidLei_eq hs, remainder97_append_zeros hlei.isCodeChar_body, hlei.digitsValue_eq,
      hlei.mem_unusedChecks_iff]
    have hlt := hlei.digitsValue_check_lt
    omega
  constructor
  · intro h
    obtain ⟨body, check, hs, hlei⟩ := fits_lei_iff.1 (fits_of_isValidLei h)
    exact ⟨body, check, hs, hlei, (hagree hs hlei).1 h⟩
  · rintro ⟨body, check, hs, hlei, hnumber⟩
    exact (hagree hs hlei).2 hnumber

/-! ### Completing a body -/

/-- Two characters that make a body valid are its check digits. -/
theorem isLei_of_isValidLei (hlength : body.length = 18)
    (hcheck : check.length = 2) (h : isValidLei (String.ofList (body ++ check)) = true) :
    IsLei body check ∧ Text.trimList (body ++ check) = body ++ check := by
  have hfits := fits_of_isValidLei h
  rw [String.toList_ofList] at hfits
  have hkept : Text.trimList (body ++ check) = body ++ check :=
    Shape.trimList_eq_of_fits hfits (by rw [List.length_append, hlength, hcheck]; rfl)
  rw [hkept] at hfits
  obtain ⟨body', check', hparts, hlei⟩ := fits_lei_iff.1 hfits
  obtain ⟨rfl, rfl⟩ := List.append_inj hparts (hlength.trans hlei.length_body.symm)
  exact ⟨hlei, hkept⟩

/-- The check digits of a body complement its remainder to ninety-eight. -/
theorem isValidLei_ofList_iff (hbody : ∀ c ∈ body, IsCodeChar c) (hlength : body.length = 18)
    (hcheck : check.length = 2) :
    isValidLei (String.ofList (body ++ check)) = true ↔
      check = paddedDigits 2 (98 - remainder97 (body ++ ['0', '0'])) := by
  have htwo : 98 - remainder97 (body ++ ['0', '0']) < 10 ^ 2 := by omega
  constructor
  · intro h
    obtain ⟨hlei, hkept⟩ := isLei_of_isValidLei hlength hcheck h
    refine eq_of_digitsValue_eq hlei.isDigits_check (isDigits_paddedDigits _ _) ?_ ?_
    · rw [hcheck, length_paddedDigits 2 (by decide) htwo]
    · rw [digitsValue_paddedDigits]
      exact ((hlei.isValidLei_eq (by rw [String.toList_ofList, hkept])).1 h).symm
  · rintro rfl
    have hlei : IsLei body (paddedDigits 2 (98 - remainder97 (body ++ ['0', '0']))) :=
      ⟨hlength, hbody, hcheck, isDigits_paddedDigits _ _⟩
    rw [hlei.isValidLei_eq, digitsValue_paddedDigits]
    rw [String.toList_ofList, trimList_of_isCodeChar hlei.isCodeChar]

/-- One pair of check digits completes a body. -/
theorem existsUnique_leiCheck (hbody : ∀ c ∈ body, IsCodeChar c) (hlength : body.length = 18) :
    ∃! check : List Char, check.length = 2 ∧
      isValidLei (String.ofList (body ++ check)) = true := by
  have htwo : 98 - remainder97 (body ++ ['0', '0']) < 10 ^ 2 := by omega
  have hpadded := length_paddedDigits 2 (by decide) htwo
  refine ⟨_, ⟨hpadded, (isValidLei_ofList_iff hbody hlength hpadded).2 rfl⟩, ?_⟩
  rintro check ⟨hcheck, hvalid⟩
  exact (isValidLei_ofList_iff hbody hlength hcheck).1 hvalid

/-- Check digits write a number from two to ninety-eight. -/
theorem leiCheck_bounds (hbody : ∀ c ∈ body, IsCodeChar c) (hlength : body.length = 18)
    (hcheck : check.length = 2) (h : isValidLei (String.ofList (body ++ check)) = true) :
    IsDigits check ∧ 2 ≤ digitsValue check ∧ digitsValue check ≤ 98 := by
  obtain rfl := (isValidLei_ofList_iff hbody hlength hcheck).1 h
  have hlt := remainder97_lt (body ++ ['0', '0'])
  rw [digitsValue_paddedDigits]
  exact ⟨isDigits_paddedDigits _ _, by omega, by omega⟩

/-! ### The validator -/

/-- The validator refuses what is not valid. -/
theorem Validator.refuses?_leiChecksum (allowed : List String) (lookup : Option Lookup)
    (s : String) : leiChecksum.refuses? allowed lookup s = none ↔ isValidLei s = true := by
  have htrim : isValidLei (Text.trim s) = isValidLei s := by
    rw [isValidLei, isValidLei, Text.trim, String.toList_ofList, Text.trimList_trimList]
  rw [refuses?, refusesTrimmed?]
  exact notChecked?_trim_eq_none_iff htrim fits_of_isValidLei _ _

/-- **Identifiers are checked modulo 97 as whole numbers.**

* A text without the blanks around it is valid if and only if it is eighteen capital letters or
  digits and two digits, the number that it writes with its letters written as numbers is one
  more than a multiple of 97, and the two digits are none of `00`, `01` and `99`.
* Exactly one pair of check digits completes a body, and it writes a number from two to
  ninety-eight.
* Whatever was read before a character, the number that is divided next stays within 32 bits,
  and the remainder can be taken away from ninety-eight.
* The validator refuses what is not valid, and nothing else. -/
theorem lei_checked_modulo_97 :
    (∀ s : String, isValidLei s = true ↔
      ∃ body check, Text.trimList s.toList = body ++ check ∧ IsLei body check ∧
        digitsValue (spelledOut (body ++ check)) % 97 = 1 ∧ check ∉ unusedChecks) ∧
    (∀ body : List Char, (∀ c ∈ body, IsCodeChar c) → body.length = 18 →
      (∃! check : List Char, check.length = 2 ∧
        isValidLei (String.ofList (body ++ check)) = true) ∧
      ∀ check : List Char, check.length = 2 →
        isValidLei (String.ofList (body ++ check)) = true →
        IsDigits check ∧ 2 ≤ digitsValue check ∧ digitsValue check ≤ 98) ∧
    (∀ (read : List Char) (c : Char), IsCodeChar c →
      remainder97 read * 100 + codeValue c < 2 ^ 32 ∧ remainder97 read ≤ 98) ∧
    ∀ (allowed : List String) (lookup : Option Lookup) (s : String),
      Validator.leiChecksum.refuses? allowed lookup s = none ↔ isValidLei s = true := by
  refine ⟨isValidLei_iff, fun body hbody hlength => ⟨existsUnique_leiCheck hbody hlength,
    fun check hcheck => leiCheck_bounds hbody hlength hcheck⟩, fun read c hc => ?_,
    Validator.refuses?_leiChecksum⟩
  have hremainder := remainder97_lt read
  have hvalue := codeValue_lt hc
  omega

/-- An identifier with letters and a blank before it. Its body is completed by fifty-five alone,
and the greatest number on the way is far from 32 bits. -/
theorem letteredLei_checked_modulo_97 :
    Text.trimList " 529900T8BM49AURSDO55".toList = "529900T8BM49AURSDO".toList ++ ['5', '5'] ∧
      IsLei "529900T8BM49AURSDO".toList ['5', '5'] ∧
      digitsValue (spelledOut ("529900T8BM49AURSDO".toList ++ ['5', '5'])) % 97 = 1 ∧
      ['5', '5'] ∉ unusedChecks ∧ isValidLei " 529900T8BM49AURSDO55" = true ∧
      (∃! check : List Char, check.length = 2 ∧
        isValidLei (String.ofList ("529900T8BM49AURSDO".toList ++ check)) = true) ∧
      isValidLei (String.ofList ("529900T8BM49AURSDO".toList ++ ['5', '5'])) = true ∧
      digitsValue ['5', '5'] ≤ 98 ∧
      IsCodeChar 'T' ∧ remainder97 "529900".toList * 100 + codeValue 'T' < 2 ^ 32 := by
  have hbody : ∀ c ∈ "529900T8BM49AURSDO".toList, IsCodeChar c :=
    all_admits_iff.1 (by decide +kernel)
  have htrim : Text.trimList " 529900T8BM49AURSDO55".toList =
      "529900T8BM49AURSDO".toList ++ ['5', '5'] := by
    decide +kernel
  have hlei : IsLei "529900T8BM49AURSDO".toList ['5', '5'] :=
    ⟨rfl, hbody, rfl, List.all_eq_true.1 rfl⟩
  have hone : digitsValue (spelledOut ("529900T8BM49AURSDO".toList ++ ['5', '5'])) % 97 = 1 := by
    decide +kernel
  have hused : ['5', '5'] ∉ unusedChecks := by decide
  have hvalid : isValidLei (String.ofList ("529900T8BM49AURSDO".toList ++ ['5', '5'])) = true := by
    decide +kernel
  obtain ⟨hiff, hcomplete, hsteps, -⟩ := lei_checked_modulo_97
  have hpair := hcomplete _ hbody rfl
  exact ⟨htrim, hlei, hone, hused, (hiff _).2 ⟨_, _, htrim, hlei, hone, hused⟩, hpair.1, hvalid,
    (hpair.2 _ rfl hvalid).2.2, by decide, (hsteps _ _ (by decide)).1⟩

/-! ### Slips -/

/-- Characters that do not differ in kind as far as identifiers tell kinds apart: neither is a
blank, and it is not so that one is a digit and the other a capital letter. Any two digits are
alike, and so are any two letters. -/
def AlikeInKind (c d : Char) : Prop :=
  Text.isWhiteSpace c = false ∧ Text.isWhiteSpace d = false ∧
    ¬ (c.isDigit = true ∧ d.isUpper = true) ∧ ¬ (c.isUpper = true ∧ d.isDigit = true)

/-- In codes, characters are alike in kind if both are capital letters or both are digits. -/
theorem AlikeInKind.both (h : AlikeInKind c d) (hc : IsCodeChar c) (hd : IsCodeChar d) :
    (c.isUpper = true ∧ d.isUpper = true) ∨ (c.isDigit = true ∧ d.isDigit = true) := by
  obtain ⟨-, -, hdigit, hupper⟩ := h
  rcases hc with hc | hc <;> rcases hd with hd | hd
  · exact .inl ⟨hc, hd⟩
  · exact absurd ⟨hc, hd⟩ hupper
  · exact absurd ⟨hc, hd⟩ hdigit
  · exact .inr ⟨hc, hd⟩

/-- They take as many places. -/
theorem AlikeInKind.length_numeral (h : AlikeInKind c d) (hc : IsCodeChar c)
    (hd : IsCodeChar d) : (numeral c).length = (numeral d).length := by
  rcases h.both hc hd with ⟨hc, hd⟩ | ⟨hc, hd⟩
  · rw [length_numeral_of_isUpper hc, length_numeral_of_isUpper hd]
  · rw [numeral_of_isDigit hc, numeral_of_isDigit hd]
    rfl

/-- A slip in a code changes its number modulo 97. -/
theorem Slip.not_modEq (h : Slip AlikeInKind AlikeInKind cs ds) (hcs : ∀ c ∈ cs, IsCodeChar c)
    (hds : ∀ c ∈ ds, IsCodeChar c) :
    ¬ digitsValue (spelledOut cs) ≡ digitsValue (spelledOut ds) [MOD 97] := by
  intro hmod
  cases h with
  | @replace before c d after hne halike =>
    have hc : IsCodeChar c := hcs c (by simp)
    have hd : IsCodeChar d := hds d (by simp)
    rw [spelledOut_append_cons, spelledOut_append_cons] at hmod
    have hvalues : codeValue c % 97 = codeValue d % 97 := by
      have hparts := modEq_of_digitsValue (by decide) (halike.length_numeral hc hd) hmod
      rwa [digitsValue_numeral hc, digitsValue_numeral hd] at hparts
    have hclt := codeValue_lt hc
    have hdlt := codeValue_lt hd
    exact hne (eq_of_codeValue_eq hc hd (by omega))
  | @swap before c d after hne halike =>
    have hc : IsCodeChar c := hcs c (by simp)
    have hd : IsCodeChar d := hcs d (by simp)
    rw [spelledOut_append_cons_cons, spelledOut_append_cons_cons] at hmod
    have hvalues : (10 ^ (numeral d).length * codeValue c + codeValue d) % 97 =
        (10 ^ (numeral c).length * codeValue d + codeValue c) % 97 := by
      have hparts := modEq_of_digitsValue (by decide) (by simp [Nat.add_comm]) hmod
      rwa [digitsValue_append, digitsValue_append, digitsValue_numeral hc,
        digitsValue_numeral hd] at hparts
    refine hne (eq_of_codeValue_eq hc hd ?_)
    rcases halike.both hc hd with ⟨hc, hd⟩ | ⟨hc, hd⟩
    · obtain ⟨-, hcmin, hcmax⟩ := codeValue_of_isUpper hc
      obtain ⟨-, hdmin, hdmax⟩ := codeValue_of_isUpper hd
      rw [length_numeral_of_isUpper hc, length_numeral_of_isUpper hd] at hvalues
      omega
    · have hclt : codeValue c < 10 := codeValue_of_isDigit hc ▸ digitValue_lt hc
      have hdlt : codeValue d < 10 := codeValue_of_isDigit hd ▸ digitValue_lt hd
      rw [numeral_of_isDigit hc, numeral_of_isDigit hd, List.length_singleton,
        List.length_singleton] at hvalues
      omega

/-- **The check digits show every slip.** If a valid identifier has a character replaced by
another one of its kind, or two different neighbours of one kind exchanged, wherever this is,
the result is not valid. -/
theorem lei_shows_slips (hs : isValidLei s = true)
    (hslip : Slip AlikeInKind AlikeInKind s.toList t.toList) : isValidLei t = false := by
  refine eq_false_of_ne_true fun ht => ?_
  obtain ⟨body, check, htrimS, hleiS, honeS, -⟩ := (isValidLei_iff s).1 hs
  obtain ⟨body', check', htrimT, hleiT, honeT, -⟩ := (isValidLei_iff t).1 ht
  have hblank : ∀ c d, AlikeInKind c d →
      Text.isWhiteSpace c = false ∧ Text.isWhiteSpace d = false := fun c d h => ⟨h.1, h.2.1⟩
  have htrimmed := hslip.trimList hblank hblank
  rw [htrimS, htrimT] at htrimmed
  exact htrimmed.not_modEq hleiS.isCodeChar hleiT.isCodeChar (honeS.trans honeT.symm)

/-- The last character of the body and the first check digit are exchanged. -/
theorem plainLei_shows_slips :
    isValidLei "00000000000000000195" = true ∧
      Slip AlikeInKind AlikeInKind "00000000000000000195".toList
        "00000000000000000915".toList ∧
      isValidLei "00000000000000000915" = false := by
  have hvalid : isValidLei "00000000000000000195" = true := by decide +kernel
  have hslip : Slip AlikeInKind AlikeInKind "00000000000000000195".toList
      "00000000000000000915".toList :=
    .swap (List.replicate 17 '0') ['5'] (by decide : '1' ≠ '9') (by unfold AlikeInKind; decide)
  exact ⟨hvalid, hslip, lei_shows_slips hvalid hslip⟩

end RegulatoryReporting

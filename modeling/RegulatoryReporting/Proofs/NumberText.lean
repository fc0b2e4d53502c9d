import RegulatoryReporting.Json.Printer
import RegulatoryReporting.Number.Reading
import RegulatoryReporting.Proofs.ShortestDecimal
import RegulatoryReporting.Text.WhiteSpace

/-!
# Numbers Read Back

The text of a number of a JSON value is a loose number that is read to the same number in
binary64: exactly for a binary64 number, which is written in its shortest form, and with the
same rounding for an integer.

A text is described by its parts (`Literal`), with an exponent that shows its sign. The four
layouts of a decimal are four ways to cut its digits into these parts; each of them has the
value of the decimal. Reading the parts gives the digits and a power of ten, and if the
value of these lies in the interval of a number, then this number is read.

## Main results

* `looseNumber?_chars` — reading a text given by its parts.
* `Binary64.exists_literal_decimal` — the layout of a decimal.
* `Binary64.ofDecimal?_of_covers` — reading a value in the interval of a number.
* `Number.exists_literal_text` — the text of a number, given by its parts, is read to the
  number.
-/

namespace RegulatoryReporting

/-! ### Digits -/

/-- A list of decimal digits. -/
def IsDigits (cs : List Char) : Prop := ∀ c ∈ cs, c.isDigit = true

/-- A digit is not blank. -/
theorem isWhiteSpace_eq_false_of_isDigit {c : Char} (hc : c.isDigit = true) :
    Text.isWhiteSpace c = false := by
  have hrange : 48 ≤ c.toNat ∧ c.toNat ≤ 57 := Char.isDigit_iff_toNat.1 hc
  simp only [Text.isWhiteSpace, Bool.or_eq_false_iff, Bool.and_eq_false_iff,
    decide_eq_false_iff_not, beq_eq_false_iff_ne]
  omega

namespace IsDigits

/-- Digits after digits. -/
theorem append {cs ds : List Char} (hcs : IsDigits cs) (hds : IsDigits ds) :
    IsDigits (cs ++ ds) := fun c hc => (List.mem_append.1 hc).elim (hcs c) (hds c)

/-- Some of several digits. -/
theorem of_sublist {cs ds : List Char} (h : cs.Sublist ds) (hds : IsDigits ds) : IsDigits cs :=
  fun c hc => hds c (h.subset hc)

end IsDigits

/-- The digits of a natural number. -/
theorem isDigits_toDigits (n : Nat) : IsDigits (Nat.toDigits 10 n) :=
  fun _ hc => Nat.isDigit_of_mem_toDigits (by decide) (by decide) hc

/-- Zeros are digits. -/
theorem isDigits_replicate (n : Nat) : IsDigits (List.replicate n '0') := fun c hc => by
  rw [(List.mem_replicate.1 hc).2]
  decide

/-- The number that digits write. -/
theorem digitsValue_eq (cs : List Char) : digitsValue cs = Nat.ofDigitChars 10 cs 0 := by
  rw [Nat.ofDigitChars_eq_foldl]
  rfl

/-- The digits of a natural number write this number. -/
@[simp] theorem digitsValue_toDigits (n : Nat) : digitsValue (Nat.toDigits 10 n) = n := by
  rw [digitsValue_eq, Nat.ofDigitChars_ten_toDigits]

/-- Zeros at the end multiply by powers of ten. -/
theorem digitsValue_append_replicate (cs : List Char) (n : Nat) :
    digitsValue (cs ++ List.replicate n '0') = 10 ^ n * digitsValue cs := by
  rw [digitsValue_eq, Nat.ofDigitChars_append, Nat.ofDigitChars_replicate_zero, digitsValue_eq]

/-- Zeros at the beginning do not count. -/
theorem digitsValue_replicate_append (cs : List Char) (n : Nat) :
    digitsValue (List.replicate n '0' ++ cs) = digitsValue cs := by
  rw [digitsValue_eq, Nat.ofDigitChars_append, Nat.ofDigitChars_replicate_zero, Nat.mul_zero,
    digitsValue_eq]

/-- Characters of a kind are taken up to the first character that is not of this kind. -/
theorem takeWhile_append_of_head? {p : Char → Bool} {cs rest : List Char}
    (hcs : ∀ c ∈ cs, p c = true) (hrest : ∀ c ∈ rest.head?, p c = false) :
    (cs ++ rest).takeWhile p = cs := by
  rw [List.takeWhile_append_of_pos hcs]
  cases rest with
  | nil => rw [List.takeWhile_nil, List.append_nil]
  | cons c rest => rw [List.takeWhile_cons_of_neg (by simp [hrest c rfl]), List.append_nil]

/-- Characters of a kind are dropped up to the first character that is not of this kind. -/
theorem dropWhile_append_of_head? {p : Char → Bool} {cs rest : List Char}
    (hcs : ∀ c ∈ cs, p c = true) (hrest : ∀ c ∈ rest.head?, p c = false) :
    (cs ++ rest).dropWhile p = rest := by
  rw [List.dropWhile_append_of_pos hcs]
  cases rest with
  | nil => rfl
  | cons c rest => rw [List.dropWhile_cons_of_neg (by simp [hrest c rfl])]

/-- Digits are read up to the first character that is none. -/
theorem spanDigits_append {cs rest : List Char} (hcs : IsDigits cs)
    (hrest : ∀ c ∈ rest.head?, c.isDigit = false) : spanDigits (cs ++ rest) = (cs, rest) := by
  rw [spanDigits, takeWhile_append_of_head? hcs hrest, dropWhile_append_of_head? hcs hrest]

/-! ### The parts of a text -/

namespace Literal

/-- An exponent with its letter and its sign. -/
def exponentChars (e : Int) : List Char :=
  'e' :: (if e < 0 then '-' else '+') :: Nat.toDigits 10 e.natAbs

/-- The text of the parts without the sign. -/
def body (l : Literal) : List Char :=
  l.whole ++ (l.fraction.elim [] fun f => '.' :: f) ++ l.exponent.elim [] exponentChars

/-- The text of the parts. -/
def chars (l : Literal) : List Char := if l.negative then '-' :: l.body else l.body

/-- All digits. -/
def digits (l : Literal) : List Char := l.whole ++ l.fraction.getD []

/-- The power of ten that the last digit counts. -/
def power (l : Literal) : Int := l.exponent.getD 0 - ((l.fraction.getD []).length : Int)

/-- The value without the sign. -/
def value (l : Literal) : ℚ := digitsValue l.digits * 10 ^ l.power

/-- There are digits where digits should be, and at least one before the point. -/
structure IsWritten (l : Literal) : Prop where
  /-- There is a digit before the point. -/
  whole_ne_nil : l.whole ≠ []
  /-- Before the point there are digits. -/
  whole : IsDigits l.whole
  /-- After the point there are digits. -/
  fraction : ∀ f, l.fraction = some f → IsDigits f

/-- The parts of an integer. -/
def ofInt (n : Int) : Literal := ⟨n < 0, Nat.toDigits 10 n.natAbs, none, none⟩

/-- The parts of an integer are written with digits. -/
theorem isWritten_ofInt (n : Int) : (ofInt n).IsWritten :=
  ⟨Nat.toDigits_ne_nil, isDigits_toDigits _, nofun⟩

/-- The text of the parts begins with a digit, after the sign. -/
theorem IsWritten.exists_body_eq {l : Literal} (h : l.IsWritten) :
    ∃ c rest, l.body = c :: rest ∧ c.isDigit = true := by
  obtain ⟨c, rest, hwhole⟩ := List.exists_cons_of_ne_nil h.whole_ne_nil
  refine ⟨c, rest ++ (l.fraction.elim [] fun f => '.' :: f) ++ l.exponent.elim [] exponentChars,
    by rw [body, hwhole]; rfl, h.whole c ?_⟩
  rw [hwhole]
  exact List.mem_cons_self

end Literal

/-! ### Reading the parts -/

/-- The loose number that a text without a sign writes. -/
def unsignedNumber? (negative : Bool) (cs : List Char) : Option Binary64 :=
  let (whole, cs) := spanDigits cs
  let (fraction, cs) := match cs with
    | '.' :: r => spanDigits r
    | r => ([], r)
  if whole.isEmpty && fraction.isEmpty then none
  else do
    let exponent ← match cs with
      | [] => some 0
      | c :: r => if c == 'e' || c == 'E' then looseExponent? r else none
    Binary64.ofDecimal? negative (digitsValue (whole ++ fraction))
      (exponent - (fraction.length : Int))

/-- A minus sign is taken away. -/
theorem looseNumber?_minus (cs : List Char) :
    looseNumber? (String.ofList ('-' :: cs)) = unsignedNumber? true cs := by
  rw [looseNumber?, String.toList_ofList]
  rfl

/-- A text that begins with a digit has no sign. -/
theorem looseNumber?_of_digit {c : Char} {cs : List Char} (hc : c.isDigit = true) :
    looseNumber? (String.ofList (c :: cs)) = unsignedNumber? false (c :: cs) := by
  rw [looseNumber?, String.toList_ofList]
  split
  next negative rest hsign =>
    split at hsign
    next heq =>
      obtain ⟨rfl, -⟩ := List.cons.inj heq
      exact absurd hc (by decide)
    next heq =>
      obtain ⟨rfl, -⟩ := List.cons.inj heq
      exact absurd hc (by decide)
    next =>
      obtain ⟨rfl, rfl⟩ := Prod.mk.inj hsign
      rfl

/-- An exponent is read. -/
theorem looseExponent?_exponentChars (e : Int) :
    looseExponent? ((if e < 0 then '-' else '+') :: Nat.toDigits 10 e.natAbs) = some e := by
  have hdigits : (Nat.toDigits 10 e.natAbs).all Char.isDigit = true :=
    List.all_eq_true.2 (isDigits_toDigits _)
  have hne : (Nat.toDigits 10 e.natAbs).isEmpty = false := by simp
  by_cases he : e < 0
  · rw [if_pos he, looseExponent?]
    simp only [hdigits, hne, digitsValue_toDigits, Bool.not_true, Bool.or_false,
      Bool.false_eq_true, if_false, if_true, Option.some.injEq]
    omega
  · rw [if_neg he, looseExponent?]
    simp only [hdigits, hne, digitsValue_toDigits, Bool.not_true, Bool.or_false,
      Bool.false_eq_true, if_false, Option.some.injEq]
    omega

/-- The text of the parts without the sign is read to their digits and power of ten. -/
theorem unsignedNumber?_body {l : Literal} (h : l.IsWritten) (negative : Bool) :
    unsignedNumber? negative l.body =
      Binary64.ofDecimal? negative (digitsValue l.digits) l.power := by
  obtain ⟨sign, whole, fraction, exponent⟩ := l
  obtain ⟨hne, hwhole, hfraction⟩ := h
  have hempty : whole.isEmpty = false := by simpa using hne
  have htail : ∀ c ∈ (exponent.elim [] Literal.exponentChars).head?, c.isDigit = false := by
    cases exponent <;> simp [Literal.exponentChars]
  rw [unsignedNumber?, Literal.body, Literal.digits, Literal.power]
  cases fraction with
  | none =>
    rw [Option.elim_none, List.append_nil, spanDigits_append hwhole htail]
    cases exponent with
    | none => simp [hempty]
    | some e => simp [hempty, Literal.exponentChars, looseExponent?_exponentChars]
  | some f =>
    rw [Option.elim_some, List.append_assoc, List.cons_append,
      spanDigits_append hwhole (by simp)]
    simp only [spanDigits_append (hfraction f rfl) htail, hempty, Bool.false_and,
      Bool.false_eq_true, if_false]
    cases exponent with
    | none => rfl
    | some e => simp [Literal.exponentChars, looseExponent?_exponentChars]

/-- The text of the parts is read to their digits and power of ten. -/
theorem looseNumber?_chars {l : Literal} (h : l.IsWritten) :
    looseNumber? (String.ofList l.chars) =
      Binary64.ofDecimal? l.negative (digitsValue l.digits) l.power := by
  rw [Literal.chars]
  cases l.negative with
  | true => rw [if_pos rfl, looseNumber?_minus, unsignedNumber?_body h]
  | false =>
    obtain ⟨c, rest, hbody, hc⟩ := h.exists_body_eq
    rw [if_neg Bool.false_ne_true, hbody, looseNumber?_of_digit hc, ← hbody,
      unsignedNumber?_body h]

/-! ### The layout of a decimal -/

namespace Binary64

section Layout

variable {d : Decimal} {ds : List Char} (negative : Bool)

/-- A decimal below one: zeros after the point, then the digits. -/
def smallLiteral (d : Decimal) (ds : List Char) : Literal :=
  ⟨negative, ['0'], some (List.replicate (-(ds.length + d.exponent)).toNat '0' ++ ds), none⟩

/-- A whole decimal: zeros after the digits, and one after the point. -/
def wholeLiteral (d : Decimal) (ds : List Char) : Literal :=
  ⟨negative, ds ++ List.replicate d.exponent.toNat '0', some ['0'], none⟩

/-- A decimal with the point among its digits. -/
def mixedLiteral (d : Decimal) (ds : List Char) : Literal :=
  ⟨negative, ds.take (ds.length + d.exponent).toNat,
    some (ds.drop (ds.length + d.exponent).toNat), none⟩

/-- A decimal with an exponent and one digit before the point; there is no point if it is the
only digit. -/
def scientificLiteral (d : Decimal) (ds : List Char) : Literal :=
  ⟨negative, ds.take 1, if ds.length = 1 then none else some (ds.drop 1),
    some (ds.length + d.exponent - 1)⟩

variable (hds : IsDigits ds) (hvalue : digitsValue ds = d.digits)

include hvalue in
/-- A decimal below one keeps its value. -/
theorem value_smallLiteral (hpoint : (ds.length : Int) + d.exponent ≤ 0) :
    (smallLiteral negative d ds).value = d.value := by
  have hdigits : digitsValue (smallLiteral negative d ds).digits = d.digits := by
    rw [← hvalue, ← digitsValue_replicate_append ds, ← digitsValue_replicate_append _ 1]
    rfl
  have hpower : (smallLiteral negative d ds).power = d.exponent := by
    rw [Literal.power, smallLiteral, Option.getD_none, Option.getD_some, List.length_append,
      List.length_replicate]
    omega
  rw [Literal.value, hdigits, hpower, Decimal.value]

include hvalue in
/-- A whole decimal keeps its value. -/
theorem value_wholeLiteral (hexponent : 0 ≤ d.exponent) :
    (wholeLiteral negative d ds).value = d.value := by
  obtain ⟨k, hk⟩ := Int.eq_ofNat_of_zero_le hexponent
  have hdigits : digitsValue (wholeLiteral negative d ds).digits =
      10 ^ (k + 1) * d.digits := by
    rw [Literal.digits, wholeLiteral, Option.getD_some, hk, Int.toNat_natCast,
      List.append_assoc, ← hvalue, ← digitsValue_append_replicate, List.replicate_succ']
  have hpower : (wholeLiteral negative d ds).power = -1 := rfl
  rw [Literal.value, hdigits, hpower, Decimal.value, hk, zpow_neg_one, zpow_natCast, pow_succ]
  push_cast
  ring

include hvalue in
/-- A decimal with the point among its digits keeps its value. -/
theorem value_mixedLiteral (hexponent : d.exponent < 0)
    (hpoint : 0 < (ds.length : Int) + d.exponent) :
    (mixedLiteral negative d ds).value = d.value := by
  have hpower : (mixedLiteral negative d ds).power = d.exponent := by
    rw [Literal.power, mixedLiteral, Option.getD_none, Option.getD_some, List.length_drop]
    omega
  rw [Literal.value, hpower, Literal.digits, mixedLiteral, Option.getD_some,
    List.take_append_drop, hvalue, Decimal.value]

include hvalue in
/-- A decimal with an exponent keeps its value. -/
theorem value_scientificLiteral (hne : ds ≠ []) :
    (scientificLiteral negative d ds).value = d.value := by
  have hlength := List.length_pos_iff.2 hne
  have hfraction : (if ds.length = 1 then none else some (ds.drop 1)).getD [] = ds.drop 1 := by
    split
    next h => rw [Option.getD_none, List.drop_eq_nil_of_le h.le]
    next => rfl
  have hpower : (scientificLiteral negative d ds).power = d.exponent := by
    rw [Literal.power, scientificLiteral, hfraction, Option.getD_some, List.length_drop]
    omega
  rw [Literal.value, hpower, Literal.digits, scientificLiteral, hfraction,
    List.take_append_drop, hvalue, Decimal.value]

end Layout

/-- The text of a decimal has parts of the same value, and among them a point or an
exponent. -/
theorem exists_literal_decimal (d : Decimal) (negative : Bool) :
    ∃ l : Literal, l.negative = negative ∧ l.IsWritten ∧ l.body = d.text ∧
      (l.fraction.isSome ∨ l.exponent.isSome) ∧ l.value = d.value := by
  have hds := isDigits_toDigits d.digits
  have hne : Nat.toDigits 10 d.digits ≠ [] := Nat.toDigits_ne_nil
  have hvalue := digitsValue_toDigits d.digits
  rw [Decimal.text]
  generalize Nat.toDigits 10 d.digits = ds at hds hne hvalue ⊢
  have hlength := List.length_pos_iff.2 hne
  simp only
  split
  next hpositional =>
    split
    next hpoint =>
      refine ⟨smallLiteral negative d ds, rfl,
        ⟨List.cons_ne_nil _ _, isDigits_replicate 1, fun f hf => ?_⟩, ?_, .inl rfl,
        value_smallLiteral negative hvalue hpoint⟩
      · rw [← Option.some.inj hf]
        exact (isDigits_replicate _).append hds
      · exact List.append_nil _
    next hpoint =>
      split
      next hexponent =>
        refine ⟨wholeLiteral negative d ds, rfl,
          ⟨List.append_ne_nil_of_left_ne_nil hne _, hds.append (isDigits_replicate _),
            fun f hf => ?_⟩, ?_, .inl rfl, value_wholeLiteral negative hvalue hexponent⟩
        · rw [← Option.some.inj hf]
          exact isDigits_replicate 1
        · exact List.append_nil _
      next hexponent =>
        refine ⟨mixedLiteral negative d ds, rfl,
          ⟨?_, hds.of_sublist (List.take_sublist _ _), fun f hf => ?_⟩, ?_, .inl rfl,
            value_mixedLiteral negative hvalue (by omega) (by omega)⟩
        · rw [mixedLiteral, Ne, List.take_eq_nil_iff, not_or]
          exact ⟨by omega, hne⟩
        · rw [← Option.some.inj hf]
          exact hds.of_sublist (List.drop_sublist _ _)
        · exact List.append_nil _
  next hpositional =>
    refine ⟨scientificLiteral negative d ds, rfl,
      ⟨?_, hds.of_sublist (List.take_sublist _ _), fun f hf => ?_⟩, ?_, .inr rfl,
        value_scientificLiteral negative hvalue hne⟩
    · rw [scientificLiteral, Ne, List.take_eq_nil_iff, not_or]
      exact ⟨by omega, hne⟩
    · rw [scientificLiteral] at hf
      split at hf
      next => cases hf
      next =>
        rw [← Option.some.inj hf]
        exact hds.of_sublist (List.drop_sublist _ _)
    · match ds, hne with
      | [c], _ => simp [scientificLiteral, Literal.body, Literal.exponentChars]
      | c :: c' :: rest, _ => simp [scientificLiteral, Literal.body, Literal.exponentChars]

/-! ### Reading a value in the interval -/

/-- A value in the interval lies between the ends of the interval. -/
theorem Covers.between {x : Binary64} {v : ℚ} (h : x.Covers v) :
    (x.roundingInterval.1 : ℚ) ≤ 4 * v * twoPow 1074 ∧
      4 * v * twoPow 1074 ≤ x.roundingInterval.2.2 := by
  simp only [Covers] at h
  split_ifs at h with heven
  · exact h
  · exact ⟨h.1.le, h.2.le⟩

/-- A value in the interval of a positive number is not too small to be read. -/
theorem Covers.ten_zpow_le {x : Binary64} (hpos : 0 < x.mantissa) {v : ℚ} (h : x.Covers v) :
    (10 : ℚ) ^ (-330 : Int) ≤ v := by
  have hleast : 2 ≤ x.roundingInterval.1 := by
    have hone : 1 * twoPow x.scale ≤ x.mantissa * twoPow x.scale := Nat.mul_le_mul_right _ hpos
    have hstep := x.leastStep_le
    have hscale := twoPow_pos x.scale
    change 2 ≤ 4 * x.magnitude - x.leastStep
    rw [magnitude]
    omega
  have hlow : (2 : ℚ) ≤ 4 * v * twoPow 1074 := le_trans (by exact_mod_cast hleast) h.between.1
  have htwo : (0 : ℚ) < twoPow 1074 := by exact_mod_cast twoPow_pos 1074
  have hunits : ((2 * twoPow 1074 : Nat) : ℚ) ≤ (tenPow 330 : Nat) :=
    Nat.cast_le.2 (by decide +kernel)
  rw [Nat.cast_mul, Nat.cast_ofNat, cast_tenPow, ← zpow_natCast] at hunits
  have hten : (0 : ℚ) < 10 ^ ((330 : Nat) : Int) := zpow_pos (by norm_num) _
  change (10 : ℚ) ^ (-((330 : Nat) : Int)) ≤ v
  rw [zpow_neg, inv_le_iff_one_le_mul₀ hten]
  generalize (twoPow 1074 : ℚ) = u at hlow htwo hunits
  have hv : 0 ≤ v := by
    by_contra hneg
    nlinarith
  nlinarith

/-- A value in the interval of a number is not too large to be read. -/
theorem Covers.lt_ten_zpow {x : Binary64} (hx : x.IsNormal) {v : ℚ} (h : x.Covers v) :
    v < (10 : ℚ) ^ ((310 : Nat) : Int) := by
  have hmost : x.roundingInterval.2.2 < 4 * (twoPow 1024 * twoPow 1074) := by
    have hone : (x.mantissa + 1) * twoPow x.scale ≤ twoPow 53 * twoPow maxScale :=
      Nat.mul_le_mul hx.mantissa_lt (twoPow_le_twoPow hx.scale_le)
    have hscale := twoPow_pos x.scale
    rw [← twoPow_add, show 1024 + 1074 = 53 + maxScale from rfl, twoPow_add]
    change 4 * (x.mantissa * twoPow x.scale) + 2 * twoPow x.scale < _
    rw [Nat.add_mul] at hone
    omega
  have htwo : (0 : ℚ) < twoPow 1074 := by exact_mod_cast twoPow_pos 1074
  have hten : ((twoPow 1024 : Nat) : ℚ) ≤ (tenPow 310 : Nat) :=
    Nat.cast_le.2 (by decide +kernel)
  rw [cast_tenPow, ← zpow_natCast] at hten
  refine lt_of_lt_of_le ?_ hten
  have hhigh : 4 * v * twoPow 1074 < 4 * (twoPow 1024 * twoPow 1074) :=
    lt_of_le_of_lt h.between.2 (by exact_mod_cast hmost)
  rw [mul_assoc] at hhigh
  exact lt_of_mul_lt_mul_right (lt_of_mul_lt_mul_left hhigh (by norm_num)) htwo.le

/-- Digits reach the place that their number says. -/
theorem ten_zpow_decimalLength_le {digits : Nat} (hdigits : 0 < digits) (e : Int) :
    (10 : ℚ) ^ ((decimalLength digits : Int) + e - 1) ≤ digits * 10 ^ e := by
  have hnat : 10 ^ (decimalLength digits - 1) ≤ digits := by
    rw [decimalLength]
    by_contra h
    have hlength := Nat.length_toDigits_pos (b := 10) (n := digits)
    rcases Nat.eq_zero_or_pos ((Nat.toDigits 10 digits).length - 1) with hzero | hmore
    · rw [hzero] at h
      omega
    · have := (Nat.length_toDigits_le_iff (by decide) hmore).2 (Nat.lt_of_not_le h)
      omega
  have hlength : 0 < decimalLength digits := Nat.length_toDigits_pos
  have hsplit : (decimalLength digits : Int) + e - 1 =
      ((decimalLength digits - 1 : Nat) : Int) + e := by
    omega
  rw [hsplit, zpow_add₀ (by norm_num), zpow_natCast]
  exact mul_le_mul_of_nonneg_right (by exact_mod_cast hnat) (zpow_nonneg (by norm_num) _)

/-- Digits do not reach beyond the place that their number says. -/
theorem lt_ten_zpow_decimalLength (digits : Nat) (e : Int) :
    (digits : ℚ) * 10 ^ e < 10 ^ ((decimalLength digits : Int) + e) := by
  have hnat : digits < 10 ^ decimalLength digits :=
    (Nat.length_toDigits_le_iff (by decide) Nat.length_toDigits_pos).1 (Nat.le_refl _)
  rw [zpow_add₀ (by norm_num), zpow_natCast]
  exact mul_lt_mul_of_pos_right (by exact_mod_cast hnat) (zpow_pos (by norm_num) _)

/-- A decimal in the interval of a positive number is read to this number. -/
theorem ofDecimal?_of_covers {x : Binary64} (hx : x.IsNormal) (hpos : 0 < x.mantissa)
    {digits : Nat} {e : Int} (h : x.Covers (digits * 10 ^ e)) :
    ofDecimal? x.negative digits e = some x := by
  have hleast := h.ten_zpow_le hpos
  have hmost := h.lt_ten_zpow hx
  have hdigits : 0 < digits := by
    rw [Nat.pos_iff_ne_zero]
    rintro rfl
    rw [Nat.cast_zero, zero_mul] at hleast
    exact absurd hleast (not_le.2 (zpow_pos (by norm_num) _))
  have hlow : -330 < (decimalLength digits : Int) + e :=
    (zpow_lt_zpow_iff_right₀ (by norm_num)).1
      (hleast.trans_lt (lt_ten_zpow_decimalLength digits e))
  have hhigh : (decimalLength digits : Int) + e - 1 < 310 :=
    (zpow_lt_zpow_iff_right₀ (by norm_num)).1
      ((ten_zpow_decimalLength_le hdigits e).trans_lt hmost)
  have hround : nearest x.negative (tenRatio digits e).1 (tenRatio digits e).2 = x :=
    nearest_eq hx hpos (tenRatio_den_pos _ _) (by rwa [tenRatio_value])
  have hfinite : ofRatio? x.negative (tenRatio digits e).1 (tenRatio digits e).2 = some x := by
    rw [ofRatio?, hround, finite?, if_pos hx.scale_le]
  rw [ofDecimal?, if_neg (by omega), if_neg (by omega)]
  rw [tenRatio] at hfinite
  split at hfinite
  next he => rwa [if_pos he]
  next he => rwa [if_neg he]

/-- Reading no digits but zeros. -/
theorem ofDecimal?_zero (negative : Bool) (e : Int) :
    ofDecimal? negative 0 e = some (zero negative) := by
  rw [ofDecimal?, if_pos (.inl rfl)]

/-- A number of the format whose mantissa is zero is a zero. -/
theorem IsNormal.eq_zero {x : Binary64} (hx : x.IsNormal) (hzero : x.mantissa = 0) :
    x = zero x.negative := by
  obtain ⟨negative, m, s⟩ := x
  obtain rfl : m = 0 := hzero
  obtain rfl : s = 0 := hx.normal.resolve_right (Nat.not_le.2 (twoPow_pos 52))
  rfl

/-- The text of a number of the format has parts, among them a point or an exponent, and the
parts are read to the number. -/
theorem exists_literal_text {x : Binary64} (hx : x.IsNormal) :
    ∃ l : Literal, l.IsWritten ∧ x.text = String.ofList l.chars ∧
      (l.fraction.isSome ∨ l.exponent.isSome) ∧
      ofDecimal? l.negative (digitsValue l.digits) l.power = some x := by
  rw [text]
  by_cases hzero : x.mantissa = 0
  · refine ⟨⟨x.negative, ['0'], some ['0'], none⟩,
      ⟨List.cons_ne_nil _ _, isDigits_replicate 1, fun f hf => ?_⟩, ?_, .inl rfl, ?_⟩
    · rw [← Option.some.inj hf]
      exact isDigits_replicate 1
    · have hisZero : x.isZero = true := beq_iff_eq.2 hzero
      simp only [if_pos hisZero]
      rfl
    · conv_rhs => rw [hx.eq_zero hzero]
      exact ofDecimal?_zero _ _
  · have hpos : 0 < x.mantissa := Nat.pos_of_ne_zero hzero
    obtain ⟨l, hnegative, hwritten, hbody, hpoint, hvalue⟩ :=
      exists_literal_decimal x.shortest x.negative
    refine ⟨l, hwritten, ?_, hpoint, ?_⟩
    · have hnotZero : ¬ x.isZero = true := fun h => hzero (beq_iff_eq.1 h)
      simp only [if_neg hnotZero, Literal.chars, hbody, hnegative]
    · rw [hnegative]
      refine ofDecimal?_of_covers hx hpos ?_
      rw [← Literal.value, hvalue]
      exact covers_shortest hx hpos

/-- An integer of up to 64 bits is read from its digits. -/
theorem ofDecimal?_natAbs {n : Int} (h : n.natAbs < twoPow 64) :
    ofDecimal? (n < 0) n.natAbs 0 = some (ofInt n) := by
  by_cases hzero : n = 0
  · subst hzero
    decide +kernel
  have hshort : decimalLength n.natAbs ≤ 20 :=
    (Nat.length_toDigits_le_iff (by decide) (by decide)).2 (h.trans_le (by decide +kernel))
  have hnormal : (nearest (n < 0) n.natAbs 1).IsNormal :=
    isNormal_nearest (k := 64) (by rwa [Nat.mul_one]) (by decide)
  rw [ofDecimal?, if_neg (by omega), if_neg (by omega), if_pos (by decide), ofRatio?, ofInt]
  change (nearest (n < 0) (n.natAbs * 1) 1).finite? = _
  rw [Nat.mul_one, finite?, if_pos hnormal.scale_le]

end Binary64

/-! ### Numbers of a JSON value -/

namespace Number

/-- The number is one that a JSON value can hold: an integer of 64 bits, with or without a
sign, or a number of the binary64 format. -/
def IsRepresentable : Number → Prop
  | .int n => -(twoPow 63 : Int) ≤ n ∧ n ≤ maxSignificand
  | .float x => x.IsNormal

/-- Whether a number is an integer. -/
def isInt : Number → Bool
  | .int _ => true
  | .float _ => false

/-- The text of an integer. -/
theorem text_int (n : Int) : (int n).text = String.ofList (Literal.ofInt n).chars := by
  rw [text, Int.toString_eq_repr, Int.repr_eq_if, Literal.chars, Literal.body, Literal.ofInt]
  by_cases hn : 0 ≤ n
  · have hnat : n.toNat = n.natAbs := by omega
    have hsign : ¬ n < 0 := by omega
    simp [hn, hsign, Nat.repr_eq_ofList_toDigits, hnat]
  · have hnat : (-n).toNat = n.natAbs := by omega
    have hsign : n < 0 := by omega
    simp [hn, hsign, Nat.repr_eq_ofList_toDigits, hnat]

/-- The text of a number has parts; a point or an exponent is among them unless the number
is an integer. The parts are read to the number in binary64. -/
theorem exists_literal_text {n : Number} (h : n.IsRepresentable) :
    ∃ l : Literal, l.IsWritten ∧ n.text = String.ofList l.chars ∧
      (l.fraction.isNone && l.exponent.isNone) = n.isInt ∧
      looseNumber? n.text = some n.toBinary64 := by
  cases n with
  | int n =>
    obtain ⟨hlow, hhigh⟩ := h
    refine ⟨Literal.ofInt n, Literal.isWritten_ofInt n, text_int n, rfl, ?_⟩
    have hdigits : digitsValue (Literal.ofInt n).digits = n.natAbs := by
      rw [Literal.digits, Literal.ofInt, Option.getD_none, List.append_nil,
        digitsValue_toDigits]
    have hrange : n.natAbs < twoPow 64 := by
      rw [maxSignificand] at hhigh
      have hdouble : twoPow 64 = 2 * twoPow 63 := twoPow_succ 63
      have hpos := twoPow_pos 63
      omega
    rw [text_int, looseNumber?_chars (Literal.isWritten_ofInt n), hdigits]
    exact Binary64.ofDecimal?_natAbs hrange
  | float x =>
    obtain ⟨l, hwritten, htext, hpoint, hread⟩ := Binary64.exists_literal_text h
    refine ⟨l, hwritten, htext, ?_, ?_⟩
    · rw [isInt, Bool.and_eq_false_iff, Option.isNone_eq_false_iff, Option.isNone_eq_false_iff]
      exact hpoint
    · rw [text, htext, looseNumber?_chars hwritten]
      exact hread

end Number

end RegulatoryReporting

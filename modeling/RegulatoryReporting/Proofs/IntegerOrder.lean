import Mathlib.Algebra.Order.Ring.Int
import Mathlib.Tactic.Linarith
import Mathlib.Tactic.Ring
import RegulatoryReporting.Condition.Evaluation
import RegulatoryReporting.Proofs.Rounding

/-!
# The Order of Integers

Integers of a record are compared as binary64 numbers: each is rounded to 53 bits, ties to
even, and the rounded numbers are compared. Rounding keeps the order, but it may take two
integers to one number. So a comparison never turns the order of two integers round, and it
is exact unless it takes different integers to be equal. That happens only from `2 ^ 53` on, and
only to integers that are close for their size.

The rounded integer is described within the integers: `roundedNat n` is the multiple of
`spacing n` that is nearest to `n`.

## Main results

* `Binary64.units_ofInt` — an integer as a binary64 number is the rounded integer.
* `roundedNat_mono`, `roundedNat_error` — rounding keeps the order and changes little.
* `Json.compare_int` — the order of two integers is that of the rounded ones.
* `ConditionLeaf.integers_decided_rounded` — what the operators decide about integers.
-/

namespace RegulatoryReporting

/-! ### Rounding to multiples -/

/-- A common factor does not matter to a rounded quotient. -/
theorem roundHalfEven_mul_mul (num den : Nat) {c : Nat} (hc : 0 < c) :
    roundHalfEven (num * c) (den * c) = roundHalfEven num den := by
  have hbelow : 2 * (num % den * c) < den * c ↔ 2 * (num % den) < den := by
    rw [← Nat.mul_assoc]
    exact Nat.mul_lt_mul_right hc
  have habove : den * c < 2 * (num % den * c) ↔ den < 2 * (num % den) := by
    rw [← Nat.mul_assoc]
    exact Nat.mul_lt_mul_right hc
  simp only [roundHalfEven, Nat.mul_div_mul_right _ _ hc, Nat.mul_mod_mul_right, hbelow, habove]

/-- Rounding keeps the order. -/
theorem roundHalfEven_mono (den : Nat) {a b : Nat} (h : a ≤ b) :
    roundHalfEven a den ≤ roundHalfEven b den := by
  have hquotient : a / den ≤ b / den := Nat.div_le_div_right h
  obtain ⟨-, hupper⟩ := roundHalfEven_bounds a den
  obtain ⟨hlower, -⟩ := roundHalfEven_bounds b den
  rcases Nat.lt_or_eq_of_le hquotient with hlt | heq
  · omega
  · -- With the same quotient, the remainders have the order of the numbers.
    have ha := Nat.div_add_mod a den
    have hb := Nat.div_add_mod b den
    have hrest : a % den ≤ b % den := by
      rw [heq] at ha
      omega
    simp only [roundHalfEven, heq]
    split <;> split <;> grind

/-- A rounded quotient is at most half off. -/
theorem roundHalfEven_error {num den : Nat} (hden : 0 < den) :
    2 * num ≤ 2 * (roundHalfEven num den * den) + den ∧
      2 * (roundHalfEven num den * den) ≤ 2 * num + den := by
  have hnum := Nat.div_add_mod num den
  have hrest := Nat.mod_lt num hden
  rw [Nat.mul_comm] at hnum
  have hnext : (num / den + 1) * den = num / den * den + den := Nat.succ_mul _ _
  simp only [roundHalfEven]
  split
  · omega
  split
  · omega
  split <;> omega

/-! ### Rounding integers -/

/-- The distance of the binary64 numbers around a natural number, where they are whole. -/
def spacing (n : Nat) : Nat := twoPow (n.log2 - 52)

/-- The multiple of the spacing that is nearest to a natural number, ties to even. -/
def roundedNat (n : Nat) : Nat := roundHalfEven n (spacing n) * spacing n

/-- The integer rounded to 53 bits. -/
def roundedInt (i : Int) : Int :=
  if i < 0 then -(roundedNat i.natAbs : Int) else roundedNat i.natAbs

/-- There is some distance. -/
theorem spacing_pos (n : Nat) : 0 < spacing n := twoPow_pos _

/-- Up to `2 ^ 53`, the numbers lie at every integer. -/
theorem spacing_of_lt {n : Nat} (h : n < twoPow 53) : spacing n = 1 := by
  have hlog := log2_lt_of_lt_twoPow (by omega) h
  have hzero : n.log2 - 52 = 0 := by omega
  rw [spacing, hzero]
  rfl

/-- Below `2 ^ 53`, integers are not changed. -/
theorem roundedNat_of_lt {n : Nat} (h : n < twoPow 53) : roundedNat n = n := by
  rw [roundedNat, spacing_of_lt h, Nat.mul_one]
  simpa using roundHalfEven_mul n Nat.one_pos

/-- The power of two at or below a number is a multiple of the spacing from `2 ^ 52` on. -/
theorem twoPow_log2_eq {n : Nat} (h : 52 ≤ n.log2) : twoPow n.log2 = twoPow 52 * spacing n := by
  rw [spacing, ← twoPow_add]
  congr 1
  omega

/-- Rounding leaves a number between the powers of two around it. -/
theorem roundedNat_bounds {n : Nat} (h : n ≠ 0) :
    twoPow n.log2 ≤ roundedNat n ∧ roundedNat n ≤ twoPow (n.log2 + 1) := by
  have hlower : twoPow n.log2 ≤ n := Nat.log2_self_le h
  have hupper : n < twoPow (n.log2 + 1) := Nat.lt_log2_self
  rcases Nat.lt_or_ge n (twoPow 53) with hn | hn
  · rw [roundedNat_of_lt hn]
    exact ⟨hlower, hupper.le⟩
  · have hlog : 53 ≤ n.log2 := le_log2_of_twoPow_le hn
    have hbase := twoPow_log2_eq (n := n) (by omega)
    have hnext : twoPow (n.log2 + 1) = twoPow 53 * spacing n := by
      rw [twoPow_succ, hbase, twoPow_succ 52]
      ring
    constructor
    · have hround := roundHalfEven_mono (spacing n) hlower
      rw [hbase, roundHalfEven_mul _ (spacing_pos n)] at hround
      rw [hbase]
      exact Nat.mul_le_mul_right _ hround
    · have hround := roundHalfEven_mono (spacing n) hupper.le
      rw [hnext, roundHalfEven_mul _ (spacing_pos n)] at hround
      rw [hnext]
      exact Nat.mul_le_mul_right _ hround

/-- Rounding keeps the order of natural numbers. -/
theorem roundedNat_mono {m n : Nat} (h : m ≤ n) : roundedNat m ≤ roundedNat n := by
  by_cases hm : m = 0
  · subst hm
    rw [roundedNat_of_lt (twoPow_pos 53)]
    exact Nat.zero_le _
  have hn : n ≠ 0 := by omega
  have hlog : m.log2 ≤ n.log2 := (Nat.le_log2 hn).2 ((Nat.log2_self_le hm).trans h)
  rcases Nat.lt_or_eq_of_le hlog with hlt | heq
  · -- A power of two lies between the numbers.
    calc roundedNat m ≤ twoPow (m.log2 + 1) := (roundedNat_bounds hm).2
      _ ≤ twoPow n.log2 := twoPow_le_twoPow hlt
      _ ≤ roundedNat n := (roundedNat_bounds hn).1
  · have hspacing : spacing m = spacing n := by rw [spacing, spacing, heq]
    rw [roundedNat, roundedNat, hspacing]
    exact Nat.mul_le_mul_right _ (roundHalfEven_mono _ h)

/-- Rounding changes a natural number by at most the part `2 ^ -53` of it. -/
theorem roundedNat_error (n : Nat) :
    twoPow 53 * n ≤ twoPow 53 * roundedNat n + n ∧
      twoPow 53 * roundedNat n ≤ twoPow 53 * n + n := by
  rcases Nat.lt_or_ge n (twoPow 53) with hn | hn
  · rw [roundedNat_of_lt hn]
    omega
  · have hlog : 53 ≤ n.log2 := le_log2_of_twoPow_le hn
    have hpos := twoPow_pos 53
    have hbase : twoPow 52 * spacing n ≤ n := by
      rw [← twoPow_log2_eq (by omega)]
      exact Nat.log2_self_le (by omega)
    have hdouble : twoPow 53 = 2 * twoPow 52 := twoPow_succ 52
    obtain ⟨hbelow, habove⟩ : 2 * n ≤ 2 * roundedNat n + spacing n ∧
        2 * roundedNat n ≤ 2 * n + spacing n := roundHalfEven_error (spacing_pos n)
    have hbelow := Nat.mul_le_mul_left (twoPow 52) hbelow
    have habove := Nat.mul_le_mul_left (twoPow 52) habove
    rw [hdouble]
    constructor <;> linarith

/-- From `2 ^ 53` on, rounding does not lead below. -/
theorem le_roundedNat {n : Nat} (h : twoPow 53 ≤ n) : twoPow 53 ≤ roundedNat n := by
  have hpos := twoPow_pos 53
  calc twoPow 53 ≤ twoPow n.log2 := twoPow_le_twoPow (le_log2_of_twoPow_le h)
    _ ≤ roundedNat n := (roundedNat_bounds (by omega)).1

/-- A number below `2 ^ 53` is rounded to by no other number. -/
theorem eq_of_roundedNat_eq {m n : Nat} (hm : m < twoPow 53) (h : roundedNat m = roundedNat n) :
    m = n := by
  rw [roundedNat_of_lt hm] at h
  rcases Nat.lt_or_ge n (twoPow 53) with hn | hn
  · rw [h, roundedNat_of_lt hn]
  · have := le_roundedNat hn
    omega

/-! ### Signs -/

/-- The magnitude of a rounded integer is the rounded magnitude. -/
theorem natAbs_roundedInt (i : Int) : (roundedInt i).natAbs = roundedNat i.natAbs := by
  rw [roundedInt]
  split <;> omega

/-- A negative integer is rounded to none above zero. -/
theorem roundedInt_of_neg {i : Int} (h : i < 0) : roundedInt i = -(roundedNat i.natAbs : Int) :=
  if_pos h

/-- Other integers are rounded to none below zero. -/
theorem roundedInt_of_nonneg {i : Int} (h : 0 ≤ i) : roundedInt i = roundedNat i.natAbs :=
  if_neg (by omega)

/-- Rounding keeps the order of integers. -/
theorem roundedInt_mono {i j : Int} (h : i ≤ j) : roundedInt i ≤ roundedInt j := by
  rcases lt_or_ge i 0 with hi | hi <;> rcases lt_or_ge j 0 with hj | hj
  · have hround := roundedNat_mono (m := j.natAbs) (n := i.natAbs) (by omega)
    rw [roundedInt_of_neg hi, roundedInt_of_neg hj]
    omega
  · rw [roundedInt_of_neg hi, roundedInt_of_nonneg hj]
    omega
  · omega
  · have hround := roundedNat_mono (m := i.natAbs) (n := j.natAbs) (by omega)
    rw [roundedInt_of_nonneg hi, roundedInt_of_nonneg hj]
    omega

/-- Rounding changes an integer by at most the part `2 ^ -53` of it. -/
theorem roundedInt_error (i : Int) :
    twoPow 53 * i ≤ twoPow 53 * roundedInt i + i.natAbs ∧
      twoPow 53 * roundedInt i ≤ twoPow 53 * i + i.natAbs := by
  obtain ⟨hbelow, habove⟩ := roundedNat_error i.natAbs
  zify at hbelow habove
  rcases lt_or_ge i 0 with hi | hi
  · have habs : |i| = -i := abs_of_neg hi
    rw [roundedInt_of_neg hi]
    push_cast
    rw [habs] at hbelow habove ⊢
    constructor <;> linarith
  · have habs : |i| = i := abs_of_nonneg hi
    rw [roundedInt_of_nonneg hi]
    push_cast
    rw [habs] at hbelow habove ⊢
    constructor <;> linarith

/-- An integer of less than 53 bits is rounded to by no other integer. -/
theorem eq_of_roundedInt_eq {i j : Int} (hi : i.natAbs < twoPow 53)
    (h : roundedInt i = roundedInt j) : i = j := by
  have hnat : roundedNat i.natAbs = roundedNat j.natAbs := by
    rw [← natAbs_roundedInt, ← natAbs_roundedInt, h]
  have habs : i.natAbs = j.natAbs := eq_of_roundedNat_eq hi hnat
  have hround : roundedNat i.natAbs = i.natAbs := roundedNat_of_lt hi
  rw [roundedInt, roundedInt, ← habs, hround] at h
  split at h <;> split at h <;> omega

/-- Different integers that are rounded to one lie far out, and close together for their
size. -/
theorem close_of_roundedInt_eq {i j : Int} (hne : i ≠ j) (h : roundedInt i = roundedInt j) :
    twoPow 53 ≤ i.natAbs ∧ twoPow 53 ≤ j.natAbs ∧
      twoPow 53 * (i - j).natAbs ≤ i.natAbs + j.natAbs := by
  refine ⟨?_, ?_, ?_⟩
  · by_contra hsmall
    exact hne (eq_of_roundedInt_eq (by omega) h)
  · by_contra hsmall
    exact hne (eq_of_roundedInt_eq (by omega) h.symm).symm
  · obtain ⟨hi, hi'⟩ := roundedInt_error i
    obtain ⟨hj, hj'⟩ := roundedInt_error j
    rw [h] at hi hi'
    zify
    rcases lt_or_ge (i - j) 0 with hlt | hge
    · rw [abs_of_neg hlt]
      push_cast at *
      linarith
    · rw [abs_of_nonneg hge]
      push_cast at *
      linarith

/-! ### Integers as binary64 numbers -/

namespace Binary64

/-- A rounded ratio of a known scale is a multiple of the step of this scale. -/
theorem magnitude_nearest_of_scale {negative : Bool} {num den s : Nat}
    (hs : (num * twoPow 1074 / den).log2 - 52 = s) :
    (nearest negative num den).magnitude =
      roundHalfEven (num * twoPow 1074) (den * twoPow s) * twoPow s := by
  rw [nearest_of_scale hs]
  split
  next hcarry =>
    -- The carried mantissa is halved, and the step is doubled.
    rw [hcarry, magnitude, twoPow_succ s, twoPow_succ 52]
    ring
  next => rfl

/-- A natural number is rounded to the nearest multiple of the spacing. -/
theorem magnitude_nearest_one (negative : Bool) (n : Nat) :
    (nearest negative n 1).magnitude = roundedNat n * twoPow 1074 := by
  by_cases hn : n = 0
  · subst hn
    rw [magnitude_nearest_of_scale rfl, roundedNat_of_lt (twoPow_pos 53), Nat.zero_mul]
    simp [roundHalfEven, twoPow_pos]
  have hlower : twoPow n.log2 ≤ n := Nat.log2_self_le hn
  have hupper : n < twoPow (n.log2 + 1) := Nat.lt_log2_self
  have hs : (n * twoPow 1074 / 1).log2 - 52 = n.log2 + 1022 := by
    refine scale_eq Nat.one_pos ?_ (.inr ?_)
    · have hbits : 53 + (n.log2 + 1022) = n.log2 + 1 + 1074 := by omega
      rw [hbits, twoPow_add, Nat.mul_one]
      exact Nat.mul_lt_mul_of_pos_right hupper (twoPow_pos 1074)
    · have hbits : 52 + (n.log2 + 1022) = n.log2 + 1074 := by omega
      rw [hbits, twoPow_add, Nat.mul_one]
      exact Nat.mul_le_mul_right _ hlower
  rw [magnitude_nearest_of_scale hs, Nat.one_mul]
  rcases Nat.lt_or_ge n.log2 52 with hlog | hlog
  · -- The steps are fractions of one, so that the number is a multiple of them.
    have hsmall : n < twoPow 53 := hupper.trans_le (twoPow_le_twoPow (by omega))
    have hbits : 1074 = 52 - n.log2 + (n.log2 + 1022) := by omega
    have hmultiple : n * twoPow 1074 = n * twoPow (52 - n.log2) * twoPow (n.log2 + 1022) := by
      rw [Nat.mul_assoc, ← twoPow_add, ← hbits]
    rw [roundedNat_of_lt hsmall, hmultiple, roundHalfEven_mul _ (twoPow_pos _)]
  · have hbits : n.log2 + 1022 = n.log2 - 52 + 1074 := by omega
    have hstep : twoPow (n.log2 + 1022) = spacing n * twoPow 1074 := by
      rw [hbits, twoPow_add, spacing]
    rw [hstep, roundHalfEven_mul_mul _ _ (twoPow_pos 1074), roundedNat, Nat.mul_assoc]

/-- Rounding keeps the sign. -/
theorem negative_nearest (negative : Bool) (num den : Nat) :
    (nearest negative num den).negative = negative := by
  rw [nearest_of_scale rfl]
  split <;> rfl

/-- An integer as a binary64 number is the rounded integer. -/
theorem units_ofInt (i : Int) : (ofInt i).units = roundedInt i * twoPow 1074 := by
  rw [units, ofInt, negative_nearest, magnitude_nearest_one, roundedInt]
  generalize twoPow 1074 = unit
  by_cases hi : i < 0
  · rw [decide_eq_true hi, if_pos rfl, if_pos hi, Nat.cast_mul, Int.neg_mul]
  · rw [decide_eq_false hi, if_neg Bool.false_ne_true, if_neg hi, Nat.cast_mul]

end Binary64

/-! ### Comparisons -/

/-- A common positive factor does not matter to the order. -/
theorem compare_mul_right (a b : Int) {c : Int} (hc : 0 < c) :
    Ord.compare (a * c) (b * c) = Ord.compare a b := by
  rcases lt_trichotomy a b with hlt | rfl | hgt
  · rw [compare_lt_iff_lt.2 hlt, compare_lt_iff_lt.2 (Int.mul_lt_mul_of_pos_right hlt hc)]
  · rw [compare_eq_iff_eq.2 rfl, compare_eq_iff_eq.2 rfl]
  · rw [compare_gt_iff_gt.2 hgt, compare_gt_iff_gt.2 (Int.mul_lt_mul_of_pos_right hgt hc)]

/-- The order of rounded integers is that of the integers, unless they are rounded to one. -/
theorem compare_roundedInt (i j : Int) :
    Ord.compare (roundedInt i) (roundedInt j) = Ord.compare i j ∨
      i ≠ j ∧ roundedInt i = roundedInt j := by
  by_cases hsame : roundedInt i = roundedInt j
  · by_cases hij : i = j
    · exact .inl ((compare_eq_iff_eq.2 hsame).trans (compare_eq_iff_eq.2 hij).symm)
    · exact .inr ⟨hij, hsame⟩
  left
  rcases lt_trichotomy i j with hlt | rfl | hgt
  · have hround := lt_of_le_of_ne (roundedInt_mono hlt.le) hsame
    rw [compare_lt_iff_lt.2 hlt, compare_lt_iff_lt.2 hround]
  · exact absurd rfl hsame
  · have hround := lt_of_le_of_ne (roundedInt_mono hgt.le) (Ne.symm hsame)
    rw [compare_gt_iff_gt.2 hgt, compare_gt_iff_gt.2 hround]

/-- Two integers are compared by the rounded integers. -/
theorem Json.compare_int (i j : Int) :
    Json.compare (.num (.int i)) (.num (.int j)) =
      some (Ord.compare (roundedInt i) (roundedInt j)) := by
  have hpos : (0 : Int) < twoPow 1074 := by exact_mod_cast twoPow_pos 1074
  have hnumbers : asNumbers? (.num (.int i)) (.num (.int j)) = some (.ofInt i, .ofInt j) := rfl
  rw [compare, hnumbers]
  simp only [Binary64.compare_eq, Binary64.units_ofInt, compare_mul_right _ _ hpos]

/-- An integer is loosely equal to those that are rounded as it is. -/
theorem Json.looselyEqual_int (i j : Int) :
    Json.looselyEqual (.num (.int i)) (.num (.int j)) = (roundedInt i == roundedInt j) := by
  rw [looselyEqual, compare_int, Bool.eq_iff_iff]
  simp

namespace ConditionLeaf

variable {i : Int} {path : String} {record : Json}

/-- A number is there. -/
theorem presentValue?_eq_of_num (h : resolve record path = some (.num (.int i))) :
    presentValue? record path = some (.num (.int i)) := by
  rw [presentValue?, h]
  rfl

/-- A comparison of an integer of the record with an integer. -/
theorem holds_comparison_int (h : resolve record path = some (.num (.int i))) (j : Int)
    {op : Operator} (hop : op.isComparison = true) :
    holds ⟨path, op, some (.num (.int j))⟩ record =
      .ok (op.admits (some (Ord.compare (roundedInt i) (roundedInt j)))) := by
  rw [holds, presentValue?_eq_of_num h]
  cases op with
  | eq | ne | gt | lt | gte | lte => simp only [holdsOf, Json.compare_int]
  | «in» | notIn | «exists» | notExists | «matches» => cases hop

/-- An integer is a member of a list of integers if one of them is rounded as it is. -/
theorem isMember_int (i : Int) (js : List Int) :
    isMember (.num (.int i)) (some (.arr (js.map fun j => .num (.int j)))) =
      js.any fun j => roundedInt i == roundedInt j := by
  rw [isMember, List.any_map]
  simp only [Function.comp_def, Json.looselyEqual_int]

/-- What conditions decide about integers, of whatever range.

* A comparison decides the order of the rounded integers.
* Membership in a list of integers is that of the rounded integer among rounded ones.
* The order of the rounded integers is that of the integers, unless these differ and are
  rounded to one. Then both reach `2 ^ 53`, and they differ by at most the part `2 ^ -53` of
  their magnitudes. -/
theorem integers_decided_rounded (i j : Int) (js : List Int) :
    (∀ (record : Json) (path : String), resolve record path = some (.num (.int i)) →
      (∀ op : Operator, op.isComparison = true →
        holds ⟨path, op, some (.num (.int j))⟩ record =
          .ok (op.admits (some (Ord.compare (roundedInt i) (roundedInt j))))) ∧
      holds ⟨path, .in, some (.arr (js.map fun j => .num (.int j)))⟩ record =
        .ok (js.any fun j => roundedInt i == roundedInt j) ∧
      holds ⟨path, .notIn, some (.arr (js.map fun j => .num (.int j)))⟩ record =
        .ok (!js.any fun j => roundedInt i == roundedInt j)) ∧
    Json.compare (.num (.int i)) (.num (.int j)) =
      some (Ord.compare (roundedInt i) (roundedInt j)) ∧
    (Ord.compare (roundedInt i) (roundedInt j) = Ord.compare i j ∨
      i ≠ j ∧ roundedInt i = roundedInt j ∧ twoPow 53 ≤ i.natAbs ∧ twoPow 53 ≤ j.natAbs ∧
        twoPow 53 * (i - j).natAbs ≤ i.natAbs + j.natAbs) := by
  refine ⟨fun record path h => ⟨fun op hop => holds_comparison_int h j hop, ?_, ?_⟩,
    Json.compare_int i j, ?_⟩
  · rw [holds, presentValue?_eq_of_num h]
    simp only [holdsOf, isMember_int]
  · rw [holds, presentValue?_eq_of_num h]
    simp only [holdsOf, isMember_int]
  · rcases compare_roundedInt i j with hexact | ⟨hne, hsame⟩
    · exact .inl hexact
    · exact .inr ⟨hne, hsame, close_of_roundedInt_eq hne hsame⟩

/-- A trade whose number has 54 bits. -/
def numberedTrade : Json := .obj [("trade_id", .num (.int 9007199254740993))]

/-- The number of the trade and the one before it are taken to be equal, although they are
different integers of the signed 64-bit range. -/
theorem tradeNumbers_conflated :
    Ord.compare (9007199254740993 : Int) 9007199254740992 = .gt ∧
    Json.compare (.num (.int 9007199254740993)) (.num (.int 9007199254740992)) = some .eq ∧
    holds ⟨"trade_id", .eq, some (.num (.int 9007199254740992))⟩ numberedTrade = .ok true ∧
    holds ⟨"trade_id", .gt, some (.num (.int 9007199254740992))⟩ numberedTrade = .ok false ∧
    holds ⟨"trade_id", .in, some (.arr [.num (.int 9007199254740992)])⟩ numberedTrade =
      .ok true := by
  have hfound : resolve numberedTrade "trade_id" = some (.num (.int 9007199254740993)) := rfl
  have hsame : roundedInt 9007199254740993 = roundedInt 9007199254740992 := by decide +kernel
  have heq : Ord.compare (roundedInt 9007199254740993) (roundedInt 9007199254740992) = .eq :=
    compare_eq_iff_eq.2 hsame
  refine ⟨by decide, ?_, ?_, ?_, ?_⟩
  · rw [Json.compare_int, heq]
  · rw [holds_comparison_int hfound _ rfl, heq]
    rfl
  · rw [holds_comparison_int hfound _ rfl, heq]
    rfl
  · rw [holds, presentValue?_eq_of_num hfound]
    simp only [holdsOf, isMember, List.any_cons, List.any_nil, Json.looselyEqual_int, hsame,
      beq_self_eq_true, Bool.or_false]

end ConditionLeaf

end RegulatoryReporting

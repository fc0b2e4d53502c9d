import Mathlib.Algebra.Order.Field.Power
import Mathlib.Tactic.FieldSimp
import RegulatoryReporting.Proofs.Rounding

/-!
# The Shortest Decimal

The decimal with which a number is written is the first that is found to lie in its
interval, on ever finer grids. This module shows that there always is one, on the grid of
seventeen digits at the latest: seventeen digits of a number are so many that one step of
the grid is less than a step of the format, and so the nearer neighbour lies in the
interval. What is found there has the value that is asked for, and trailing zeros are taken
away without changing it.

The grids are counted from the place of the first digit, which is searched upwards from an
estimate of the logarithm. It is enough that the estimate is not too high: `10 ^ 3` is less
than `2 ^ 10` and `2 ^ 53` is less than `10 ^ 16`, and these are near enough for all scales.

## Main results

* `Binary64.readsBack_iff` — a decimal reads back when its value lies in the interval.
* `Binary64.ten_zpow_decimalReach_le` — a number reaches the place of its first digit.
* `Binary64.covers_shortest` — the shortest decimal lies in the interval of the number.
-/

namespace RegulatoryReporting.Binary64

/-! ### Values of decimals -/

/-- The value of a decimal. -/
def Decimal.value (d : Decimal) : ℚ := d.digits * 10 ^ d.exponent

/-- The denominator of a decimal is positive. -/
theorem tenRatio_den_pos (n : Nat) (e : Int) : 0 < (tenRatio n e).2 := by
  rw [tenRatio]
  split
  · exact Nat.one_pos
  · exact tenPow_pos _

/-- A decimal as a ratio. -/
theorem tenRatio_value (n : Nat) (e : Int) :
    ((tenRatio n e).1 / (tenRatio n e).2 : ℚ) = n * 10 ^ e := by
  rw [tenRatio]
  split
  next he =>
    obtain ⟨k, rfl⟩ := Int.eq_ofNat_of_zero_le he
    simp [tenPow]
  next he =>
    obtain ⟨k, hk⟩ := Int.eq_ofNat_of_zero_le (a := -e) (by omega)
    obtain rfl : e = -k := by omega
    simp [tenPow, div_eq_mul_inv]

/-- The numerator of a decimal counts steps of its grid. -/
theorem tenRatio_fst (n : Nat) (e : Int) : (tenRatio n e).1 = n * (tenRatio 1 e).1 := by
  rw [tenRatio, tenRatio]
  split <;> simp

/-- The denominator of a decimal is that of its grid. -/
theorem tenRatio_snd (n : Nat) (e : Int) : (tenRatio n e).2 = (tenRatio 1 e).2 := by
  rw [tenRatio, tenRatio]
  split <;> rfl

/-- A decimal reads back exactly when its value lies in the interval. -/
theorem readsBack_iff {d : Decimal} {x : Binary64} :
    d.readsBack x = true ↔ x.Covers d.value := by
  rw [Decimal.value, ← tenRatio_value, covers_div_iff (tenRatio_den_pos _ _), Decimal.readsBack]
  simp only
  split <;> simp

/-- Without its trailing zeros a decimal has the same value. -/
theorem value_strip (fuel : Nat) (d : Decimal) : (d.strip fuel).value = d.value := by
  induction fuel generalizing d with
  | zero => rfl
  | succ fuel ih =>
    rw [Decimal.strip]
    split
    next h =>
      obtain ⟨k, hk⟩ := Nat.dvd_of_mod_eq_zero h.2
      rw [ih, Decimal.value, Decimal.value, hk, Nat.mul_div_cancel_left _ (by decide),
        zpow_add_one₀ (by norm_num)]
      push_cast
      ring
    next => rfl

/-! ### Decimals on a grid -/

/-- What is found on a grid lies in the interval. -/
theorem covers_of_onGrid? {x : Binary64} {e : Int} {d : Decimal} (h : x.onGrid? e = some d) :
    x.Covers d.value := by
  rw [onGrid?] at h
  have hfound := List.find?_some h
  exact readsBack_iff.1 hfound

/-- A quarter of this is how far the interval reaches below the number, and it reaches at
least as far above. -/
def leastStep (x : Binary64) : Nat :=
  if x.mantissa = twoPow 52 ∧ x.scale ≠ 0 then twoPow x.scale else 2 * twoPow x.scale

/-- The interval reaches at most half a step. -/
theorem leastStep_le (x : Binary64) : x.leastStep ≤ 2 * twoPow x.scale := by
  rw [leastStep]
  split <;> omega

/-- The interval of a positive number does not reach below zero. -/
theorem leastStep_le_magnitude {x : Binary64} (hpos : 0 < x.mantissa) :
    x.leastStep ≤ 4 * x.magnitude := by
  have hone : 1 * twoPow x.scale ≤ x.mantissa * twoPow x.scale := Nat.mul_le_mul_right _ hpos
  have := x.leastStep_le
  rw [magnitude]
  omega

/-- A decimal that is nearer than a quarter of the least step reads back. -/
theorem readsBack_of_near {x : Binary64} (hpos : 0 < x.mantissa) {e : Int} {q : Nat}
    (hbelow : 4 * (x.magnitude * (tenRatio 1 e).2) <
      4 * (q * ((tenRatio 1 e).1 * twoPow 1074)) + x.leastStep * (tenRatio 1 e).2)
    (habove : 4 * (q * ((tenRatio 1 e).1 * twoPow 1074)) <
      4 * (x.magnitude * (tenRatio 1 e).2) + x.leastStep * (tenRatio 1 e).2) :
    Decimal.readsBack ⟨q, e⟩ x = true := by
  have hstep : x.leastStep * (tenRatio 1 e).2 ≤ 2 * twoPow x.scale * (tenRatio 1 e).2 :=
    Nat.mul_le_mul_right _ x.leastStep_le
  have hmost : x.leastStep * (tenRatio 1 e).2 ≤ 4 * x.magnitude * (tenRatio 1 e).2 :=
    Nat.mul_le_mul_right _ (leastStep_le_magnitude hpos)
  have hlow : (4 * x.magnitude - x.leastStep) * (tenRatio 1 e).2 <
      4 * (q * (tenRatio 1 e).1) * twoPow 1074 := by
    rw [Nat.sub_mul, Nat.mul_assoc, Nat.mul_assoc 4, Nat.mul_assoc q]
    rw [Nat.mul_assoc] at hmost
    omega
  have hhigh : 4 * (q * (tenRatio 1 e).1) * twoPow 1074 <
      (4 * x.magnitude + 2 * twoPow x.scale) * (tenRatio 1 e).2 := by
    rw [Nat.add_mul, Nat.mul_assoc 4, Nat.mul_assoc 4, Nat.mul_assoc q]
    omega
  rw [leastStep] at hlow
  rw [Decimal.readsBack, roundingInterval]
  simp only [tenRatio_fst q, tenRatio_snd q]
  split
  · rw [Bool.and_eq_true, decide_eq_true_iff, decide_eq_true_iff]
    exact ⟨hlow.le, hhigh.le⟩
  · rw [Bool.and_eq_true, decide_eq_true_iff, decide_eq_true_iff]
    exact ⟨hlow, hhigh⟩

/-- If half a step of the grid is less than that, the nearer neighbour reads back. -/
theorem isSome_onGrid? {x : Binary64} (hpos : 0 < x.mantissa) {e : Int}
    (h : 2 * ((tenRatio 1 e).1 * twoPow 1074) < x.leastStep * (tenRatio 1 e).2) :
    (x.onGrid? e).isSome = true := by
  have hd : 0 < (tenRatio 1 e).1 * twoPow 1074 := by
    refine Nat.mul_pos ?_ (twoPow_pos _)
    rw [tenRatio]
    split
    · simpa using tenPow_pos _
    · exact Nat.one_pos
  have hnear := fun q => readsBack_of_near hpos (e := e) (q := q)
  rw [onGrid?, List.find?_isSome, lowerNeighbour]
  simp only
  generalize (tenRatio 1 e).1 * twoPow 1074 = d at h hd hnear ⊢
  have hn := Nat.div_add_mod (x.magnitude * (tenRatio 1 e).2) d
  have hr := Nat.mod_lt (x.magnitude * (tenRatio 1 e).2) hd
  generalize x.magnitude * (tenRatio 1 e).2 / d = q at hn ⊢
  generalize x.magnitude * (tenRatio 1 e).2 % d = r at hn hr ⊢
  split
  next hupper =>
    simp only [Bool.or_eq_true, Bool.and_eq_true, decide_eq_true_iff, beq_iff_eq] at hupper
    refine ⟨⟨q + 1, e⟩, List.mem_cons_self, hnear _ ?_ ?_⟩
    · rw [Nat.add_mul, Nat.mul_comm q]
      omega
    · rw [Nat.add_mul, Nat.mul_comm q]
      omega
  next hlower =>
    simp only [Bool.or_eq_true, Bool.and_eq_true, decide_eq_true_iff, beq_iff_eq] at hlower
    refine ⟨⟨q, e⟩, List.mem_cons_self, hnear _ ?_ ?_⟩
    · rw [Nat.mul_comm q]
      omega
    · rw [Nat.mul_comm q]
      omega

/-! ### The first digit -/

/-- The magnitude of a number as a rational. -/
def absValue (x : Binary64) : ℚ := x.magnitude / twoPow 1074

/-- No number is beyond the range of the format. -/
theorem log2_magnitude_le {x : Binary64} (hx : x.IsNormal) : x.magnitude.log2 ≤ 2097 := by
  have := log2_lt_of_lt_twoPow (by omega) (magnitude_lt hx.mantissa_lt hx.scale_le)
  rw [maxScale] at this
  omega

/-- A power of ten is at most a power of two in the range of the format if its exponent is
less by two than that of the power of two, times the logarithm of two. -/
theorem ten_zpow_le_two_zpow {l b : Int} (hleast : -1074 ≤ l) (hmost : l ≤ 1023)
    (hb : 100000 * (b + 2) ≤ 30103 * l) : (10 : ℚ) ^ b ≤ 2 ^ l := by
  have hpos : (0 : ℚ) ≤ 2 ^ l := zpow_nonneg (by norm_num) l
  rcases le_total 0 l with hl | hl
  · refine le_of_pow_le_pow_left₀ (show 10 ≠ 0 by decide) hpos ?_
    calc ((10 : ℚ) ^ b) ^ 10 = 10 ^ (b * 10) := by rw [zpow_mul]; rfl
      _ ≤ 10 ^ (3 * l) := zpow_le_zpow_right₀ (by norm_num) (by omega)
      _ = (10 ^ 3 : ℚ) ^ l := by rw [zpow_mul]; rfl
      _ ≤ (2 ^ 10 : ℚ) ^ l := zpow_le_zpow_left₀ hl (by norm_num) (by norm_num)
      _ = ((2 : ℚ) ^ l) ^ 10 := by rw [← zpow_natCast, ← zpow_natCast, zpow_comm]
  · refine le_of_pow_le_pow_left₀ (show 53 ≠ 0 by decide) hpos ?_
    calc ((10 : ℚ) ^ b) ^ 53 = 10 ^ (b * 53) := by rw [zpow_mul]; rfl
      _ ≤ 10 ^ (16 * l) := zpow_le_zpow_right₀ (by norm_num) (by omega)
      _ = (10 ^ 16 : ℚ) ^ l := by rw [zpow_mul]; rfl
      _ ≤ (2 ^ 53 : ℚ) ^ l := by
        obtain ⟨t, rfl⟩ := Int.exists_eq_neg_ofNat hl
        rw [zpow_neg, zpow_neg, zpow_natCast, zpow_natCast]
        exact inv_anti₀ (by positivity) (pow_le_pow_left₀ (by norm_num) (by norm_num) t)
      _ = ((2 : ℚ) ^ l) ^ 53 := by rw [← zpow_natCast, ← zpow_natCast, zpow_comm]

/-- A number is below a power of ten. -/
theorem below_iff {x : Binary64} {k : Int} :
    x.magnitude * (tenRatio 1 k).2 < (tenRatio 1 k).1 * twoPow 1074 ↔ x.absValue < 10 ^ k := by
  have hden : (0 : ℚ) < (tenRatio 1 k).2 := by exact_mod_cast tenRatio_den_pos 1 k
  have htwo : (0 : ℚ) < twoPow 1074 := by exact_mod_cast twoPow_pos 1074
  have hvalue := tenRatio_value 1 k
  rw [Nat.cast_one, one_mul] at hvalue
  rw [absValue, ← hvalue, div_lt_div_iff₀ htwo hden, ← Nat.cast_mul, ← Nat.cast_mul,
    Nat.cast_lt]

/-- A number is at least the power of two that its logarithm names. -/
theorem two_zpow_le_absValue {x : Binary64} (hpos : 0 < x.mantissa) :
    (2 : ℚ) ^ ((x.magnitude.log2 : Int) - (1074 : ℕ)) ≤ x.absValue := by
  have hne : x.magnitude ≠ 0 := (Nat.mul_pos hpos (twoPow_pos _)).ne'
  have htwo : (0 : ℚ) < twoPow 1074 := by exact_mod_cast twoPow_pos 1074
  have hlog : (2 : ℚ) ^ x.magnitude.log2 ≤ x.magnitude := by
    exact_mod_cast Nat.log2_self_le hne
  rw [absValue, zpow_sub₀ (by norm_num), zpow_natCast, zpow_natCast, ← cast_twoPow 1074]
  exact div_le_div_of_nonneg_right hlog htwo.le

/-- A search upwards stops at its beginning or after a place that was passed over. -/
theorem eq_or_not_of_search (p : Int → Bool) (k : Int) :
    ∃ r, (((List.range 4).map fun (i : Nat) => k + (i : Int)).find? p).getD (k + 4) = r ∧
      (r = k ∨ p (r - 1) = false) := by
  have hplaces : (List.range 4).map (fun (i : Nat) => k + (i : Int)) =
      [k + (0 : Nat), k + (1 : Nat), k + (2 : Nat), k + (3 : Nat)] := rfl
  refine ⟨_, rfl, ?_⟩
  rw [hplaces]
  simp only [List.find?_cons, List.find?_nil, Nat.cast_zero, Nat.cast_one, add_zero]
  grind

/-- A number is at least the power of ten of its first digit. -/
theorem ten_zpow_decimalReach_le {x : Binary64} (hx : x.IsNormal) (hpos : 0 < x.mantissa) :
    (10 : ℚ) ^ (x.decimalReach - 1) ≤ x.absValue := by
  have hlog := log2_magnitude_le hx
  have hestimate : (10 : ℚ) ^ (((x.magnitude.log2 : Int) - 1074) * 30103 / 100000 - 1 - 1) ≤
      x.absValue :=
    (ten_zpow_le_two_zpow (by omega) (by omega) (by omega)).trans (two_zpow_le_absValue hpos)
  rw [decimalReach]
  generalize ((x.magnitude.log2 : Int) - 1074) * 30103 / 100000 - 1 = k at hestimate ⊢
  obtain ⟨r, hr, hrest⟩ := eq_or_not_of_search (fun k =>
    x.magnitude * (tenRatio 1 k).2 < (tenRatio 1 k).1 * twoPow 1074) k
  simp only
  rw [hr]
  rcases hrest with rfl | hrest
  · exact hestimate
  · rw [decide_eq_false_iff_not, below_iff, not_lt] at hrest
    exact hrest

/-! ### Seventeen digits -/

/-- A number has fewer than `10 ^ 16` half steps. -/
theorem magnitude_lt_leastStep {x : Binary64} (hx : x.IsNormal) :
    2 * x.magnitude < 10 ^ 16 * x.leastStep := by
  have hstep := twoPow_pos x.scale
  rw [magnitude, leastStep]
  split
  next hleast =>
    have hlt : 2 * x.mantissa < 10 ^ 16 := by
      rw [hleast.1]
      decide
    have := Nat.mul_lt_mul_of_pos_right hlt hstep
    linarith
  next =>
    have hlt : x.mantissa < 10 ^ 16 := hx.mantissa_lt.trans (by decide)
    have := Nat.mul_lt_mul_of_pos_right hlt hstep
    linarith

/-- On the grid of seventeen digits there is a decimal that reads back. -/
theorem isSome_onGrid?_seventeenth {x : Binary64} (hx : x.IsNormal) (hpos : 0 < x.mantissa) :
    (x.onGrid? (x.decimalReach - 17)).isSome = true := by
  refine isSome_onGrid? hpos ?_
  have hreach := ten_zpow_decimalReach_le hx hpos
  generalize x.decimalReach = k at hreach ⊢
  have hgrid : (10 : ℚ) ^ 16 * ((tenRatio 1 (k - 17)).1 / (tenRatio 1 (k - 17)).2) ≤
      x.absValue := by
    rw [tenRatio_value, Nat.cast_one, one_mul, ← zpow_natCast, ← zpow_add₀ (by norm_num)]
    convert hreach using 2
    push_cast
    ring
  have hden := tenRatio_den_pos 1 (k - 17)
  have hden' : (0 : ℚ) < (tenRatio 1 (k - 17)).2 := by exact_mod_cast hden
  have htwo : (0 : ℚ) < twoPow 1074 := by exact_mod_cast twoPow_pos 1074
  rw [absValue, ← mul_div_assoc, div_le_div_iff₀ hden' htwo] at hgrid
  have hnat : 10 ^ 16 * ((tenRatio 1 (k - 17)).1 * twoPow 1074) ≤
      x.magnitude * (tenRatio 1 (k - 17)).2 := by
    rw [← Nat.mul_assoc, ← Nat.cast_le (α := ℚ)]
    push_cast
    exact hgrid
  have hlt := Nat.mul_lt_mul_of_pos_right (magnitude_lt_leastStep hx) hden
  generalize (tenRatio 1 (k - 17)).1 * twoPow 1074 = d at hnat ⊢
  rw [Nat.mul_assoc, Nat.mul_assoc] at hlt
  omega

/-- The shortest decimal lies in the interval of the number. -/
theorem covers_shortest {x : Binary64} (hx : x.IsNormal) (hpos : 0 < x.mantissa) :
    x.Covers x.shortest.value := by
  rw [shortest, value_strip]
  have hsome : (((List.range 17).map fun (i : Nat) => x.decimalReach - ((i : Int) + 1)).findSome?
      x.onGrid?).isSome = true := by
    rw [List.findSome?_isSome_iff]
    refine ⟨x.decimalReach - 17, List.mem_map.2 ⟨16, by decide, by norm_num⟩, ?_⟩
    exact isSome_onGrid?_seventeenth hx hpos
  obtain ⟨d, hd⟩ := Option.isSome_iff_exists.1 hsome
  simp only [hd, Option.getD_some]
  obtain ⟨e, -, he⟩ := List.exists_of_findSome?_eq_some hd
  exact covers_of_onGrid? he

end RegulatoryReporting.Binary64

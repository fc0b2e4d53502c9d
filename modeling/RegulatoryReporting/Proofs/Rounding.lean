import Mathlib.Data.Rat.Cast.Order
import Mathlib.Tactic.Linarith
import Mathlib.Tactic.Ring
import RegulatoryReporting.Number.Shortest

/-!
# Rounding to the Nearest Number

Every rational number rounds to the binary64 number in whose interval it lies: halfway to
the neighbours on both sides, and only a quarter of the way below the least mantissa, where
the numbers below lie twice as close. The ends of the interval belong to it if the mantissa
is even. This module shows that `Binary64.nearest` does so: a ratio is rounded to a number
as soon as it lies in the interval of this number.

There are two ways to get there. Mostly the ratio has the scale of the number, and rounding
it to a natural number of steps gives the mantissa. A ratio below the least mantissa has the
next smaller scale; it is rounded up to `2 ^ 53` steps, which are then halved.

## Main results

* `roundHalfEven_eq` — which ratios are rounded to a natural number.
* `Binary64.nearest_eq` — a ratio in the interval of a number is rounded to this number.
* `Binary64.isNormal_nearest` — a ratio in range is rounded to a number of the format.
-/

namespace RegulatoryReporting

/-- A power of two as a rational. -/
theorem cast_twoPow (n : Nat) : (twoPow n : ℚ) = 2 ^ n := Nat.cast_pow 2 n

/-- A power of ten as a rational. -/
theorem cast_tenPow (n : Nat) : (tenPow n : ℚ) = 10 ^ n := Nat.cast_pow 10 n

/-- A ratio that lies within half a step of a natural number is rounded to it, half a step
away only if the number is even. -/
theorem roundHalfEven_eq {m num den : Nat} (hden : 0 < den)
    (hlow : 2 * m * den ≤ 2 * num + den) (hhigh : 2 * num ≤ 2 * m * den + den)
    (hodd : m % 2 = 1 → 2 * m * den < 2 * num + den ∧ 2 * num < 2 * m * den + den) :
    roundHalfEven num den = m := by
  have hnum := Nat.div_add_mod num den
  have hrest := Nat.mod_lt num hden
  rw [roundHalfEven]
  generalize num / den = q at hnum ⊢
  generalize num % den = r at hnum hrest ⊢
  have hlower : q ≤ m := by
    by_contra h
    have : den * (m + 1) ≤ den * q := Nat.mul_le_mul_left den (by omega)
    linarith
  have hupper : m ≤ q + 1 := by
    by_contra h
    have : den * (q + 2) ≤ den * m := Nat.mul_le_mul_left den (by omega)
    linarith
  obtain rfl | rfl : m = q ∨ m = q + 1 := by omega
  · have hr : 2 * r ≤ den := by linarith
    have hstrict : m % 2 = 1 → 2 * r < den := fun h => by linarith [hodd h]
    grind
  · have hr : den ≤ 2 * r := by linarith
    have hstrict : q % 2 = 0 → den < 2 * r := fun h => by linarith [hodd (by omega)]
    grind

/-- A ratio is rounded down or up. -/
theorem roundHalfEven_bounds (num den : Nat) :
    num / den ≤ roundHalfEven num den ∧ roundHalfEven num den ≤ num / den + 1 := by
  simp only [roundHalfEven]
  split
  · omega
  split
  · omega
  split <;> omega

namespace Binary64

/-- The number is one of the format, written in the one way that it has there. -/
structure IsNormal (x : Binary64) : Prop where
  /-- The mantissa has at most 53 bits. -/
  mantissa_lt : x.mantissa < twoPow 53
  /-- It has less only at the least scale. -/
  normal : x.scale = 0 ∨ twoPow 52 ≤ x.mantissa
  /-- The scale is in range. -/
  scale_le : x.scale ≤ maxScale

/-- A value lies in the interval of reals that round to the number. -/
def Covers (x : Binary64) (v : ℚ) : Prop :=
  let (low, _, high) := x.roundingInterval
  if x.mantissa % 2 = 0 then (low : ℚ) ≤ 4 * v * twoPow 1074 ∧ 4 * v * twoPow 1074 ≤ high
  else (low : ℚ) < 4 * v * twoPow 1074 ∧ 4 * v * twoPow 1074 < high

/-- A ratio lies in the interval if it does so after multiplication by the denominator. -/
theorem covers_div_iff {x : Binary64} {num den : Nat} (hden : 0 < den) :
    x.Covers (num / den : ℚ) ↔
      if x.mantissa % 2 = 0 then x.roundingInterval.1 * den ≤ 4 * num * twoPow 1074 ∧
        4 * num * twoPow 1074 ≤ x.roundingInterval.2.2 * den
      else x.roundingInterval.1 * den < 4 * num * twoPow 1074 ∧
        4 * num * twoPow 1074 < x.roundingInterval.2.2 * den := by
  have hpos : (0 : ℚ) < den := by exact_mod_cast hden
  have hvalue : 4 * (num / den : ℚ) * twoPow 1074 = (4 * num * twoPow 1074 : ℕ) / (den : ℚ) := by
    push_cast
    ring
  rw [Covers]
  simp only [hvalue, le_div_iff₀ hpos, div_le_iff₀ hpos, lt_div_iff₀ hpos, div_lt_iff₀ hpos]
  norm_cast

/-! ### Rounding a ratio -/

/-- The scale that is computed for a ratio of units is that of its binade. -/
theorem scale_eq {n den s : Nat} (hden : 0 < den) (hupper : n < twoPow (53 + s) * den)
    (hlower : s = 0 ∨ twoPow (52 + s) * den ≤ n) : (n / den).log2 - 52 = s := by
  have hlog : (n / den).log2 < 53 + s := by
    refine log2_lt_of_lt_twoPow (by omega) (Nat.div_lt_of_lt_mul ?_)
    rwa [Nat.mul_comm]
  rcases hlower with rfl | hlower
  · omega
  · have := le_log2_of_twoPow_le ((Nat.le_div_iff_mul_le hden).2 hlower)
    omega

/-- Rounding a ratio of a known scale. -/
theorem nearest_of_scale {negative : Bool} {num den s : Nat}
    (hs : (num * twoPow 1074 / den).log2 - 52 = s) :
    nearest negative num den =
      if roundHalfEven (num * twoPow 1074) (den * twoPow s) = twoPow 53 then
        ⟨negative, twoPow 52, s + 1⟩
      else ⟨negative, roundHalfEven (num * twoPow 1074) (den * twoPow s), s⟩ := by
  simp only [nearest, hs]

/-- A ratio that is at least the least mantissa and lies within half a step of a mantissa is
rounded to it. -/
theorem nearest_eq_of_within {negative : Bool} {m s num den : Nat} (hden : 0 < den)
    (hm : m < twoPow 53)
    (hscale : s = 0 ∨ twoPow 52 * (den * twoPow s) ≤ num * twoPow 1074)
    (hlow : 2 * (m * (den * twoPow s)) ≤ 2 * (num * twoPow 1074) + den * twoPow s)
    (hhigh : 2 * (num * twoPow 1074) ≤ 2 * (m * (den * twoPow s)) + den * twoPow s)
    (hodd : m % 2 = 1 →
      2 * (m * (den * twoPow s)) < 2 * (num * twoPow 1074) + den * twoPow s ∧
        2 * (num * twoPow 1074) < 2 * (m * (den * twoPow s)) + den * twoPow s) :
    nearest negative num den = ⟨negative, m, s⟩ := by
  have hstep : 0 < den * twoPow s := Nat.mul_pos hden (twoPow_pos s)
  have hbinade : ∀ k, twoPow (k + s) * den = twoPow k * (den * twoPow s) := fun k => by
    rw [twoPow_add]
    ring
  have hs : (num * twoPow 1074 / den).log2 - 52 = s := by
    refine scale_eq hden ?_ ?_
    · have hle : (m + 1) * (den * twoPow s) ≤ twoPow 53 * (den * twoPow s) :=
        Nat.mul_le_mul_right _ hm
      rw [hbinade]
      linarith
    · rw [hbinade]
      exact hscale
  rw [← Nat.mul_assoc 2 m] at hlow hhigh hodd
  rw [nearest_of_scale hs, roundHalfEven_eq hstep hlow hhigh hodd, if_neg (Nat.ne_of_lt hm)]

/-- A ratio that lies a quarter of a step below the least mantissa is rounded to it: at the
next smaller scale it is half a step below `2 ^ 53`. -/
theorem nearest_eq_of_below {negative : Bool} {s num den : Nat} (hden : 0 < den)
    (hlow : 4 * (twoPow 52 * (den * twoPow (s + 1))) ≤
      4 * (num * twoPow 1074) + den * twoPow (s + 1))
    (hhigh : num * twoPow 1074 < twoPow 52 * (den * twoPow (s + 1))) :
    nearest negative num den = ⟨negative, twoPow 52, s + 1⟩ := by
  have hstep : 0 < den * twoPow s := Nat.mul_pos hden (twoPow_pos s)
  have hdouble : den * twoPow (s + 1) = 2 * (den * twoPow s) := by
    rw [twoPow_succ]
    ring
  have hmost : twoPow 53 = 2 * twoPow 52 := twoPow_succ 52
  rw [hdouble] at hlow hhigh
  have hbinade : ∀ k, twoPow (k + s) * den = twoPow k * (den * twoPow s) := fun k => by
    rw [twoPow_add]
    ring
  have hs : (num * twoPow 1074 / den).log2 - 52 = s := by
    refine scale_eq hden ?_ (.inr ?_)
    · rw [hbinade, hmost]
      linarith
    · have hone : 1 * (den * twoPow s) ≤ twoPow 52 * (den * twoPow s) :=
        Nat.mul_le_mul_right _ (twoPow_pos 52)
      rw [hbinade]
      linarith
  have hround : roundHalfEven (num * twoPow 1074) (den * twoPow s) = twoPow 53 := by
    rw [hmost]
    refine roundHalfEven_eq hstep ?_ ?_ fun h => by omega
    · linarith
    · linarith
  rw [nearest_of_scale hs, if_pos hround]

/-- A ratio in the interval of a positive number is rounded to this number. -/
theorem nearest_eq {x : Binary64} (hx : x.IsNormal) (hpos : 0 < x.mantissa) {num den : Nat}
    (hden : 0 < den) (h : x.Covers (num / den : ℚ)) : nearest x.negative num den = x := by
  obtain ⟨negative, m, s⟩ := x
  obtain ⟨hm, hnormal, -⟩ := hx
  rw [covers_div_iff hden, Nat.mul_assoc 4] at h
  simp only [roundingInterval, magnitude, Nat.sub_mul, Nat.add_mul, ite_mul] at h hm hnormal hpos ⊢
  have hvalue : 4 * (m * twoPow s) * den = 4 * (m * (den * twoPow s)) := by ring
  have hstep : 2 * twoPow s * den = 2 * (den * twoPow s) := by ring
  rw [hvalue, hstep, Nat.mul_comm (twoPow s) den] at h
  have hpos : 1 * (den * twoPow s) ≤ m * (den * twoPow s) := Nat.mul_le_mul_right _ hpos
  by_cases hleast : m = twoPow 52 ∧ s ≠ 0
  · obtain ⟨rfl, hs⟩ := hleast
    have heven : twoPow 52 % 2 = 0 := by decide
    rw [if_pos heven, if_pos ⟨rfl, hs⟩] at h
    obtain ⟨s, rfl⟩ := Nat.exists_eq_add_one_of_ne_zero hs
    rcases Nat.lt_or_ge (num * twoPow 1074) (twoPow 52 * (den * twoPow (s + 1))) with hn | hn
    · exact nearest_eq_of_below hden (by omega) hn
    · exact nearest_eq_of_within hden hm (.inr hn) (by omega) (by omega) fun hodd => by omega
  · rw [if_neg hleast] at h
    have hscale : s = 0 ∨ twoPow 52 * (den * twoPow s) ≤ num * twoPow 1074 := by
      by_cases hs : s = 0
      · exact .inl hs
      · have hmore : (twoPow 52 + 1) * (den * twoPow s) ≤ m * (den * twoPow s) :=
          Nat.mul_le_mul_right _ (by omega)
        rw [Nat.add_mul] at hmore
        right
        split at h <;> omega
    refine nearest_eq_of_within hden hm hscale ?_ ?_ fun hodd => ?_
    · split at h <;> omega
    · split at h <;> omega
    · rw [if_neg (by omega)] at h
      omega

/-! ### Numbers of the format -/

/-- Rounding a ratio gives a mantissa of at most 53 bits, and of no less unless the scale is
the least one. -/
theorem mantissa_nearest (negative : Bool) (num den : Nat) :
    (nearest negative num den).mantissa < twoPow 53 ∧
      ((nearest negative num den).scale = 0 ∨
        twoPow 52 ≤ (nearest negative num den).mantissa) := by
  obtain ⟨s, hs⟩ : ∃ s, (num * twoPow 1074 / den).log2 - 52 = s := ⟨_, rfl⟩
  rw [nearest_of_scale hs]
  have hround := roundHalfEven_bounds (num * twoPow 1074) (den * twoPow s)
  rw [← Nat.div_div_eq_div_mul] at hround
  have hmost : twoPow 53 = 2 * twoPow 52 := twoPow_succ 52
  have hleast := twoPow_pos 52
  have hupper : num * twoPow 1074 / den / twoPow s < twoPow 53 := by
    refine Nat.div_lt_of_lt_mul ?_
    rw [← twoPow_add]
    exact Nat.lt_log2_self.trans_le (Nat.pow_le_pow_right (by decide) (by omega))
  have hlower : s ≠ 0 → twoPow 52 ≤ num * twoPow 1074 / den / twoPow s := by
    intro hne
    rw [Nat.le_div_iff_mul_le (twoPow_pos s), ← twoPow_add]
    have hlog : 52 + s = (num * twoPow 1074 / den).log2 := by omega
    rw [hlog]
    refine Nat.log2_self_le ?_
    rintro hzero
    rw [hzero, Nat.log2_zero] at hlog
    omega
  split
  next =>
    refine ⟨?_, .inr (Nat.le_refl _)⟩
    simp only
    omega
  next hne =>
    refine ⟨?_, ?_⟩
    · simp only
      omega
    · by_cases hs : s = 0
      · exact .inl hs
      · right
        have := hlower hs
        simp only
        omega

/-- A ratio below a power of two is rounded to a number of about the scale of this power. -/
theorem scale_nearest_le (negative : Bool) {num den k : Nat} (hk : num < twoPow k * den) :
    (nearest negative num den).scale ≤ k + 1022 := by
  obtain ⟨s, hs⟩ : ∃ s, (num * twoPow 1074 / den).log2 - 52 = s := ⟨_, rfl⟩
  have hlt : num * twoPow 1074 / den < twoPow (k + 1074) := by
    refine Nat.div_lt_of_lt_mul ?_
    have := Nat.mul_lt_mul_of_pos_right hk (twoPow_pos 1074)
    rw [twoPow_add]
    calc num * twoPow 1074 < twoPow k * den * twoPow 1074 := this
      _ = den * (twoPow k * twoPow 1074) := by ring
  have hlog := log2_lt_of_lt_twoPow (by omega) hlt
  rw [nearest_of_scale hs]
  split <;> simp only <;> omega

/-- A ratio that is not too large is rounded to a number of the format. -/
theorem isNormal_nearest {negative : Bool} {num den k : Nat} (hk : num < twoPow k * den)
    (hmost : k ≤ 1023) : (nearest negative num den).IsNormal := by
  obtain ⟨hmantissa, hnormal⟩ := mantissa_nearest negative num den
  have hscale := scale_nearest_le negative hk
  exact ⟨hmantissa, hnormal, by rw [maxScale]; omega⟩

/-- The mantissa has 53 bits, so the magnitude ends as many places after the scale. -/
theorem magnitude_lt {x : Binary64} (hm : x.mantissa < twoPow 53) {k : Nat} (hs : x.scale ≤ k) :
    x.magnitude < twoPow (53 + k) := by
  rw [twoPow_add]
  exact Nat.mul_lt_mul_of_lt_of_le hm (twoPow_le_twoPow hs) (twoPow_pos _)

/-- A rounded ratio in range is a number of the format. -/
theorem isNormal_of_ofRatio? {negative : Bool} {num den : Nat} {x : Binary64}
    (h : ofRatio? negative num den = some x) : x.IsNormal := by
  rw [ofRatio?, finite?] at h
  split at h
  next hscale =>
    obtain rfl := Option.some.inj h
    obtain ⟨hmantissa, hnormal⟩ := mantissa_nearest negative num den
    exact ⟨hmantissa, hnormal, hscale⟩
  next => cases h

end Binary64

end RegulatoryReporting

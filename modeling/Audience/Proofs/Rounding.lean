import Audience.Time
import Mathlib.Algebra.Order.Ring.Nat
import Mathlib.Tactic.Ring

/-!
# Seconds as doubles

A whole number of nanoseconds, divided to seconds, is rounded twice: to the
nearest double, and from there back to the nearest whole number of nanoseconds.
Each `nearest` is off by half a unit at most (`nearest_mul_le`, `le_nearest_mul`).
Where the unit of the double is finer than a nanosecond, the first error is below
half a nanosecond, so the second rounding undoes the first (`nearest_nearest`).

`exponentFor_le` says how far that goes: below `2^23` seconds a double with its
53 bits has a unit of `2^-30` seconds or less. So the nanoseconds come back
(`ofSeconds?_rounded`).
-/

namespace Audience

/-! ## The nearest whole number -/

section

variable {num den : Nat}

/-- The nearest whole number is at most half a unit too large. -/
theorem nearest_mul_le (num den : Nat) : 2 * (nearest num den * den) ≤ 2 * num + den := by
  have hdiv := Nat.div_add_mod' num den
  simp only [nearest]
  split
  · rw [Nat.add_mul, Nat.one_mul]
    omega
  · omega

/-- The nearest whole number is at most half a unit too small. -/
theorem le_nearest_mul (hden : 0 < den) (num : Nat) :
    2 * num ≤ 2 * (nearest num den * den) + den := by
  have hdiv := Nat.div_add_mod' num den
  have hmod := Nat.mod_lt num hden
  simp only [nearest]
  split
  · rw [Nat.add_mul, Nat.one_mul]
    omega
  · omega

/-- A whole number less than half a unit away is the nearest. -/
theorem nearest_eq {q : Nat} (below : 2 * (q * den) < 2 * num + den)
    (above : 2 * num < 2 * (q * den) + den) : nearest num den = q := by
  have hden : 0 < den := by
    rw [Nat.pos_iff_ne_zero]
    rintro rfl
    exact absurd above (Nat.not_lt_zero _)
  have hle := nearest_mul_le num den
  have hge := le_nearest_mul hden num
  -- Whole numbers a unit or more apart cannot both be that near.
  rcases Nat.lt_trichotomy (nearest num den) q with hlt | heq | hgt
  · have hmul := Nat.mul_le_mul_right den hlt
    rw [Nat.succ_mul] at hmul
    omega
  · exact heq
  · have hmul := Nat.mul_le_mul_right den hgt
    rw [Nat.succ_mul] at hmul
    omega

theorem nearest_zero (hden : 0 < den) : nearest 0 den = 0 :=
  nearest_eq (by omega) (by omega)

theorem nearest_mul_mul {c : Nat} (hc : 0 < c) (num den : Nat) :
    nearest (c * num) (c * den) = nearest num den := by
  simp only [nearest, Nat.mul_div_mul_left _ _ hc, Nat.mul_mod_mul_left, Nat.mul_left_comm 2 c,
    Nat.mul_lt_mul_left hc, Nat.mul_right_inj (Nat.ne_of_gt hc)]

/-- Rounding to parts of a finer unit and back changes nothing. -/
theorem nearest_nearest {unit : Nat} (hden : 0 < den) (finer : den < unit) (n : Nat) :
    nearest (nearest (n * unit) den * den) unit = n := by
  have hle := nearest_mul_le (n * unit) den
  have hge := le_nearest_mul hden (n * unit)
  exact nearest_eq (by omega) (by omega)

end

/-! ## Doubles below a bound -/

namespace Binary64

theorem scaled_neg (num den k : Nat) : scaled num den (-k) = (num * 2 ^ k, den) := by
  cases k with
  | zero => simp [scaled]
  | succ k =>
    have hneg : ¬ (0 : Int) ≤ -(k + 1 : Nat) := by omega
    rw [scaled, if_neg hneg, Int.neg_neg, Int.toNat_natCast]
    rfl

theorem quotient_neg (m k : Nat) : quotient m (-k) = (m, 2 ^ k) := by
  cases k with
  | zero => simp [quotient]
  | succ k =>
    have hneg : ¬ (0 : Int) ≤ -(k + 1 : Nat) := by omega
    rw [quotient, if_neg hneg, Int.neg_neg, Int.toNat_natCast]
    rfl

/-- A quotient below `2 ^ (53 - k)` has its 53 bits from `2 ^ -k` on or finer. -/
theorem exponentFor_le {num den k : Nat} (hnum : 0 < num) (small : num * 2 ^ k < 2 ^ 53 * den)
    (hk : k ≤ 1074) : exponentFor num den ≤ -k := by
  have hlog : num.log2 + k ≤ den.log2 + 53 := by
    have hpow : 2 ^ (num.log2 + k) < 2 ^ (den.log2 + 54) :=
      calc 2 ^ (num.log2 + k)
          = 2 ^ num.log2 * 2 ^ k := Nat.pow_add ..
        _ ≤ num * 2 ^ k := Nat.mul_le_mul_right _ (Nat.log2_self_le (Nat.ne_of_gt hnum))
        _ < 2 ^ 53 * den := small
        _ ≤ 2 ^ 53 * 2 ^ (den.log2 + 1) := Nat.mul_le_mul_left _ Nat.lt_log2_self.le
        _ = 2 ^ (den.log2 + 54) := by ring
    have := (Nat.pow_lt_pow_iff_right Nat.one_lt_two).1 hpow
    omega
  simp only [exponentFor]
  rcases Int.lt_or_eq_of_le (show max ((num.log2 : Int) - den.log2 - 53) (-1074) ≤ -k by omega) with
    hlt | heq
  · split <;> omega
  · -- At the exponent `-k` itself the quotient still fits into 53 bits.
    have hfits : num * 2 ^ k / den < 2 ^ 53 := Nat.div_lt_of_lt_mul (by rwa [Nat.mul_comm den])
    rw [heq, scaled_neg]
    exact (if_pos hfits).le

end Binary64

/-! ## Nanoseconds and back -/

namespace Time

open Binary64 (rounded roundQuotient exponentFor)

theorem ofSeconds?_finite (m k : Nat) :
    ofSeconds? (.finite false m (-k)) =
      if nearest (m * perSecond) (2 ^ k) < limit then some (nearest (m * perSecond) (2 ^ k))
      else none := by
  simp only [ofSeconds?, Binary64.quotient_neg, Bool.false_and, Bool.false_eq_true, if_false,
    show ¬ (64 : Int) < -k by omega]

theorem ofSeconds?_zero : ofSeconds? (Binary64.zero false) = some 0 := by
  have hnone : nearest (0 * perSecond) (2 ^ 1074) = 0 := by
    rw [Nat.zero_mul, nearest_zero (Nat.two_pow_pos 1074)]
  have hread := ofSeconds?_finite 0 1074
  rwa [hnone, if_pos (by decide)] at hread

/-- The double nearest to a span below `2 ^ 23` seconds is taken for that span. -/
theorem ofSeconds?_rounded {span : Nat} (hpos : 0 < span) (short : span < 2 ^ 23 * perSecond) :
    ofSeconds? (rounded false span perSecond) = some span := by
  have hle : exponentFor span perSecond ≤ -(30 : Nat) :=
    Binary64.exponentFor_le hpos (by unfold perSecond at *; omega) (by decide)
  obtain ⟨k, hk⟩ : ∃ k : Nat, exponentFor span perSecond = -k :=
    ⟨(-exponentFor span perSecond).toNat, by omega⟩
  have hback : nearest (nearest (span * 2 ^ k) perSecond * perSecond) (2 ^ k) = span := by
    have hfiner : 2 ^ 30 ≤ 2 ^ k := Nat.pow_le_pow_right Nat.two_pos (by omega)
    exact nearest_nearest (by decide) (Nat.lt_of_lt_of_le (by decide) hfiner) span
  have hlimit : span < limit := Nat.lt_of_lt_of_le short (by decide)
  rw [rounded, if_neg (Nat.ne_of_gt hpos)]
  simp only [roundQuotient, hk, Binary64.scaled_neg]
  split
  · next hcarry =>
    -- A carry doubles the unit and halves the significand.
    obtain ⟨j, rfl⟩ : ∃ j, k = j + 1 := ⟨k - 1, by omega⟩
    have hhalf : nearest (Nat.pow 2 52 * perSecond) (2 ^ j) = span := by
      rw [← nearest_mul_mul Nat.two_pos, ← Nat.mul_assoc, Nat.mul_comm 2 (2 ^ j), ← Nat.pow_succ]
      rw [hcarry] at hback
      exact hback
    have hexponent : -((j + 1 : Nat) : Int) + 1 = -j := by omega
    simp only [hexponent]
    rw [if_neg (by omega), ofSeconds?_finite, hhalf, if_pos hlimit]
  · rw [if_neg (by omega), ofSeconds?_finite, hback, if_pos hlimit]

end Time

end Audience

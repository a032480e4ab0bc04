import Mathlib.Data.Nat.Log
import Mathlib.Tactic.Ring
import Mathlib.Tactic.SplitIfs
import OsDetection.Ranking

/-!
# Rounding keeps the order

A percentage is rounded three times: the score, its quotient by the most that can be earned, and the
hundredfold of that. Every rounding keeps the order of what it rounds (`roundDiv_mono`,
`Binary64.nearest_mono`), and so does the value of a magnitude (`Binary64.units_mono`). A score that
is the most there is comes to one hundred exactly, and no smaller one comes to more
(`units_percentage_le`).
-/

namespace OsDetection.Numeral

section
variable {a b den : Nat}

/-- Rounding takes the quotient or the number after it. -/
theorem roundDiv_bounds (num den : Nat) :
    num / den ≤ roundDiv num den ∧ roundDiv num den ≤ num / den + 1 := by
  simp only [roundDiv]
  split
  · omega
  · split
    · omega
    · split <;> omega

theorem roundDiv_mono (h : a ≤ b) : roundDiv a den ≤ roundDiv b den := by
  rcases Nat.lt_or_ge (a / den) (b / den) with hlt | hge
  · have ha := (roundDiv_bounds a den).2
    have hb := (roundDiv_bounds b den).1
    omega
  · have hq : a / den = b / den := Nat.le_antisymm (Nat.div_le_div_right h) hge
    -- With equal quotients the order is that of the remainders.
    have hr : a % den ≤ b % den := by
      have ha := Nat.div_add_mod a den
      have hb := Nat.div_add_mod b den
      rw [hq] at ha
      omega
    simp only [roundDiv, hq]
    split_ifs <;> omega

end

namespace Binary64

section
variable {a b den m n : Nat}

/-- The quotient is below `2 ^ 53` steps of the magnitudes near it. -/
theorem div_shiftLeft_lt (x den : Nat) :
    x / (den <<< ((x / den).log2 - 52)) < 2 ^ 53 := by
  have hx : x / den < 2 ^ ((x / den).log2 + 1) := Nat.lt_log2_self
  rw [Nat.shiftLeft_eq, ← Nat.div_div_eq_div_mul, Nat.div_lt_iff_lt_mul (Nat.two_pow_pos _),
    ← Nat.pow_add]
  exact Nat.lt_of_lt_of_le hx (Nat.pow_le_pow_right (by decide) (by omega))

/-- Where the steps have grown, the quotient is `2 ^ 52` of them at least. -/
theorem le_div_shiftLeft {x : Nat} (hk : 0 < (x / den).log2 - 52) :
    2 ^ 52 ≤ x / (den <<< ((x / den).log2 - 52)) := by
  have hne : x / den ≠ 0 := by
    intro h
    simp [h] at hk
  rw [Nat.shiftLeft_eq, ← Nat.div_div_eq_div_mul, Nat.le_div_iff_mul_le (Nat.two_pow_pos _),
    ← Nat.pow_add, show 52 + ((x / den).log2 - 52) = (x / den).log2 by omega]
  exact Nat.log2_self_le hne

/-- A larger number over the same one has no smaller nearest magnitude. -/
theorem nearest_mono (h : a ≤ b) : nearest a den ≤ nearest b den := by
  have hxy : a * one ≤ b * one := Nat.mul_le_mul_right _ h
  simp only [nearest]
  -- The unit is a number of a thousand bits, which nothing here depends on.
  generalize a * one = x at *
  generalize b * one = y at *
  refine inf_le_inf_left infinity ?_
  have hlog : (x / den).log2 ≤ (y / den).log2 := by
    rw [Nat.log2_eq_log_two, Nat.log2_eq_log_two]
    exact Nat.log_mono_right (Nat.div_le_div_right hxy)
  rcases Nat.eq_or_lt_of_le (Nat.sub_le_sub_right hlog 52) with heq | hlt
  · rw [heq]
    exact Nat.add_le_add_left (roundDiv_mono hxy) _
  · -- The larger magnitude has a larger exponent, and the smaller one does not reach it.
    have hx := div_shiftLeft_lt x den
    have hx' := (roundDiv_bounds x (den <<< ((x / den).log2 - 52))).2
    have hy := le_div_shiftLeft (Nat.zero_lt_of_lt hlt)
    have hy' := (roundDiv_bounds y (den <<< ((y / den).log2 - 52))).1
    rw [Nat.shiftLeft_eq _ 52, Nat.shiftLeft_eq _ 52]
    omega

/-- A significand has 53 bits at most. -/
theorem significand_lt (m : Nat) : significand m < 2 ^ 53 := by
  unfold significand scale
  rw [Nat.shiftLeft_eq, Nat.shiftRight_eq_div_pow]
  omega

/-- It has all of them where the steps have grown. -/
theorem le_significand (h : 0 < scale m) : 2 ^ 52 ≤ significand m := by
  unfold significand scale at *
  rw [Nat.shiftRight_eq_div_pow] at *
  rw [Nat.shiftLeft_eq]
  omega

/-- Magnitudes are numbered in increasing order. -/
theorem units_mono (h : m ≤ n) : units m ≤ units n := by
  have hscale : scale m ≤ scale n := by
    unfold scale
    rw [Nat.shiftRight_eq_div_pow, Nat.shiftRight_eq_div_pow]
    exact Nat.sub_le_sub_right (Nat.div_le_div_right h) 1
  unfold units
  rw [Nat.shiftLeft_eq, Nat.shiftLeft_eq]
  rcases Nat.eq_or_lt_of_le hscale with heq | hlt
  · have hsignificand : significand m ≤ significand n := by
      unfold significand
      rw [heq]
      exact Nat.sub_le_sub_right h _
    rw [heq]
    exact Nat.mul_le_mul_right _ hsignificand
  · calc significand m * 2 ^ scale m
        ≤ 2 ^ 53 * 2 ^ scale m := Nat.mul_le_mul_right _ (Nat.le_of_lt (significand_lt m))
      _ = 2 ^ 52 * 2 ^ (scale m + 1) := by rw [Nat.pow_succ]; ring
      _ ≤ significand n * 2 ^ scale n :=
        Nat.mul_le_mul (le_significand (Nat.zero_lt_of_lt hlt))
          (Nat.pow_le_pow_right (by decide) hlt)

/-- Every number divided by itself is one. -/
theorem nearest_self (h : 0 < n) : nearest n n = 1023 <<< 52 := by
  have hquot : n * one / n = one := Nat.mul_div_cancel_left _ h
  have hlog : one.log2 - 52 = 1022 := by decide +kernel
  have hshift (k : Nat) : n * 1 <<< (k + 52) = n <<< k * 2 ^ 52 := by
    rw [Nat.shiftLeft_eq, Nat.shiftLeft_eq, Nat.one_mul, Nat.pow_add, Nat.mul_assoc]
  have hround : roundDiv (n * one) (n <<< 1022) = 2 ^ 52 := by
    rw [one, hshift 1022]
    exact roundDiv_mul_left (Nat.shiftLeft_pos_iff.2 h) _
  simp only [nearest, hquot, hlog, hround]
  decide +kernel

/-- Only nothing is rounded to nothing. -/
theorem units_ofNat_pos (h : 0 < n) : 0 < units (ofNat n).magnitude := by
  have hone : 0 < units (nearest 1 1) := by decide +kernel
  exact Nat.lt_of_lt_of_le hone (units_mono (nearest_mono h))

end

end Binary64

end OsDetection.Numeral

namespace OsDetection

open OsDetection.Numeral

/-- No part of a whole is more than one hundred percent of it. -/
theorem units_percentage_le {score most : Nat} (h : score ≤ most) :
    (percentage score most).negative = false ∧
      Binary64.units (percentage score most).magnitude ≤ 100 * Binary64.one := by
  rcases Nat.eq_zero_or_pos most with rfl | hmost
  · rw [percentage, if_pos rfl]
    decide +kernel
  · -- The score is at most the most there is, and so is their quotient at most one.
    have hquot : (Binary64.ofNat score / Binary64.ofNat most).magnitude ≤ 1023 <<< 52 := by
      rw [← Binary64.nearest_self (Binary64.units_ofNat_pos hmost)]
      exact Binary64.nearest_mono (Binary64.units_mono (Binary64.nearest_mono h))
    have hproduct : (percentage score most).magnitude ≤ (Binary64.ofNat 100).magnitude := by
      rw [percentage, if_neg (Nat.ne_of_gt hmost)]
      calc (Binary64.ofNat score / Binary64.ofNat most * Binary64.ofNat 100).magnitude
          ≤ Binary64.nearest (Binary64.units (1023 <<< 52) *
              Binary64.units (Binary64.ofNat 100).magnitude) (Binary64.one * Binary64.one) :=
            Binary64.nearest_mono (Nat.mul_le_mul_right _ (Binary64.units_mono hquot))
        _ = (Binary64.ofNat 100).magnitude := by decide +kernel
    refine ⟨by rw [percentage, if_neg (Nat.ne_of_gt hmost)]; rfl, ?_⟩
    calc Binary64.units (percentage score most).magnitude
        ≤ Binary64.units (Binary64.ofNat 100).magnitude := Binary64.units_mono hproduct
      _ = 100 * Binary64.one := by decide +kernel

end OsDetection

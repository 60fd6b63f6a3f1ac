import Mathlib
import PackageLint.Number.Binary64

/-!
# Whole numbers beyond the floating point range

The largest finite floating point number is `(2 ^ 53 - 1) · 2 ^ 971`. A whole number half a unit
above it, or further away, is rounded to infinity; everything nearer is rounded to a finite number.

## Main results

* `roundDiv_eq_iff`: when a quotient is rounded up to an even bound;
* `exists_ofInt_eq_infinite_iff`: the whole numbers that are too large.
-/

namespace PackageLint

/-- A quotient below an even number is rounded up to it if it is less than one by at most a half;
the tie goes to the even number. -/
theorem Number.roundDiv_eq_iff {num den k : Nat} (hlt : num < k * den) (heven : k % 2 = 0) :
    roundDiv num den = k ↔ 2 * (k * den) ≤ 2 * num + den := by
  have hden : 0 < den := by
    rcases Nat.eq_zero_or_pos den with rfl | h
    · simp at hlt
    · exact h
  have hsplit : den * (num / den) + num % den = num := Nat.div_add_mod num den
  have hrem : num % den < den := Nat.mod_lt num hden
  have hbelow : num / den < k := Nat.div_lt_of_lt_mul (by rwa [Nat.mul_comm])
  rw [Nat.mul_comm] at hsplit
  rcases Nat.lt_or_eq_of_le hbelow with hfar | hnext
  · -- More than one below the bound there is no way up to it.
    have hroom : (num / den + 2) * den ≤ k * den := Nat.mul_le_mul_right den hfar
    have hne : roundDiv num den ≠ k := by
      simp only [roundDiv]
      split_ifs <;> omega
    rw [Nat.add_mul] at hroom
    exact iff_of_false hne (by omega)
  · have hodd : ¬ num / den % 2 = 0 := by omega
    have hbound : k * den = num / den * den + den := by rw [← hnext, Nat.succ_mul]
    simp only [roundDiv, if_neg hodd]
    split_ifs <;> omega

namespace Binary64

open Number

/-- A whole number below `2 ^ 1023` is rounded to a finite number. -/
theorem ofRatio_ne_infinite {num : Nat} (h : num.log2 < 1023) (negative sign : Bool) :
    ofRatio negative num 1 ≠ infinite sign := by
  have hone : Nat.log2 1 = 0 := by decide
  rw [ofRatio]
  split_ifs with hzero
  · simp [signedZero]
  · -- Rounding adds two to the first exponent at most.
    simp only [hone]
    split_ifs <;> simp <;> omega

/-- A whole number from `2 ^ 53` on is divided by a power of two that leaves it 53 digits. -/
theorem ofRatio_of_le_log2 {num : Nat} (h : 53 ≤ num.log2) (negative : Bool) :
    ofRatio negative num 1 =
      let mantissa := roundDiv num (2 ^ (num.log2 - 52))
      let (mantissa, exponent) : Nat × Int :=
        if mantissa = 2 ^ 53 then (2 ^ 52, ((num.log2 - 52 : Nat) : Int) + 1)
        else (mantissa, (num.log2 - 52 : Nat))
      if 971 < exponent then infinite negative else finite negative mantissa exponent := by
  have hone : Nat.log2 1 = 0 := by decide
  have hzero : num ≠ 0 := by rintro rfl; simp at h
  have hfirst : max ((num.log2 : Int) - (0 : Nat) - 53) (-1074) = (num.log2 - 53 : Nat) := by omega
  have hnext : ((num.log2 - 53 : Nat) : Int) + 1 = (num.log2 - 52 : Nat) := by omega
  have hscale (e : Nat) : scaleDown 2 num 1 e = (num, 2 ^ e) := by
    simp [scaleDown]
  -- With the first exponent a digit too many is left.
  have hfull : ¬ num / 2 ^ (num.log2 - 53) < 2 ^ 53 := by
    have hlow : 2 ^ num.log2 ≤ num := Nat.log2_self_le hzero
    have hsum : 53 + (num.log2 - 53) = num.log2 := by omega
    rwa [Nat.not_lt, Nat.le_div_iff_mul_le (Nat.two_pow_pos _), ← Nat.pow_add, hsum]
  rw [ofRatio, if_neg hzero]
  simp only [hone, hfirst, hscale, Nat.pow_eq, if_neg hfull, hnext]

/-- A whole number is too large for a floating point number from `(2 ^ 54 - 1) · 2 ^ 970` on,
which is half a unit above the largest finite number. -/
theorem exists_ofInt_eq_infinite_iff (n : Int) :
    (∃ sign, ofInt n = infinite sign) ↔ (2 ^ 54 - 1) * 2 ^ 970 ≤ n.natAbs := by
  -- With a name for the exponent no power of this size is ever computed.
  obtain ⟨k, hk⟩ : ∃ k, k = 970 := ⟨_, rfl⟩
  rw [ofInt, ← hk]
  generalize n.natAbs = num
  generalize decide (n < 0) = negative
  have hhigh : num < 2 ^ (num.log2 + 1) := Nat.lt_log2_self
  rcases Nat.lt_trichotomy num.log2 1023 with hlog | hlog | hlog
  · have hpow : 2 ^ (num.log2 + 1) ≤ 2 ^ (53 + k) := Nat.pow_le_pow_right (by decide) (by omega)
    rw [Nat.pow_add 2 53 k] at hpow
    refine iff_of_false (fun ⟨sign, heq⟩ => ofRatio_ne_infinite hlog negative sign heq) ?_
    omega
  · -- What decides is whether the number is rounded up to the next power of two.
    have hexponent : num.log2 - 52 = k + 1 := by omega
    rw [show num.log2 + 1 = 53 + (k + 1) by omega, Nat.pow_add] at hhigh
    have hround := roundDiv_eq_iff hhigh (by decide)
    have hunit : 2 ^ (k + 1) = 2 ^ k * 2 := Nat.pow_succ 2 k
    rw [ofRatio_of_le_log2 (by omega), hexponent]
    by_cases hup : roundDiv num (2 ^ (k + 1)) = 2 ^ 53
    · have hle := hround.1 hup
      simp only [if_pos hup]
      exact iff_of_true ⟨negative, if_pos (by omega)⟩ (by omega)
    · have hle := mt hround.2 hup
      simp only [if_neg hup]
      rw [if_neg (by omega)]
      exact iff_of_false (fun ⟨sign, heq⟩ => by cases heq) (by omega)
  · have hlow : 2 ^ num.log2 ≤ num := Nat.log2_self_le (by rintro rfl; simp at hlog)
    have hpow : 2 ^ (54 + k) ≤ 2 ^ num.log2 := Nat.pow_le_pow_right (by decide) (by omega)
    rw [Nat.pow_add 2 54 k] at hpow
    refine iff_of_true ⟨negative, ?_⟩ (by omega)
    rw [ofRatio_of_le_log2 (by omega)]
    by_cases hup : roundDiv num (2 ^ (num.log2 - 52)) = 2 ^ 53
    · simp only [if_pos hup]
      exact if_pos (by omega)
    · simp only [if_neg hup]
      exact if_pos (by omega)

end Binary64

end PackageLint

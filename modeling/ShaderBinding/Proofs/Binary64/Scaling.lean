import ShaderBinding.Json.Number
import ShaderBinding.Proofs.Binary64.Rounding

/-! A whole number of 64 bits scaled by a power of ten. The number, the power and their product are
rounded one after the other, so that a number close to the greatest double may be lost. Numbers up
to `safe` are not. -/

namespace ShaderBinding

namespace Magnitude

/-- The greatest double with its last digits cut off. -/
def safe : ℚ := 1797693134862315 * 10 ^ 293

theorem greatest_eq : greatest = (((2 ^ 53 - 1) * 2 ^ 971 : Nat) : ℚ) := by
  have hpow : (2 : ℚ) ^ greatestExponent = 2 ^ 971 := rfl
  have hsignificand : ((2 ^ 53 - 1 : Nat) : ℚ) = 2 ^ 53 - 1 := by norm_num
  rw [greatest, hpow, Nat.cast_mul, Nat.cast_pow, hsignificand, Nat.cast_ofNat]

theorem le_greatest {n : Nat} (h : n ≤ (2 ^ 53 - 1) * 2 ^ 971) : (n : ℚ) ≤ greatest := by
  rw [greatest_eq]
  exact_mod_cast h

variable {x y : Magnitude}

theorem mul?_rounds (h : x.toRat * y.toRat ≤ greatest) :
    ∃ z, x.mul? y = some z ∧ Rounds (x.toRat * y.toRat) z := by
  have hden : 0 < x.denominator * y.denominator :=
    Nat.mul_pos x.denominator_pos y.denominator_pos
  have hquotient : ((x.numerator * y.numerator : Nat) : ℚ) / (x.denominator * y.denominator : Nat) =
      x.toRat * y.toRat := by
    rw [← numerator_div_denominator, ← numerator_div_denominator, Nat.cast_mul, Nat.cast_mul,
      div_mul_div_comm]
  rw [← hquotient] at h ⊢
  exact rounds_of_range hden h

theorem numerator_pos (h : 0 < x.toRat) : 0 < x.numerator := by
  rw [← numerator_div_denominator] at h
  rcases Nat.eq_zero_or_pos x.numerator with hzero | hpos
  · simp [hzero] at h
  · exact hpos

theorem div?_rounds (hy : 0 < y.toRat) (h : x.toRat / y.toRat ≤ greatest) :
    ∃ z, x.div? y = some z ∧ Rounds (x.toRat / y.toRat) z := by
  have hden : 0 < x.denominator * y.numerator := Nat.mul_pos x.denominator_pos (numerator_pos hy)
  have hquotient : ((x.numerator * y.denominator : Nat) : ℚ) / (x.denominator * y.numerator : Nat) =
      x.toRat / y.toRat := by
    rw [← numerator_div_denominator, ← numerator_div_denominator, Nat.cast_mul, Nat.cast_mul,
      div_div_div_eq]
  rw [← hquotient] at h ⊢
  exact rounds_of_range hden h

theorem exists_tens {n : Nat} (hn : n ≤ greatestPower) :
    ∃ tens, round? (Nat.pow 10 n) 1 = some tens ∧ Rounds (10 ^ n) tens := by
  have hle : 10 ^ n ≤ 10 ^ greatestPower := Nat.pow_le_pow_right (by decide) hn
  have hrange := le_greatest (hle.trans (by decide +kernel))
  have hquotient : ((10 ^ n : Nat) : ℚ) / (1 : Nat) = (10 ^ n : Nat) := by
    rw [Nat.cast_one, div_one]
  rw [← hquotient] at hrange
  obtain ⟨tens, htens, hrounds⟩ := rounds_of_range Nat.one_pos hrange
  refine ⟨tens, htens, ?_⟩
  simpa using hrounds

theorem Rounds.tens_pos {n : Nat} (h : Rounds (10 ^ n) x) : 1 / 2 ≤ x.toRat := by
  have hone : (1 : ℚ) ≤ 10 ^ n := one_le_pow₀ (by norm_num)
  have hhalf := h.half_le hone
  linarith

/-- Numbers that cannot grow out of range when they are divided. -/
def Modest (x : Magnitude) : Prop := x.toRat ≤ 2 ^ 65

theorem Modest.div_tens {n : Nat} (h : Modest x) (hy : Rounds (10 ^ n) y) :
    ∃ z, x.div? y = some z ∧ Rounds (x.toRat / y.toRat) z ∧ x.toRat / y.toRat ≤ 2 ^ 66 := by
  have hy' := hy.tens_pos
  have hpos : 0 < y.toRat := by linarith
  have hle : x.toRat / y.toRat ≤ 2 ^ 66 := by
    rw [div_le_iff₀ hpos]
    have hx : x.toRat ≤ 2 ^ 65 := h
    linarith
  have hrange : x.toRat / y.toRat ≤ greatest := by
    have hword : ((2 ^ 66 : Nat) : ℚ) ≤ greatest := le_greatest (by decide +kernel)
    push_cast at hword
    exact hle.trans hword
  obtain ⟨z, hz, hrounds⟩ := div?_rounds hpos hrange
  exact ⟨z, hz, hrounds, hle⟩

/-- Dividing by all tens that one step takes leaves less than one. -/
theorem Modest.div_greatestPower (h : Modest x) (hy : Rounds (10 ^ greatestPower) y) :
    ∃ z, x.div? y = some z ∧ Modest z := by
  obtain ⟨z, hz, hrounds, hle⟩ := h.div_tens hy
  refine ⟨z, hz, ?_⟩
  have hleast := two_zpow_leastExponent_le
  have hz' := hrounds.le
  have hhalf := hy.half_le (one_le_pow₀ (by norm_num))
  have htens : (2 : ℚ) ^ 66 ≤ y.toRat := by
    have hpow : (2 : ℚ) ^ 67 ≤ 10 ^ greatestPower := by
      have hnat : 2 ^ 67 ≤ 10 ^ greatestPower := by decide +kernel
      exact_mod_cast hnat
    linarith
  have hpos : 0 < y.toRat := lt_of_lt_of_le (by norm_num) htens
  have hone : x.toRat / y.toRat ≤ 1 := by
    rw [div_le_one hpos]
    have hx : x.toRat ≤ 2 ^ 65 := h
    linarith
  show z.toRat ≤ 2 ^ 65
  linarith

theorem go_isSome {steps : Nat} {power : Int} (h : Modest x) (hpower : power ≤ 0)
    (hsteps : power.natAbs / greatestPower < steps) : (scale?.go steps x power).isSome := by
  induction steps generalizing x power with
  | zero => exact absurd hsteps (Nat.not_lt_zero _)
  | succ steps ih =>
    rw [scale?.go]
    by_cases hle : power.natAbs ≤ greatestPower
    · obtain ⟨tens, htens, hrounds⟩ := exists_tens hle
      rw [if_pos hle, htens]
      obtain ⟨z, hz, _⟩ := h.div_tens hrounds
      by_cases hzero : 0 ≤ power
      · -- No tens at all: the product with one.
        have hnone : power.natAbs = 0 := by omega
        rw [hnone, pow_zero] at hrounds
        have hslack := hrounds.le_slack (le_refl 1)
        have hx : x.toRat ≤ 2 ^ 65 := h
        have hproduct : x.toRat * tens.toRat ≤ greatest := by
          have hword : ((2 ^ 66 : Nat) : ℚ) ≤ greatest := le_greatest (by decide +kernel)
          push_cast at hword
          have htwo : tens.toRat ≤ 2 := by
            have hslack2 : 1 * slack ≤ 2 := by norm_num [slack]
            exact hslack.trans hslack2
          have hmul := mul_le_mul hx htwo tens.toRat_nonneg (by norm_num)
          linarith
        obtain ⟨w, hw, _⟩ := mul?_rounds hproduct
        simp [if_pos hzero, hw]
      · simp [if_neg hzero, hz]
    · rw [if_neg hle]
      by_cases hzero : x.isZero = true
      · rw [if_pos hzero]
        rfl
      · have hneg : ¬ 0 < power := by omega
        obtain ⟨tens, htens, hrounds⟩ := exists_tens (le_refl greatestPower)
        obtain ⟨z, hz, hmodest⟩ := h.div_greatestPower hrounds
        have hpower' : greatestPower = 308 := rfl
        rw [hpower'] at hle hsteps
        rw [if_neg hzero, if_neg hneg, htens]
        simp only [Option.bind_eq_bind, Option.bind_some, hz]
        have hnext : (power + (308 : Nat)).natAbs / 308 < steps := by omega
        exact ih hmodest (by omega) hnext

theorem safe_slack_le : safe * slack ^ 2 ≤ greatest := by
  have hnat : 1797693134862315 * 10 ^ 293 * (2 ^ 54 + 3) ^ 2 ≤
      (2 ^ 53 - 1) * 2 ^ 971 * (2 ^ 54) ^ 2 := by
    decide +kernel
  have hcast := Nat.cast_le (α := ℚ) |>.mpr hnat
  rw [Nat.cast_mul _ ((2 ^ 54) ^ 2), ← greatest_eq] at hcast
  have hslack : slack = (2 ^ 54 + 3) / 2 ^ 54 := by norm_num [slack]
  rw [hslack, div_pow, safe, ← mul_div_assoc, div_le_iff₀ (by positivity)]
  simpa only [Nat.cast_mul, Nat.cast_pow, Nat.cast_add, Nat.cast_ofNat] using hcast

theorem one_le_cast {n : Nat} (h : n ≠ 0) : (1 : ℚ) ≤ n := by
  exact_mod_cast Nat.one_le_iff_ne_zero.mpr h

/-- A whole number of 64 bits scaled up to a number that is not too great. -/
theorem scale?_isSome_of_nonneg {digits : Nat} {power : Int} (hx : Rounds digits x)
    (hdigits : digits ≠ 0) (hpower : 0 ≤ power) (hsafe : (digits : ℚ) * 10 ^ power ≤ safe) :
    (scale? x power).isSome := by
  obtain ⟨n, rfl⟩ := Int.eq_ofNat_of_zero_le hpower
  have hone := one_le_cast hdigits
  rw [zpow_natCast] at hsafe
  have hn : n ≤ greatestPower := by
    by_contra hlt
    have hpow : 10 ^ (greatestPower + 1) ≤ 10 ^ n := Nat.pow_le_pow_right (by decide) (by omega)
    have hnat : 1797693134862315 * 10 ^ 293 < 10 ^ n := lt_of_lt_of_le (by decide +kernel) hpow
    have hcast : safe < 10 ^ n := by
      rw [safe]
      exact_mod_cast hnat
    have hmul : (10 : ℚ) ^ n ≤ digits * 10 ^ n := le_mul_of_one_le_left (by positivity) hone
    linarith
  obtain ⟨tens, htens, hrounds⟩ := exists_tens hn
  have hx' := hx.le_slack hone
  have htens' := hrounds.le_slack (one_le_pow₀ (by norm_num))
  have hslack : (0 : ℚ) ≤ slack := by norm_num [slack]
  have hrange : x.toRat * tens.toRat ≤ greatest := by
    calc x.toRat * tens.toRat ≤ (digits * slack) * (10 ^ n * slack) :=
          mul_le_mul hx' htens' tens.toRat_nonneg (by positivity)
      _ = digits * 10 ^ n * slack ^ 2 := by ring
      _ ≤ safe * slack ^ 2 := mul_le_mul_of_nonneg_right hsafe (by positivity)
      _ ≤ greatest := safe_slack_le
  obtain ⟨z, hz, _⟩ := mul?_rounds hrange
  have habs : (n : Int).natAbs = n := Int.natAbs_natCast n
  rw [scale?, scale?.go, habs, if_pos hn, htens]
  simp [hz]

theorem ofDecimal?_isSome {digits : Nat} {power : Int} (hword : digits < wordBound)
    (hsafe : (digits : ℚ) * 10 ^ power ≤ safe) : (ofDecimal? digits power).isSome := by
  have hword' : (digits : ℚ) ≤ 2 ^ 64 := by
    have hle : digits ≤ 2 ^ 64 := by
      have hbound : wordBound = 2 ^ 64 := by decide
      omega
    exact_mod_cast hle
  have hrange : ((digits : Nat) : ℚ) / (1 : Nat) ≤ greatest := by
    have hlimit : ((2 ^ 64 : Nat) : ℚ) ≤ greatest := le_greatest (by decide +kernel)
    push_cast at hlimit ⊢
    rw [div_one]
    exact hword'.trans hlimit
  obtain ⟨x, hround, hx⟩ := rounds_of_range Nat.one_pos hrange
  rw [Nat.cast_one, div_one] at hx
  have hmodest : Modest x := by
    have hleast := two_zpow_leastExponent_le
    have hle := hx.le
    show x.toRat ≤ 2 ^ 65
    linarith
  rw [ofDecimal?, hround]
  change (scale? x power).isSome
  by_cases hpower : power ≤ 0
  · exact go_isSome hmodest hpower (Nat.lt_succ_self _)
  · by_cases hzero : digits = 0
    · -- Zero stays zero however it is scaled.
      subst hzero
      obtain rfl : zero = x := by simpa [round?] using hround
      rw [scale?, scale?.go]
      by_cases hle : power.natAbs ≤ greatestPower
      · obtain ⟨tens, htens, _⟩ := exists_tens hle
        have hnonneg : 0 ≤ power := by omega
        have hproduct : zero.toRat * tens.toRat ≤ greatest := by
          have hlimit : ((0 : Nat) : ℚ) ≤ greatest := le_greatest (by decide +kernel)
          simpa [toRat, zero] using hlimit
        obtain ⟨z, hz, _⟩ := mul?_rounds hproduct
        rw [if_pos hle, htens]
        simp [if_pos hnonneg, hz]
      · rw [if_neg hle]
        rfl
    · exact scale?_isSome_of_nonneg hx hzero (by omega) hsafe

end Magnitude

end ShaderBinding

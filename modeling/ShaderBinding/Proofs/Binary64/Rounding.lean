import Mathlib.Algebra.Order.Field.Power
import Mathlib.Tactic.FieldSimp
import Mathlib.Tactic.Linarith
import Mathlib.Tactic.NormNum
import Mathlib.Tactic.Positivity
import Mathlib.Tactic.Ring
import ShaderBinding.Binary64

/-! One rounding: a fraction in the range of finite doubles has a double, which is not far from it.
The bounds leave room for a double that lies below the finest grid. -/

namespace ShaderBinding

namespace Magnitude

def toRat (x : Magnitude) : ℚ := x.significand * (2 : ℚ) ^ x.exponent

/-- The greatest finite double. -/
def greatest : ℚ := (2 ^ 53 - 1) * (2 : ℚ) ^ greatestExponent

theorem toRat_nonneg (x : Magnitude) : 0 ≤ x.toRat := by
  unfold toRat
  positivity

theorem two_zpow (z : Int) : (2 : ℚ) ^ z = 2 ^ z.toNat / 2 ^ (-z).toNat := by
  rcases Int.le_total 0 z with h | h
  · have hneg : (-z).toNat = 0 := by omega
    obtain ⟨n, rfl⟩ := Int.eq_ofNat_of_zero_le h
    simp [hneg]
  · have hpos : z.toNat = 0 := by omega
    obtain ⟨n, hn⟩ := Int.eq_ofNat_of_zero_le (by omega : 0 ≤ -z)
    obtain rfl : z = -(n : Int) := by omega
    simp [hpos]

theorem cast_shiftLeft (n k : Nat) : ((n <<< k : Nat) : ℚ) = n * 2 ^ k := by
  rw [Nat.shiftLeft_eq]
  push_cast
  rfl

theorem denominator_pos (x : Magnitude) : 0 < x.denominator := by
  rw [denominator, Nat.shiftLeft_eq]
  positivity

theorem numerator_div_denominator (x : Magnitude) :
    (x.numerator : ℚ) / x.denominator = x.toRat := by
  rw [numerator, denominator, cast_shiftLeft, cast_shiftLeft, toRat, two_zpow]
  field_simp
  simp

section

variable {num den : Nat}

/-- A fraction on the grid of an exponent, as a fraction of shifted natural numbers. -/
theorem shifted_div (num den : Nat) (z : Int) :
    ((num <<< (-z).toNat : Nat) : ℚ) / (den <<< z.toNat : Nat) = num / den / 2 ^ z := by
  rw [cast_shiftLeft, cast_shiftLeft, two_zpow]
  field_simp

theorem shiftLeft_pos (h : 0 < den) (k : Nat) : 0 < den <<< k := by
  rw [Nat.shiftLeft_eq]
  exact Nat.mul_pos h (Nat.two_pow_pos k)

theorem shifted_lt_iff (hden : 0 < den) (z : Int) :
    num <<< (-z).toNat < den <<< z.toNat ↔ (num : ℚ) / den < 2 ^ z := by
  have hshift : (0 : ℚ) < (den <<< z.toNat : Nat) := by exact_mod_cast shiftLeft_pos hden _
  have hpow : (0 : ℚ) < 2 ^ z := by positivity
  rw [← div_lt_one hpow, ← shifted_div, div_lt_one hshift, Nat.cast_lt]

theorem nearestEven_le (hden : 0 < den) : (nearestEven num den : ℚ) ≤ num / den + 1 / 2 := by
  have hdiv := Nat.div_add_mod num den
  have hmod := Nat.mod_lt num hden
  have hnat : 2 * (den * nearestEven num den) ≤ 2 * num + den := by
    unfold nearestEven
    dsimp only
    split
    · omega
    · split
      · rw [Nat.mul_add]
        omega
      · have hparity : den * (num / den % 2) ≤ den * 1 := Nat.mul_le_mul_left _ (by omega)
        rw [Nat.mul_add]
        omega
  have hcast : (2 : ℚ) * (den * nearestEven num den) ≤ 2 * num + den := by exact_mod_cast hnat
  have hpos : (0 : ℚ) < den := by exact_mod_cast hden
  rw [← sub_nonneg]
  have he : (num : ℚ) / den + 1 / 2 - nearestEven num den =
      (2 * num + den - 2 * (den * nearestEven num den)) / (2 * den) := by
    field_simp
  rw [he]
  exact div_nonneg (by linarith) (by positivity)

theorem le_nearestEven (hden : 0 < den) : (num : ℚ) / den ≤ nearestEven num den + 1 := by
  have hdiv := Nat.div_add_mod num den
  have hmod := Nat.mod_lt num hden
  have hle : num / den ≤ nearestEven num den := by
    unfold nearestEven
    dsimp only
    split
    · exact le_refl _
    · split <;> omega
  have hnat : num ≤ (nearestEven num den + 1) * den := by
    calc num ≤ den * (num / den + 1) := by rw [Nat.mul_add]; omega
      _ ≤ den * (nearestEven num den + 1) := Nat.mul_le_mul_left _ (by omega)
      _ = (nearestEven num den + 1) * den := Nat.mul_comm _ _
  rw [div_le_iff₀ (by exact_mod_cast hden)]
  exact_mod_cast hnat

theorem two_zpow_log2_le (h : 0 < num) : (2 : ℚ) ^ (num.log2 : Int) ≤ num := by
  have hle : 2 ^ num.log2 ≤ num := Nat.log2_self_le (by omega)
  exact_mod_cast hle

theorem lt_two_zpow_log2 (num : Nat) : (num : ℚ) < 2 ^ (num.log2 + 1 : Int) := by
  have hlt : num < 2 ^ (num.log2 + 1) := Nat.lt_log2_self
  exact_mod_cast hlt

/-- A fraction is below `2 ^ 53` steps of its grid, and has at least half of them unless the grid is
the finest one. -/
theorem gridExponent_bounds (hnum : 0 < num) (hden : 0 < den) :
    (num : ℚ) / den < 2 ^ (gridExponent num den + 53) ∧
      (gridExponent num den = leastExponent ∨
        (2 : ℚ) ^ (gridExponent num den + 52) ≤ num / den) := by
  have hpos : (0 : ℚ) < den := by exact_mod_cast hden
  have hlow : (2 : ℚ) ^ ((num.log2 : Int) - den.log2 - 1) ≤ num / den := by
    rw [le_div_iff₀ hpos]
    calc (2 : ℚ) ^ ((num.log2 : Int) - den.log2 - 1) * den
        ≤ 2 ^ ((num.log2 : Int) - den.log2 - 1) * 2 ^ (den.log2 + 1 : Int) :=
          mul_le_mul_of_nonneg_left (lt_two_zpow_log2 den).le (by positivity)
      _ = 2 ^ (num.log2 : Int) := by
          rw [← zpow_add₀ (by norm_num)]
          congr 1
          omega
      _ ≤ num := two_zpow_log2_le hnum
  have hhigh : (num : ℚ) / den < 2 ^ ((num.log2 : Int) - den.log2 + 1) := by
    rw [div_lt_iff₀ hpos]
    calc (num : ℚ) < 2 ^ (num.log2 + 1 : Int) := lt_two_zpow_log2 num
      _ = 2 ^ ((num.log2 : Int) - den.log2 + 1) * 2 ^ (den.log2 : Int) := by
          rw [← zpow_add₀ (by norm_num)]
          congr 1
          omega
      _ ≤ 2 ^ ((num.log2 : Int) - den.log2 + 1) * den :=
          mul_le_mul_of_nonneg_left (two_zpow_log2_le hden) (by positivity)
  have hmono : ∀ {y z : Int}, y ≤ z → (2 : ℚ) ^ y ≤ 2 ^ z :=
    fun h => zpow_le_zpow_right₀ (by norm_num) h
  unfold gridExponent
  dsimp only
  split
  · rename_i hshift
    have hlt := (shifted_lt_iff hden _).mp hshift
    refine ⟨lt_of_lt_of_le hlt (hmono (by omega)), ?_⟩
    rcases le_total ((num.log2 : Int) - den.log2 - 52 - 1) leastExponent with h | h
    · exact .inl (max_eq_right h)
    · rw [max_eq_left h]
      exact .inr (le_trans (hmono (by omega)) hlow)
  · rename_i hshift
    have hge := not_lt.mp (fun hlt => hshift ((shifted_lt_iff hden _).mpr hlt))
    refine ⟨lt_of_lt_of_le hhigh (hmono (by omega)), ?_⟩
    rcases le_total ((num.log2 : Int) - den.log2 - 52) leastExponent with h | h
    · exact .inl (max_eq_right h)
    · rw [max_eq_left h]
      exact .inr (le_trans (hmono (by omega)) hge)

/-- A step of the grid is small beside the fraction, or it is the least step of all. -/
theorem two_zpow_gridExponent_le (hnum : 0 < num) (hden : 0 < den) :
    (2 : ℚ) ^ gridExponent num den ≤ num / den / 2 ^ 52 + 2 ^ leastExponent := by
  have hnonneg : (0 : ℚ) ≤ num / den / 2 ^ 52 := by positivity
  have hleast : (0 : ℚ) < 2 ^ leastExponent := by positivity
  rcases (gridExponent_bounds hnum hden).2 with h | h
  · rw [h]
    linarith
  · have hsplit : (2 : ℚ) ^ (gridExponent num den + 52) = 2 ^ gridExponent num den * 2 ^ 52 := by
      rw [zpow_add₀ (by norm_num)]
      rfl
    rw [hsplit, ← le_div_iff₀ (by positivity)] at h
    linarith

theorem greatest_lt : greatest < 2 ^ (greatestExponent + 53) := by
  have hpow : (0 : ℚ) < 2 ^ greatestExponent := by positivity
  rw [greatest, zpow_add₀ (by norm_num), mul_comm]
  exact mul_lt_mul_of_pos_left (by norm_num) hpow

theorem gridExponent_le (hnum : 0 < num) (hden : 0 < den) (hrange : (num : ℚ) / den ≤ greatest) :
    gridExponent num den ≤ greatestExponent := by
  rcases (gridExponent_bounds hnum hden).2 with h | h
  · rw [h]
    decide
  · have hlt : (2 : ℚ) ^ (gridExponent num den + 52) < 2 ^ (greatestExponent + 53) :=
      lt_of_le_of_lt (h.trans hrange) greatest_lt
    have hexponent := (zpow_lt_zpow_iff_right₀ (by norm_num : (1 : ℚ) < 2)).mp hlt
    omega

/-- The steps of the grid that a fraction is rounded to. -/
def steps (num den : Nat) : Nat :=
  nearestEven (num <<< (-gridExponent num den).toNat) (den <<< (gridExponent num den).toNat)

theorem steps_le (num : Nat) (hden : 0 < den) :
    (steps num den : ℚ) ≤ num / den / 2 ^ gridExponent num den + 1 / 2 := by
  rw [← shifted_div]
  exact nearestEven_le (shiftLeft_pos hden _)

theorem le_steps (num : Nat) (hden : 0 < den) :
    (num : ℚ) / den / 2 ^ gridExponent num den ≤ steps num den + 1 := by
  rw [← shifted_div]
  exact le_nearestEven (shiftLeft_pos hden _)

/-- On the coarsest grid a fraction in range is not rounded up to the next power of two. -/
theorem steps_ne_of_coarsest (hden : 0 < den) (hrange : (num : ℚ) / den ≤ greatest)
    (h : gridExponent num den = greatestExponent) : steps num den ≠ 1 <<< 53 := by
  intro hsteps
  have hle := steps_le num hden
  have hdiv : (num : ℚ) / den / 2 ^ greatestExponent ≤ 2 ^ 53 - 1 := by
    rw [div_le_iff₀ (by positivity)]
    exact hrange
  have hcast : ((1 <<< 53 : Nat) : ℚ) = 2 ^ 53 := by
    rw [cast_shiftLeft]
    norm_num
  rw [hsteps, h, hcast] at hle
  linarith

theorem exists_round? (hnum : 0 < num) (hden : 0 < den) (hrange : (num : ℚ) / den ≤ greatest) :
    ∃ x, round? num den = some x ∧ x.toRat = steps num den * 2 ^ gridExponent num den := by
  have hexponent := gridExponent_le hnum hden hrange
  rw [round?, if_neg (by omega)]
  change ∃ x, (if (if steps num den = 1 <<< 53 then (⟨1 <<< 52, gridExponent num den + 1⟩ : Magnitude)
      else ⟨steps num den, gridExponent num den⟩).exponent ≤ greatestExponent then
    some (if steps num den = 1 <<< 53 then (⟨1 <<< 52, gridExponent num den + 1⟩ : Magnitude)
      else ⟨steps num den, gridExponent num den⟩) else none) = some x ∧ _
  by_cases hsteps : steps num den = 1 <<< 53
  · have hne : gridExponent num den ≠ greatestExponent :=
      fun h => steps_ne_of_coarsest hden hrange h hsteps
    have hle : gridExponent num den + 1 ≤ greatestExponent := by omega
    rw [if_pos hsteps, if_pos hle]
    refine ⟨_, rfl, ?_⟩
    rw [toRat, hsteps, zpow_add₀ (by norm_num), cast_shiftLeft, cast_shiftLeft]
    ring
  · rw [if_neg hsteps, if_pos hexponent]
    exact ⟨_, rfl, rfl⟩

end

/-! What becomes of a fraction in range. The relative error of a rounding is at most a half of
`1 / 2 ^ 52`; the bound below also covers what is lost beneath the finest grid. -/

/-- More than a rounding can raise a fraction that is not below one. -/
def slack : ℚ := 1 + 3 / 2 ^ 54

structure Rounds (q : ℚ) (x : Magnitude) : Prop where
  le : x.toRat ≤ q * (1 + 1 / 2 ^ 53) + 2 ^ leastExponent / 2
  half_le : 1 ≤ q → q / 2 ≤ x.toRat

theorem two_zpow_leastExponent_le : (2 : ℚ) ^ leastExponent ≤ 1 / 2 ^ 53 := by
  have hle : (2 : ℚ) ^ leastExponent ≤ 2 ^ (-53 : Int) :=
    zpow_le_zpow_right₀ (by norm_num) (by decide)
  have hpow : (2 : ℚ) ^ (-53 : Int) = 1 / 2 ^ 53 := by
    rw [zpow_neg, ← one_div]
    norm_num
  exact hle.trans_eq hpow

theorem Rounds.le_slack {q : ℚ} {x : Magnitude} (h : Rounds q x) (hq : 1 ≤ q) :
    x.toRat ≤ q * slack := by
  have hleast := two_zpow_leastExponent_le
  have hq' : (1 : ℚ) / 2 ^ 54 ≤ q * (1 / 2 ^ 54) := le_mul_of_one_le_left (by positivity) hq
  have hslack : q * slack = q * (1 + 1 / 2 ^ 53) + q * (1 / 2 ^ 54) := by
    rw [slack]
    ring
  have hle := h.le
  rw [hslack]
  linarith

theorem rounds_of_range {num den : Nat} (hden : 0 < den) (hrange : (num : ℚ) / den ≤ greatest) :
    ∃ x, round? num den = some x ∧ Rounds (num / den) x := by
  rcases Nat.eq_zero_or_pos num with rfl | hnum
  · refine ⟨zero, rfl, ?_, ?_⟩
    · have hleast : (0 : ℚ) < 2 ^ leastExponent := by positivity
      simp only [toRat, zero, Nat.cast_zero, zero_mul, zero_div, zero_add]
      linarith
    · intro h
      norm_num at h
  · obtain ⟨x, hround, hx⟩ := exists_round? hnum hden hrange
    have hstep : (0 : ℚ) < 2 ^ gridExponent num den := by positivity
    have hcancel : (num : ℚ) / den / 2 ^ gridExponent num den * 2 ^ gridExponent num den =
        num / den := div_mul_cancel₀ _ hstep.ne'
    refine ⟨x, hround, ?_, ?_⟩
    · have hsteps := mul_le_mul_of_nonneg_right (steps_le num hden) hstep.le
      have hgrid := two_zpow_gridExponent_le hnum hden
      rw [add_mul, hcancel] at hsteps
      rw [hx]
      linarith
    · intro hone
      have hsteps := mul_le_mul_of_nonneg_right (le_steps num hden) hstep.le
      have hgrid := two_zpow_gridExponent_le hnum hden
      have hleast := two_zpow_leastExponent_le
      rw [hcancel, add_mul] at hsteps
      rw [hx]
      linarith

end Magnitude

end ShaderBinding

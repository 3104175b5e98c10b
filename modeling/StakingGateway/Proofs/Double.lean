import Mathlib
import StakingGateway.Double.Basic

/-!
# Values of doubles

The bits of a finite double are a sign, eleven bits of exponent and 52 bits of fraction, and stand
for a rational number, its `value`.  It is whole if the double is, and then `quanta` counts it in
ones (`value_eq_natCast_iff`).
-/

namespace StakingGateway.Double

def exponentField (x : Double) : Nat :=
  x.bits.toNat / 2 ^ 52 % 2 ^ 11

def fractionField (x : Double) : Nat :=
  x.bits.toNat % 2 ^ 52

/-- The number without the sign.  There is a one in front of the fraction unless the exponent bits
are all zero. -/
def magnitude (x : Double) : ℚ :=
  if x.exponentField = 0 then x.fractionField * 2 ^ (-1074 : ℤ)
  else (2 ^ 52 + x.fractionField) * 2 ^ ((x.exponentField : ℤ) - 1075)

def value (x : Double) : ℚ :=
  if 2 ^ 63 ≤ x.bits.toNat then -x.magnitude else x.magnitude

theorem shiftLeft_eq (n places : Nat) : n.shiftLeft places = n * 2 ^ places :=
  Nat.shiftLeft_eq n places

/-- One is a power of two in quanta; the exponent is not to be computed with. -/
theorem exists_one_eq : ∃ places, places = 1074 ∧ one = 2 ^ places := by
  refine ⟨_, rfl, ?_⟩
  rw [one, shiftLeft_eq, Nat.one_mul]

theorem one_pos : 0 < one := by
  obtain ⟨places, -, hone⟩ := exists_one_eq
  rw [hone]
  exact Nat.two_pow_pos places

theorem magnitudeBits_div (x : Double) : x.magnitudeBits / 2 ^ 52 = x.exponentField :=
  Nat.mod_mul_right_div_self x.bits.toNat (2 ^ 52) (2 ^ 11)

theorem magnitudeBits_mod (x : Double) : x.magnitudeBits % 2 ^ 52 = x.fractionField :=
  Nat.mod_mod_of_dvd x.bits.toNat (by decide)

theorem significand_eq (x : Double) :
    x.significand
      = if x.exponentField = 0 then x.fractionField else 2 ^ 52 + x.fractionField := by
  have hdiv := x.magnitudeBits_div
  have hmod := x.magnitudeBits_mod
  unfold significand
  split <;> split <;> omega

theorem exponent_eq (x : Double) : x.exponent = x.exponentField - 1 :=
  congrArg (· - 1) x.magnitudeBits_div

theorem magnitude_eq (x : Double) : x.magnitude = x.quanta / one := by
  obtain ⟨places, hplaces, hone⟩ := exists_one_eq
  have hquanta : (x.quanta : ℚ) / one
      = x.significand * 2 ^ ((x.exponent : ℤ) - places) := by
    rw [quanta, shiftLeft_eq, hone, zpow_sub₀ two_ne_zero, zpow_natCast, zpow_natCast]
    push_cast
    rw [mul_div_assoc]
  rw [hquanta, significand_eq, exponent_eq, magnitude]
  split
  next hfield => rw [hfield, hplaces]; rfl
  next hfield =>
    have hexponent : ((x.exponentField - 1 : ℕ) : ℤ) - places = x.exponentField - 1075 := by
      omega
    rw [hexponent]
    push_cast
    rfl

theorem magnitude_nonneg (x : Double) : 0 ≤ x.magnitude := by
  rw [magnitude_eq]
  exact div_nonneg (Nat.cast_nonneg _) (Nat.cast_nonneg _)

theorem magnitude_eq_natCast_iff {x : Double} {n : ℕ} :
    x.magnitude = n ↔ x.isIntegral = true ∧ x.quanta / one = n := by
  have hone : (one : ℚ) ≠ 0 := Nat.cast_ne_zero.mpr (Nat.ne_of_gt one_pos)
  rw [magnitude_eq, div_eq_iff hone, isIntegral, decide_eq_true_eq, ← Nat.cast_mul, Nat.cast_inj]
  constructor
  · intro h
    rw [h]
    exact ⟨Nat.mul_mod_left n one, Nat.mul_div_cancel n one_pos⟩
  · rintro ⟨hmod, rfl⟩
    exact (Nat.div_mul_cancel (Nat.dvd_of_mod_eq_zero hmod)).symm

theorem value_eq_natCast_iff {x : Double} {n : ℕ} :
    x.value = n ↔
      x.isIntegral = true ∧ x.quanta / one = n ∧ (x.isNegative = false ∨ n = 0) := by
  rw [← and_assoc, ← magnitude_eq_natCast_iff, value, isNegative, decide_eq_false_iff_not]
  split
  next hnegative =>
    -- A negative double is a natural number only if it is zero.
    have hnonneg := x.magnitude_nonneg
    constructor
    · intro h
      have hn : (0 : ℚ) ≤ n := Nat.cast_nonneg n
      have hzero : (n : ℚ) = 0 := by linarith
      exact ⟨by linarith, .inr (Nat.cast_eq_zero.mp hzero)⟩
    · rintro ⟨h, hpositive | rfl⟩
      · exact absurd hnegative hpositive
      · rw [h, Nat.cast_zero, neg_zero]
  next hpositive => exact ⟨fun h => ⟨h, .inl hpositive⟩, fun h => h.1⟩

end StakingGateway.Double

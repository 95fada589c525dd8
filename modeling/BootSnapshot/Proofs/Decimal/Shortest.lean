import Mathlib.Order.Compare
import BootSnapshot.Decimal.Shortest
import BootSnapshot.Proofs.Decimal.Natural
import BootSnapshot.Proofs.Decimal.Nearest

set_option autoImplicit false

namespace BootSnapshot.Decimal

namespace Scaled

def value (d : Scaled) : ℚ := d.digits * 10 ^ d.exponent

/-- Zeros at the end do not change a decimal number. -/
theorem strip_value (d : Scaled) : d.strip.value = d.value := by
  fun_induction strip d with
  | case1 d trailing ih =>
    have whole : d.digits / 10 * 10 = d.digits :=
      Nat.div_mul_cancel (Nat.dvd_of_mod_eq_zero trailing.2)
    have wholeQ : ((d.digits / 10 : Nat) : ℚ) * 10 = d.digits := by exact_mod_cast whole
    rw [ih, value, value, zpow_add_one₀ (by norm_num), ← wholeQ]
    ring
  | case2 d done => rfl

/-- The comparison is that of the rational numbers. -/
theorem compareUnits_eq (d : Scaled) (units : Nat) (unitExponent : Int) :
    d.compareUnits units unitExponent = compare d.value (units * 2 ^ unitExponent) := by
  have ten := Binary64.zpow_mul_pow_toNat (show (0 : ℚ) < 10 by norm_num) d.exponent
  have two := Binary64.zpow_mul_pow_toNat (show (0 : ℚ) < 2 by norm_num) unitExponent
  have scale : (0 : ℚ) < 10 ^ (-d.exponent).toNat * 2 ^ (-unitExponent).toNat := by positivity
  have left : ((d.digits * Nat.pow 10 d.exponent.toNat *
      Nat.pow 2 (-unitExponent).toNat : Nat) : ℚ) =
      d.value * (10 ^ (-d.exponent).toNat * 2 ^ (-unitExponent).toNat) := by
    push_cast [Nat.pow_eq]
    rw [value, ← ten]
    ring
  have right : ((units * Nat.pow 2 unitExponent.toNat * Nat.pow 10 (-d.exponent).toNat : Nat) : ℚ) =
      units * 2 ^ unitExponent * (10 ^ (-d.exponent).toNat * 2 ^ (-unitExponent).toNat) := by
    push_cast [Nat.pow_eq]
    rw [← two]
    ring
  rw [compareUnits, ← cmp_eq_compare, ← cmp_eq_compare,
    ← (Nat.strictMono_cast (α := ℚ)).cmp_map_eq, left, right]
  exact (strictMono_mul_right_of_pos scale).cmp_map_eq _ _

theorem standsFor_of_readsBackAs {d : Scaled} {x : Binary64} (nonzero : 0 < x.significand)
    (readsBack : d.readsBackAs x = true) : x.StandsFor d.value := by
  have quarter : (2 : ℚ) ^ (x.unitExponent - 2) = 2 ^ x.unitExponent / 4 := by
    rw [zpow_sub₀ (by norm_num)]
    norm_num
  have lowerBound : ((if x.narrowBelow then 4 * x.significand - 1
      else 4 * x.significand - 2 : Nat) : ℚ) * 2 ^ (x.unitExponent - 2) =
      (x.significand - x.marginBelow) * 2 ^ x.unitExponent := by
    rw [quarter, Binary64.marginBelow]
    split_ifs
    · push_cast [Nat.cast_sub (show 1 ≤ 4 * x.significand by omega)]
      ring
    · push_cast [Nat.cast_sub (show 2 ≤ 4 * x.significand by omega)]
      ring
  have upperBound : ((4 * x.significand + 2 : Nat) : ℚ) * 2 ^ (x.unitExponent - 2) =
      (x.significand + 1 / 2) * 2 ^ x.unitExponent := by
    rw [quarter]
    push_cast
    ring
  simp only [readsBackAs, compareUnits_eq, lowerBound, upperBound, Bool.and_eq_true,
    Bool.or_eq_true, decide_eq_true_eq, compare_gt_iff_gt, compare_lt_iff_lt,
    compare_eq_iff_eq] at readsBack
  obtain ⟨lower, upper⟩ := readsBack
  refine ⟨?_, ?_, ?_⟩
  · exact lower.elim le_of_lt fun even => even.2.ge
  · exact upper.elim le_of_lt fun even => even.2.le
  · rcases lower with strictLower | ⟨even, -⟩
    · rcases upper with strictUpper | ⟨even, -⟩
      · exact .inr ⟨strictLower, strictUpper⟩
      · exact .inl even
    · exact .inl even

end Scaled

namespace Binary64

variable {x : Binary64}

theorem readsBackAs_of_onGrid? {tie : Tie} {exponent : Int} {d : Scaled}
    (found : x.onGrid? tie exponent = some d) : d.readsBackAs x = true := by
  unfold onGrid? at found
  dsimp only at found
  split at found
  · cases found
  · next below _ => cases found; exact below
  · next _ above => cases found; exact above
  · next below above =>
    split at found
    · cases found; exact below
    · cases found; exact above
    · cases found; exact above
    · split at found
      · cases found; exact below
      · cases found; exact above

/-- The value itself is well inside its interval. -/
theorem standsFor_self : x.StandsFor (x.significand * 2 ^ x.unitExponent) := by
  have unit : (0 : ℚ) < 2 ^ x.unitExponent := by positivity
  have margin := x.marginBelow_pos
  have lower : (x.significand - x.marginBelow) * 2 ^ x.unitExponent <
      x.significand * 2 ^ x.unitExponent := by
    gcongr
    linarith
  have upper : (x.significand : ℚ) * 2 ^ x.unitExponent <
      (x.significand + 1 / 2) * 2 ^ x.unitExponent := by
    gcongr
    linarith
  exact ⟨lower.le, upper.le, .inr ⟨lower, upper⟩⟩

/-- Units of a negative power of two are written exactly with as many places. -/
theorem exact_value : Scaled.value ⟨x.numerator * Nat.pow 5 (-x.unitExponent).toNat,
    min x.unitExponent 0⟩ = x.significand * 2 ^ x.unitExponent := by
  rw [Scaled.value, numerator]
  rcases le_total 0 x.unitExponent with whole | places
  · obtain ⟨exponent, same⟩ := Int.eq_ofNat_of_zero_le whole
    have noPlaces : (-x.unitExponent).toNat = 0 := by omega
    rw [noPlaces, min_eq_right whole, same, Int.toNat_natCast]
    push_cast [Nat.pow_eq]
    rw [zpow_natCast, mul_one, mul_one]
  · obtain ⟨count, same⟩ := Int.eq_ofNat_of_zero_le (show 0 ≤ -x.unitExponent by omega)
    have noUnits : x.unitExponent.toNat = 0 := by omega
    have exponent : x.unitExponent = -count := by omega
    rw [noUnits, min_eq_left places, exponent, Int.neg_neg, Int.toNat_natCast]
    push_cast [Nat.pow_eq]
    rw [zpow_neg, zpow_neg, zpow_natCast, zpow_natCast, show (10 : ℚ) = 5 * 2 by norm_num, mul_pow]
    field_simp

/-- The shortest decimal of a value stands for it. -/
theorem shortest_standsFor (nonzero : 0 < x.significand) (tie : Tie) :
    x.StandsFor (x.shortest tie).value := by
  unfold shortest
  dsimp only
  split
  · next d found =>
    obtain ⟨count, -, onGrid⟩ := List.exists_of_findSome?_eq_some found
    rw [Scaled.strip_value]
    exact Scaled.standsFor_of_readsBackAs nonzero (readsBackAs_of_onGrid? onGrid)
  · rw [Scaled.strip_value, exact_value]
    exact standsFor_self

/-- Eight is below ten, so three binary places are less than a decimal one. -/
theorem two_zpow_lt {exponent : ℤ} (small : exponent ≤ 1200) :
    (2 : ℚ) ^ exponent < 10 ^ (400 : ℤ) :=
  calc (2 : ℚ) ^ exponent ≤ 2 ^ (3 * 400 : ℤ) := zpow_le_zpow_right₀ (by norm_num) small
    _ = (2 ^ (3 : ℤ)) ^ (400 : ℤ) := zpow_mul 2 3 400
    _ < 10 ^ (400 : ℤ) := zpow_lt_zpow_left₀ (by norm_num) (by norm_num) (by norm_num)

theorem StandsFor.lt_pow_ten (finite : x.isFinite = true) {value : ℚ}
    (inside : x.StandsFor value) : value < 10 ^ (400 : ℤ) := by
  have upper := unitExponent_upper finite
  have units := x.upperUnits_lt
  calc value ≤ (x.significand + 1 / 2) * 2 ^ x.unitExponent := inside.upper
    _ < 2 ^ (53 : ℤ) * 2 ^ x.unitExponent := by gcongr
    _ = 2 ^ (53 + x.unitExponent) := (zpow_add₀ (by norm_num) _ _).symm
    _ < 10 ^ (400 : ℤ) := two_zpow_lt (by omega)

theorem StandsFor.pow_ten_lt (nonzero : 0 < x.significand) {value : ℚ}
    (inside : x.StandsFor value) : 10 ^ (-400 : ℤ) < value := by
  have lower := x.unitExponent_lower
  have units : (1 : ℚ) ≤ x.significand := by exact_mod_cast nonzero
  have margin := x.marginBelow_le
  have half : (2 : ℚ) ^ (-1 : ℤ) ≤ x.significand - x.marginBelow := by
    norm_num
    linarith
  calc (10 : ℚ) ^ (-400 : ℤ) = (10 ^ (400 : ℤ))⁻¹ := zpow_neg _ _
    _ < (2 ^ (1 - x.unitExponent))⁻¹ :=
        inv_strictAnti₀ (by positivity) (two_zpow_lt (by omega))
    _ = 2 ^ (-1 : ℤ) * 2 ^ x.unitExponent := by
        rw [← zpow_neg, ← zpow_add₀ (by norm_num)]
        congr 1
        ring
    _ ≤ (x.significand - x.marginBelow) * 2 ^ x.unitExponent := by gcongr
    _ ≤ value := inside.lower

/-- A decimal number lies between the powers of ten that its places give. -/
theorem value_bounds {d : Scaled} (nonzero : 0 < d.digits) :
    (10 : ℚ) ^ ((natDigits d.digits).length + d.exponent - 1) ≤ d.value ∧
      d.value < 10 ^ ((natDigits d.digits).length + d.exponent) := by
  have ten : (10 : ℚ) ≠ 0 := by norm_num
  have notEmpty := List.length_pos_iff.mpr (natDigits_ne_nil d.digits)
  have lower : (10 : ℚ) ^ ((natDigits d.digits).length - 1) ≤ d.digits := by
    exact_mod_cast pow_length_natDigits_le nonzero
  have upper : (d.digits : ℚ) < 10 ^ (natDigits d.digits).length := by
    exact_mod_cast lt_pow_length_natDigits d.digits
  constructor
  · have exponents : ((natDigits d.digits).length + d.exponent - 1 : ℤ) =
        ((natDigits d.digits).length - 1 : Nat) + d.exponent := by omega
    rw [exponents, zpow_add₀ ten, zpow_natCast, Scaled.value]
    gcongr
  · rw [zpow_add₀ ten, zpow_natCast, Scaled.value]
    gcongr

/-- A decimal that stands for a value is read as it. -/
theorem StandsFor.ofDecimal_eq (finite : x.isFinite = true) (nonzero : 0 < x.significand)
    {d : Scaled} (inside : x.StandsFor d.value) :
    ofDecimal x.isNegative d.digits d.exponent = x := by
  have ten : (1 : ℚ) < 10 := by norm_num
  have digits : 0 < d.digits := by
    by_contra none
    have zero : d.value = 0 := by
      rw [Scaled.value, Nat.eq_zero_of_not_pos none, Nat.cast_zero, zero_mul]
    exact absurd (inside.positive nonzero) (by rw [zero]; exact lt_irrefl 0)
  have bounds := value_bounds digits
  have notTooMany : ((natDigits d.digits).length : Int) + d.exponent ≤ 400 := by
    have powers := (zpow_lt_zpow_iff_right₀ ten).mp (bounds.1.trans_lt (inside.lt_pow_ten finite))
    omega
  have notTooFew : -400 ≤ ((natDigits d.digits).length : Int) + d.exponent := by
    have powers := (zpow_lt_zpow_iff_right₀ ten).mp ((inside.pow_ten_lt nonzero).trans bounds.2)
    omega
  have quotient : ((d.digits * Nat.pow 10 d.exponent.toNat : Nat) : ℚ) /
      (Nat.pow 10 (-d.exponent).toNat : Nat) = d.value := by
    have split := zpow_mul_pow_toNat (show (0 : ℚ) < 10 by norm_num) d.exponent
    have power : (10 : ℚ) ^ (-d.exponent).toNat ≠ 0 := by positivity
    push_cast [Nat.pow_eq]
    rw [Scaled.value, ← split]
    field_simp
  have nearest : nearestMagnitude (d.digits * Nat.pow 10 d.exponent.toNat)
      (Nat.pow 10 (-d.exponent).toNat) = x.magnitude :=
    StandsFor.nearestMagnitude_eq finite nonzero (Nat.pow_pos (by decide)) (quotient ▸ inside)
  rw [ofDecimal, if_neg (by omega), if_neg (by omega), if_neg (by omega), nearest,
    ofMagnitude_self]

end Binary64

end BootSnapshot.Decimal

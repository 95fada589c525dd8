import Mathlib.Algebra.Order.Field.Power
import Mathlib.Data.Rat.Cast.Order
import Mathlib.Tactic.FieldSimp
import Mathlib.Tactic.Linarith
import Mathlib.Tactic.Positivity
import Mathlib.Tactic.Ring
import BootSnapshot.Decimal.Binary64

set_option autoImplicit false

namespace BootSnapshot.Decimal.Binary64

/-- A power with an exponent of either sign, as the quotient of two powers. -/
theorem zpow_mul_pow_toNat {base : ℚ} (positive : 0 < base) (k : ℤ) :
    base ^ k * base ^ (-k).toNat = base ^ k.toNat := by
  have shifted : (k.toNat : ℤ) = k + (-k).toNat := by omega
  rw [← zpow_natCast base (-k).toNat, ← zpow_natCast base k.toNat, shifted,
    zpow_add₀ (ne_of_gt positive)]

theorem roundQuotient_eq {numerator denominator m : Nat} (positive : 0 < denominator)
    (lower : 2 * (m * denominator) ≤ 2 * numerator + denominator)
    (upper : 2 * numerator ≤ 2 * (m * denominator) + denominator)
    (ties : m % 2 = 0 ∨ (2 * (m * denominator) < 2 * numerator + denominator ∧
      2 * numerator < 2 * (m * denominator) + denominator)) :
    roundQuotient numerator denominator = m := by
  have whole := Nat.div_add_mod' numerator denominator
  have remainder := Nat.mod_lt numerator positive
  unfold roundQuotient
  generalize numerator / denominator = quotient at *
  generalize numerator % denominator = rest at *
  have notBelow : quotient ≤ m := by
    by_contra below
    have step := Nat.mul_le_mul_right denominator (Nat.lt_of_not_le below)
    rw [Nat.succ_mul] at step
    omega
  have notAbove : m ≤ quotient + 1 := by
    by_contra above
    have step := Nat.mul_le_mul_right denominator (Nat.lt_of_not_le above)
    rw [Nat.succ_mul, Nat.succ_mul] at step
    omega
  obtain rfl | rfl : m = quotient ∨ m = quotient + 1 := by omega
  · dsimp only
    split_ifs <;> omega
  · have next : (quotient + 1) * denominator = quotient * denominator + denominator :=
      Nat.succ_mul quotient denominator
    dsimp only
    split_ifs <;> omega

/-- Comparing a quotient with a power of two. -/
theorem pow_le_quotient {numerator denominator : Nat} (positive : 0 < denominator) (k : ℤ) :
    denominator * Nat.pow 2 k.toNat ≤ numerator * Nat.pow 2 (-k).toNat ↔
      (2 : ℚ) ^ k ≤ numerator / denominator := by
  have power : (0 : ℚ) < 2 ^ (-k).toNat := by positivity
  have below : (0 : ℚ) < denominator := by exact_mod_cast positive
  have split := zpow_mul_pow_toNat (show (0 : ℚ) < 2 by norm_num) k
  rw [le_div_iff₀ below, ← mul_le_mul_iff_left₀ power]
  rw [← Nat.cast_le (α := ℚ)]
  push_cast [Nat.pow_eq]
  rw [← split]
  ring_nf

/-- The exponent of the greatest power of two up to a quotient. -/
theorem floorLog2_spec {numerator denominator : Nat} (above : 0 < numerator)
    (below : 0 < denominator) :
    (2 : ℚ) ^ floorLog2 numerator denominator ≤ (numerator : ℚ) / denominator ∧
      (numerator : ℚ) / denominator < 2 ^ (floorLog2 numerator denominator + 1) := by
  have two : (2 : ℚ) ≠ 0 := by norm_num
  have front : (2 : ℚ) ^ (numerator.log2 : ℤ) ≤ numerator := by
    exact_mod_cast Nat.log2_self_le (Nat.ne_of_gt above)
  have frontNext : (numerator : ℚ) < 2 ^ ((numerator.log2 : ℤ) + 1) := by
    exact_mod_cast Nat.lt_log2_self
  have back : (2 : ℚ) ^ (denominator.log2 : ℤ) ≤ denominator := by
    exact_mod_cast Nat.log2_self_le (Nat.ne_of_gt below)
  have backNext : (denominator : ℚ) < 2 ^ ((denominator.log2 : ℤ) + 1) := by
    exact_mod_cast Nat.lt_log2_self
  have guessNext : (numerator : ℚ) / denominator <
      2 ^ ((numerator.log2 : ℤ) - denominator.log2 + 1) :=
    calc (numerator : ℚ) / denominator
        < 2 ^ ((numerator.log2 : ℤ) + 1) / 2 ^ (denominator.log2 : ℤ) :=
          div_lt_div₀ frontNext back (by positivity) (by positivity)
      _ = 2 ^ ((numerator.log2 : ℤ) - denominator.log2 + 1) := by
          rw [← zpow_sub₀ two]
          congr 1
          ring
  have guessBefore : (2 : ℚ) ^ ((numerator.log2 : ℤ) - denominator.log2 - 1) ≤
      (numerator : ℚ) / denominator :=
    calc (2 : ℚ) ^ ((numerator.log2 : ℤ) - denominator.log2 - 1)
        = 2 ^ (numerator.log2 : ℤ) / 2 ^ ((denominator.log2 : ℤ) + 1) := by
          rw [← zpow_sub₀ two]
          congr 1
          ring
      _ ≤ (numerator : ℚ) / denominator :=
          div_le_div₀ (by positivity) front (by exact_mod_cast below) backNext.le
  unfold floorLog2
  dsimp only
  split
  · next fits => exact ⟨(pow_le_quotient below _).mp fits, guessNext⟩
  · next tooGreat =>
    refine ⟨guessBefore, ?_⟩
    rw [sub_add_cancel]
    exact not_le.mp fun fits => tooGreat ((pow_le_quotient below _).mpr fits)

/-- A quotient is rounded in a unit to the number of units that it is nearest to. -/
theorem roundQuotient_unit {numerator denominator m : Nat} (below : 0 < denominator) {unit : ℤ}
    (lower : ((m : ℚ) - 1 / 2) * 2 ^ unit ≤ (numerator : ℚ) / denominator)
    (upper : (numerator : ℚ) / denominator ≤ ((m : ℚ) + 1 / 2) * 2 ^ unit)
    (ends : m % 2 = 0 ∨ ((m : ℚ) - 1 / 2) * 2 ^ unit < (numerator : ℚ) / denominator ∧
      (numerator : ℚ) / denominator < ((m : ℚ) + 1 / 2) * 2 ^ unit) :
    roundQuotient (numerator * Nat.pow 2 (-unit).toNat)
      (denominator * Nat.pow 2 unit.toNat) = m := by
  have belowQ : (0 : ℚ) < denominator := by exact_mod_cast below
  have power : (0 : ℚ) < 2 ^ (-unit).toNat := by positivity
  have scale : (0 : ℚ) < denominator * 2 ^ (-unit).toNat := by positivity
  have split := zpow_mul_pow_toNat (show (0 : ℚ) < 2 by norm_num) unit
  -- the quotient and a number of units, in the scale of the two whole numbers
  have quotient : (numerator : ℚ) / denominator * (denominator * 2 ^ (-unit).toNat) =
      (numerator * Nat.pow 2 (-unit).toNat : Nat) := by
    push_cast [Nat.pow_eq]
    field_simp
  have units (count : ℚ) : count * 2 ^ unit * (denominator * 2 ^ (-unit).toNat) =
      count * (denominator * Nat.pow 2 unit.toNat : Nat) := by
    push_cast [Nat.pow_eq]
    rw [← split]
    ring
  generalize numerator * Nat.pow 2 (-unit).toNat = above at *
  have positive : 0 < denominator * Nat.pow 2 unit.toNat :=
    Nat.mul_pos below (Nat.pow_pos (by decide))
  generalize denominator * Nat.pow 2 unit.toNat = whole at *
  rw [← mul_le_mul_iff_left₀ scale, units, quotient] at lower
  rw [← mul_le_mul_iff_left₀ scale, units, quotient] at upper
  refine roundQuotient_eq positive ?_ ?_ ?_
  · rw [← Nat.cast_le (α := ℚ)]
    push_cast
    linarith
  · rw [← Nat.cast_le (α := ℚ)]
    push_cast
    linarith
  · refine ends.imp_right fun ⟨strictLower, strictUpper⟩ => ⟨?_, ?_⟩
    · rw [← mul_lt_mul_iff_left₀ scale, units, quotient] at strictLower
      rw [← Nat.cast_lt (α := ℚ)]
      push_cast
      linarith
    · rw [← mul_lt_mul_iff_left₀ scale, units, quotient] at strictUpper
      rw [← Nat.cast_lt (α := ℚ)]
      push_cast
      linarith

variable (x : Binary64)

theorem fraction_lt : x.fraction < fractionSize := Nat.mod_lt _ (by decide)

theorem magnitude_eq_fields : x.magnitude = x.exponentField * fractionSize + x.fraction := by
  change x.bits.toNat % 0x8000000000000000 =
    x.bits.toNat / 0x10000000000000 % 0x800 * 0x10000000000000 + x.bits.toNat % 0x10000000000000
  omega

/-- The bits of a magnitude from its unit and its significand, whether or not the significand has
the leading bit that is not written. -/
theorem magnitude_eq : x.magnitude =
    (x.unitExponent + 1074).toNat * fractionSize + x.significand := by
  rw [magnitude_eq_fields, significand, unitExponent]
  by_cases smallest : x.exponentField = 0
  · rw [if_pos smallest, if_pos smallest, smallest]
    rfl
  · have unit : ((x.exponentField : ℤ) - 1075 + 1074).toNat = x.exponentField - 1 := by omega
    rw [if_neg smallest, if_neg smallest, unit]
    change x.exponentField * 0x10000000000000 + x.fraction =
      (x.exponentField - 1) * 0x10000000000000 + (0x10000000000000 + x.fraction)
    omega

theorem unitExponent_lower : -1074 ≤ x.unitExponent := by
  rw [unitExponent]
  split_ifs <;> omega

theorem unitExponent_upper {x : Binary64} (finite : x.isFinite = true) : x.unitExponent ≤ 971 := by
  have field : x.exponentField ≠ 2047 := by
    simpa only [isFinite, decide_eq_true_eq] using finite
  have bound : x.exponentField < 0x800 := Nat.mod_lt _ (by decide)
  rw [unitExponent]
  split_ifs <;> omega

theorem significand_lt : x.significand < 2 * fractionSize := by
  have bound := x.fraction_lt
  rw [significand]
  split_ifs <;> omega

/-- The significand of a value above the smallest unit has its leading bit, and is more than that
unless the neighbour below is nearer. -/
theorem significand_lower {x : Binary64} (larger : -1074 < x.unitExponent) :
    x.significand = fractionSize ∧ x.narrowBelow = true ∨
      fractionSize < x.significand ∧ x.narrowBelow = false := by
  rw [unitExponent] at larger
  rw [significand, narrowBelow]
  split_ifs at larger with smallest
  · omega
  · rw [if_neg smallest]
    have above : 1 < x.exponentField := by omega
    by_cases zero : x.fraction = 0
    · left
      simp only [zero, above, decide_true, Bool.and_self, and_self, Nat.add_zero]
    · right
      refine ⟨by omega, ?_⟩
      simp only [zero, decide_false, Bool.false_and]

theorem ofMagnitude_self : ofMagnitude x.isNegative x.magnitude = x := by
  have bound := x.bits.toNat_lt
  have bits : (if x.isNegative then signedLimit + x.magnitude else x.magnitude) = x.bits.toNat := by
    simp only [isNegative, magnitude, signedLimit, decide_eq_true_eq]
    split_ifs <;> omega
  rw [ofMagnitude, bits, UInt64.ofNat_toNat]

theorem infinity_self {x : Binary64} (infinite : x.isInfinite = true) :
    infinity x.isNegative = x := by
  simp only [isInfinite, Bool.and_eq_true, decide_eq_true_eq] at infinite
  have bits : x.magnitude = infinityMagnitude := by
    rw [magnitude_eq_fields, infinite.1, infinite.2, Nat.add_zero,
      infinityMagnitude]
  rw [infinity, ← bits, ofMagnitude_self]

theorem isFinite_of_not {x : Binary64} (number : x.isNaN ≠ true) (finite : x.isInfinite ≠ true) :
    x.isFinite = true := by
  rw [isFinite, decide_eq_true_eq]
  intro field
  by_cases fraction : x.fraction = 0
  · exact finite (by simp only [isInfinite, field, fraction, decide_true, Bool.and_self])
  · exact number (by
      simp only [isNaN, field, fraction, ne_eq, not_false_eq_true, decide_true,
        Bool.and_self])

/-- The part of the unit down to which numbers round to a value. -/
def marginBelow : ℚ := if x.narrowBelow then 1 / 4 else 1 / 2

/-- Whether a number is among the rationals that round to the magnitude of a value. The ends of the
interval belong to it if the significand is even. -/
structure StandsFor (value : ℚ) : Prop where
  lower : (x.significand - x.marginBelow) * 2 ^ x.unitExponent ≤ value
  upper : value ≤ (x.significand + 1 / 2) * 2 ^ x.unitExponent
  ends : x.significand % 2 = 0 ∨
    (x.significand - x.marginBelow) * 2 ^ x.unitExponent < value ∧
      value < (x.significand + 1 / 2) * 2 ^ x.unitExponent

theorem marginBelow_pos : 0 < x.marginBelow := by
  unfold marginBelow
  split_ifs <;> norm_num

theorem marginBelow_le : x.marginBelow ≤ 1 / 2 := by
  unfold marginBelow
  split_ifs <;> norm_num

/-- The upper end of the interval is below the next power of two. -/
theorem upperUnits_lt : (x.significand : ℚ) + 1 / 2 < 2 ^ (53 : ℤ) := by
  have whole : x.significand + 1 ≤ 2 * fractionSize := x.significand_lt
  have wholeQ : (x.significand : ℚ) + 1 ≤ 2 * fractionSize := by exact_mod_cast whole
  norm_num [fractionSize] at wholeQ ⊢
  linarith

theorem StandsFor.positive {x : Binary64} {value : ℚ} (inside : x.StandsFor value)
    (nonzero : 0 < x.significand) : 0 < value := by
  have units : (1 : ℚ) ≤ x.significand := by exact_mod_cast nonzero
  have margin := x.marginBelow_le
  have unit : (0 : ℚ) < 2 ^ x.unitExponent := by positivity
  have bound : (0 : ℚ) < (x.significand - x.marginBelow) * 2 ^ x.unitExponent :=
    mul_pos (by linarith) unit
  linarith [inside.lower]

/-- What rounds to a value has no more than 53 bits before the point in the unit of the value. -/
theorem StandsFor.floorLog2_le {x : Binary64} {numerator denominator : Nat} (above : 0 < numerator)
    (below : 0 < denominator) (inside : x.StandsFor ((numerator : ℚ) / denominator)) :
    floorLog2 numerator denominator ≤ x.unitExponent + 52 := by
  have two : (1 : ℚ) < 2 := by norm_num
  have units := x.upperUnits_lt
  have unit : (0 : ℚ) < 2 ^ x.unitExponent := by positivity
  have next : (2 : ℚ) ^ floorLog2 numerator denominator < 2 ^ (53 + x.unitExponent) :=
    calc (2 : ℚ) ^ floorLog2 numerator denominator
        ≤ (numerator : ℚ) / denominator := (floorLog2_spec above below).1
      _ ≤ (x.significand + 1 / 2) * 2 ^ x.unitExponent := inside.upper
      _ < 2 ^ (53 : ℤ) * 2 ^ x.unitExponent := by gcongr
      _ = 2 ^ (53 + x.unitExponent) := (zpow_add₀ (by norm_num) _ _).symm
  have exponents := (zpow_lt_zpow_iff_right₀ two).mp next
  omega

theorem le_floorLog2 {x : Binary64} {numerator denominator : Nat} (above : 0 < numerator)
    (below : 0 < denominator) {units : ℤ}
    (reaches : (2 : ℚ) ^ units * 2 ^ x.unitExponent ≤ (numerator : ℚ) / denominator) :
    x.unitExponent + units ≤ floorLog2 numerator denominator := by
  have two : (1 : ℚ) < 2 := by norm_num
  have next : (2 : ℚ) ^ (units + x.unitExponent) < 2 ^ (floorLog2 numerator denominator + 1) :=
    calc (2 : ℚ) ^ (units + x.unitExponent) = 2 ^ units * 2 ^ x.unitExponent :=
          zpow_add₀ (by norm_num) _ _
      _ ≤ (numerator : ℚ) / denominator := reaches
      _ < 2 ^ (floorLog2 numerator denominator + 1) := (floorLog2_spec above below).2
  have exponents := (zpow_lt_zpow_iff_right₀ two).mp next
  omega

/-- The bits of a rounded quotient, from its unit and its significand. -/
theorem nearestMagnitude_of_unit {numerator denominator m : Nat} (above : 0 < numerator) {unit : ℤ}
    (unitFound : max (floorLog2 numerator denominator - 52) (-1074) = unit)
    (rounded : roundQuotient (numerator * Nat.pow 2 (-unit).toNat)
      (denominator * Nat.pow 2 unit.toNat) = m)
    (leading : fractionSize ≤ m ∨ unit = -1074) :
    nearestMagnitude numerator denominator =
      min ((unit + 1074).toNat * fractionSize + m) infinityMagnitude := by
  have notZero : ¬ numerator = 0 := by omega
  rw [nearestMagnitude, if_neg notZero]
  dsimp only
  rw [unitFound, rounded]
  split
  · next small =>
    have smallest : unit = -1074 := leading.resolve_left (by omega)
    have none : (unit + 1074).toNat = 0 := by omega
    rw [none, Nat.zero_mul, Nat.zero_add]
  · rfl

theorem magnitude_le_infinity {x : Binary64} (finite : x.isFinite = true) :
    x.magnitude ≤ infinityMagnitude := by
  have field : x.exponentField ≠ 2047 := by
    simpa only [isFinite, decide_eq_true_eq] using finite
  have bound : x.exponentField < 0x800 := Nat.mod_lt _ (by decide)
  have fraction := x.fraction_lt
  rw [magnitude_eq_fields, infinityMagnitude]
  change x.exponentField * 0x10000000000000 + x.fraction ≤ 2047 * 0x10000000000000
  change x.fraction < 0x10000000000000 at fraction
  omega

/-- A quotient whose own unit is not that of the value is between the value, a power of two, and its
neighbour below. -/
theorem StandsFor.belowPower {x : Binary64} {numerator denominator : Nat} (above : 0 < numerator)
    (below : 0 < denominator) (inside : x.StandsFor ((numerator : ℚ) / denominator))
    (other : max (floorLog2 numerator denominator - 52) (-1074) ≠ x.unitExponent) :
    x.significand = fractionSize ∧ x.marginBelow = 1 / 4 ∧ -1074 < x.unitExponent ∧
      floorLog2 numerator denominator = x.unitExponent + 51 := by
  have upper := inside.floorLog2_le above below
  have smallest := x.unitExponent_lower
  have larger : -1074 < x.unitExponent := by omega
  have unit : (0 : ℚ) < 2 ^ x.unitExponent := by positivity
  rcases significand_lower larger with ⟨power, narrow⟩ | ⟨more, wide⟩
  · have margin : x.marginBelow = 1 / 4 := if_pos narrow
    have reaches : (2 : ℚ) ^ (51 : ℤ) * 2 ^ x.unitExponent ≤ (numerator : ℚ) / denominator := by
      refine le_trans ?_ inside.lower
      rw [power, margin]
      gcongr
      norm_num [fractionSize]
    have lower := le_floorLog2 above below reaches
    exact ⟨power, margin, larger, by omega⟩
  · have margin : x.marginBelow = 1 / 2 := if_neg (by rw [wide]; exact Bool.false_ne_true)
    have reaches : (2 : ℚ) ^ (52 : ℤ) * 2 ^ x.unitExponent ≤ (numerator : ℚ) / denominator := by
      refine le_trans ?_ inside.lower
      have next : 0x10000000000001 ≤ x.significand := more
      have nextQ : (0x10000000000001 : ℚ) ≤ x.significand := by exact_mod_cast next
      rw [margin]
      gcongr
      norm_num
      linarith
    have lower := le_floorLog2 above below reaches
    omega

/-- A quotient with the unit of the value is rounded to the units of the value. -/
theorem StandsFor.nearestMagnitude_of_sameUnit {x : Binary64} (finite : x.isFinite = true)
    {numerator denominator : Nat} (above : 0 < numerator) (below : 0 < denominator)
    (inside : x.StandsFor ((numerator : ℚ) / denominator))
    (same : max (floorLog2 numerator denominator - 52) (-1074) = x.unitExponent) :
    nearestMagnitude numerator denominator = x.magnitude := by
  have margin := x.marginBelow_le
  have smallest := x.unitExponent_lower
  have rounded : roundQuotient (numerator * Nat.pow 2 (-x.unitExponent).toNat)
      (denominator * Nat.pow 2 x.unitExponent.toNat) = x.significand := by
    have wider : ((x.significand : ℚ) - 1 / 2) * 2 ^ x.unitExponent ≤
        (x.significand - x.marginBelow) * 2 ^ x.unitExponent := by gcongr
    exact roundQuotient_unit below (wider.trans inside.lower) inside.upper
      (inside.ends.imp_right fun strict => ⟨wider.trans_lt strict.1, strict.2⟩)
  have leading : fractionSize ≤ x.significand ∨ x.unitExponent = -1074 := by
    by_cases larger : -1074 < x.unitExponent
    · rcases significand_lower larger with ⟨power, -⟩ | ⟨more, -⟩
      · exact .inl power.ge
      · exact .inl more.le
    · exact .inr (by omega)
  rw [nearestMagnitude_of_unit above same rounded leading, ← magnitude_eq,
    min_eq_left (magnitude_le_infinity finite)]

/-- A quotient just below a power of two, which has half the unit of the power, is rounded to the
power. -/
theorem StandsFor.nearestMagnitude_of_belowPower {x : Binary64} (finite : x.isFinite = true)
    {numerator denominator : Nat} (above : 0 < numerator) (below : 0 < denominator)
    (inside : x.StandsFor ((numerator : ℚ) / denominator))
    (other : max (floorLog2 numerator denominator - 52) (-1074) ≠ x.unitExponent) :
    nearestMagnitude numerator denominator = x.magnitude := by
  obtain ⟨power, margin, larger, reached⟩ := inside.belowPower above below other
  have double : (2 : ℚ) ^ x.unitExponent = 2 * 2 ^ (x.unitExponent - 1) := by
    rw [← zpow_one_add₀ (by norm_num), add_sub_cancel]
  have lower : ((2 * fractionSize : Nat) - 1 / 2 : ℚ) * 2 ^ (x.unitExponent - 1) ≤
      numerator / denominator := by
    refine le_of_eq_of_le ?_ inside.lower
    rw [power, margin, double]
    push_cast
    ring
  have upper : (numerator : ℚ) / denominator ≤
      ((2 * fractionSize : Nat) + 1 / 2 : ℚ) * 2 ^ (x.unitExponent - 1) := by
    have next := (floorLog2_spec above below).2
    have powers : (2 : ℚ) ^ (x.unitExponent + 51 + 1) =
        2 ^ (53 : ℤ) * 2 ^ (x.unitExponent - 1) := by
      rw [← zpow_add₀ (by norm_num)]
      congr 1
      ring
    rw [reached, powers] at next
    refine next.le.trans ?_
    gcongr
    norm_num
  have rounded : roundQuotient (numerator * Nat.pow 2 (-(x.unitExponent - 1)).toNat)
      (denominator * Nat.pow 2 (x.unitExponent - 1).toNat) = 2 * fractionSize :=
    roundQuotient_unit below lower upper (.inl rfl)
  -- twice the leading significand in half the unit has the bits of the power
  have total : (x.unitExponent - 1 + 1074).toNat * fractionSize + 2 * fractionSize =
      x.magnitude := by
    have step : (x.unitExponent + 1074).toNat = (x.unitExponent - 1 + 1074).toNat + 1 := by
      omega
    have product : ((x.unitExponent - 1 + 1074).toNat + 1) * fractionSize =
        (x.unitExponent - 1 + 1074).toNat * fractionSize + fractionSize := Nat.succ_mul _ _
    rw [magnitude_eq, power, step, product]
    omega
  rw [nearestMagnitude_of_unit above (by omega) rounded (.inl (by decide)), total,
    min_eq_left (magnitude_le_infinity finite)]

/-- Whatever lies in the interval of a value is read as the value. -/
theorem StandsFor.nearestMagnitude_eq {x : Binary64} (finite : x.isFinite = true)
    (nonzero : 0 < x.significand) {numerator denominator : Nat} (below : 0 < denominator)
    (inside : x.StandsFor ((numerator : ℚ) / denominator)) :
    nearestMagnitude numerator denominator = x.magnitude := by
  have belowQ : (0 : ℚ) < denominator := by exact_mod_cast below
  have above : 0 < numerator := by
    have quotient := inside.positive nonzero
    rw [lt_div_iff₀ belowQ, zero_mul] at quotient
    exact_mod_cast quotient
  by_cases same : max (floorLog2 numerator denominator - 52) (-1074) = x.unitExponent
  · exact inside.nearestMagnitude_of_sameUnit finite above below same
  · exact inside.nearestMagnitude_of_belowPower finite above below same

end BootSnapshot.Decimal.Binary64

import Instrument.Binary32
import Mathlib.Algebra.Order.Field.Power
import Mathlib.Algebra.Order.Ring.Rat
import Mathlib.Tactic.Linarith
import Mathlib.Tactic.NormNum
import Mathlib.Tactic.Positivity
import Mathlib.Tactic.Ring

/-!
# Integers rounded to single precision

Rounding an integer gives a 24-bit significand in units of its last place.  Unless it is
past the largest finite number, some pattern stands for the result, so a pair of rounded
bounds that leaves room for a number leaves room for one of the two bounds.
-/

namespace Instrument.Binary32

/-- The largest finite number. -/
def largest : Rat := (16777215 : Nat) * powerOfTwo 104

theorem powerOfTwo_eq (exponent : Int) : powerOfTwo exponent = (2 : Rat) ^ exponent := by
  rw [powerOfTwo]
  split
  · rename_i positive
    obtain ⟨power, rfl⟩ := Int.eq_ofNat_of_zero_le positive
    rw [Int.toNat_natCast, Nat.one_shiftLeft, zpow_natCast]
    push_cast
    rfl
  · rename_i negative
    obtain ⟨power, opposite⟩ := Int.eq_ofNat_of_zero_le (a := -exponent) (by omega)
    rw [opposite, Int.toNat_natCast, Nat.one_shiftLeft, ← neg_neg exponent, opposite,
      zpow_neg, zpow_natCast, Rat.mkRat_eq_div]
    push_cast
    rw [one_div]

theorem powerOfTwo_pos (exponent : Int) : 0 < powerOfTwo exponent := by
  rw [powerOfTwo_eq]
  positivity

theorem powerOfTwo_succ (exponent : Int) :
    powerOfTwo (exponent + 1) = 2 * powerOfTwo exponent := by
  rw [powerOfTwo_eq, powerOfTwo_eq, zpow_add_one₀ (by norm_num), mul_comm]

theorem powerOfTwo_le {first second : Int} (ordered : first ≤ second) :
    powerOfTwo first ≤ powerOfTwo second := by
  rw [powerOfTwo_eq, powerOfTwo_eq]
  exact zpow_le_zpow_right₀ (by norm_num) ordered

theorem nearestQuotient_bounds (numerator denominator : Nat) :
    numerator / denominator ≤ nearestQuotient numerator denominator ∧
      nearestQuotient numerator denominator ≤ numerator / denominator + 1 := by
  simp only [nearestQuotient]
  split
  · omega
  · split <;> omega

section Integers

variable {number : Nat}

theorem lastPlace_one (positive : number ≠ 0) : lastPlace number 1 = number.log2 - 23 := by
  have guess : floorLog2 number 1 = number.log2 := by
    have below := Nat.log2_self_le positive
    have one : (1 : Nat).log2 = 0 := by decide
    rw [floorLog2, one, Nat.shiftLeft_zero, Nat.one_shiftLeft, if_neg (by omega)]
    rfl
  rw [lastPlace, guess]
  omega

theorem significandOf_small (positive : number ≠ 0) {spare : Nat}
    (top : number.log2 + spare = 23) : significandOf number 1 = number * 2 ^ spare := by
  have exact : ∀ whole, nearestQuotient whole 1 = whole := by
    intro whole
    simp [nearestQuotient, Nat.mod_one]
  rw [significandOf, lastPlace_one positive]
  by_cases whole : spare = 0
  · have units : ((number.log2 : Int) - 23).toNat = 0 := by omega
    rw [if_pos (by omega), units, whole, Nat.shiftLeft_zero, exact, Nat.pow_zero, Nat.mul_one]
  · have units : (-((number.log2 : Int) - 23)).toNat = spare := by omega
    rw [if_neg (by omega), units, exact, Nat.shiftLeft_eq]

theorem significandOf_large (positive : number ≠ 0) {place : Nat}
    (top : number.log2 = 23 + place) :
    significandOf number 1 = nearestQuotient number (2 ^ place) := by
  have units : ((number.log2 : Int) - 23).toNat = place := by omega
  rw [significandOf, lastPlace_one positive, if_pos (by omega), units, Nat.one_shiftLeft]

theorem div_unit_bounds (positive : number ≠ 0) {place : Nat} (top : number.log2 = 23 + place) :
    8388608 ≤ number / 2 ^ place ∧ number / 2 ^ place < 16777216 := by
  have below := Nat.log2_self_le positive
  have above := @Nat.lt_log2_self number
  have unit := Nat.two_pow_pos place
  rw [top, Nat.pow_add] at below
  rw [top, show 23 + place + 1 = 24 + place by omega, Nat.pow_add] at above
  exact ⟨(Nat.le_div_iff_mul_le unit).mpr below, (Nat.div_lt_iff_lt_mul unit).mpr above⟩

theorem significandOf_bounds (positive : number ≠ 0) :
    8388608 ≤ significandOf number 1 ∧ significandOf number 1 ≤ 16777216 := by
  by_cases large : 23 ≤ number.log2
  · obtain ⟨place, top⟩ := Nat.exists_eq_add_of_le large
    have quotient := div_unit_bounds positive top
    have bounds := nearestQuotient_bounds number (2 ^ place)
    rw [significandOf_large positive top]
    omega
  · obtain ⟨spare, top⟩ := Nat.exists_eq_add_of_le (Nat.le_of_not_le large)
    have unit := Nat.two_pow_pos spare
    have lower := Nat.mul_le_mul_right (2 ^ spare) (Nat.log2_self_le positive)
    have upper := Nat.mul_lt_mul_of_pos_right (@Nat.lt_log2_self number) unit
    rw [← Nat.pow_add, ← top] at lower
    rw [← Nat.pow_add, show number.log2 + 1 + spare = 23 + 1 by omega] at upper
    rw [significandOf_small positive top.symm]
    omega

/-- A rounded integer has a leading bit and 23 more, in some units. -/
theorem exists_normal (positive : number ≠ 0) :
    ∃ (fraction : Nat) (exponent : Int), fraction < 8388608 ∧ -23 ≤ exponent ∧
      (significandOf number 1 : Rat) * powerOfTwo (lastPlace number 1) =
        (8388608 + fraction : Nat) * powerOfTwo exponent := by
  obtain ⟨lower, upper⟩ := significandOf_bounds positive
  have place := lastPlace_one positive
  by_cases carry : significandOf number 1 = 16777216
  · refine ⟨0, lastPlace number 1 + 1, by omega, by omega, ?_⟩
    rw [carry, powerOfTwo_succ]
    push_cast
    ring
  · obtain ⟨fraction, split⟩ := Nat.exists_eq_add_of_le lower
    exact ⟨fraction, lastPlace number 1, by omega, by omega, by rw [split]⟩

end Integers

/-- The pattern of a sign, some exponent bits and some fraction bits. -/
def ofParts (negative : Bool) (exponent fraction : Nat) : Binary32 :=
  ⟨UInt32.ofNat (2147483648 * negative.toNat + exponent * 8388608 + fraction)⟩

theorem value?_ofParts (negative : Bool) {exponent fraction : Nat} (normal : 0 < exponent)
    (finite : exponent < 255) (short : fraction < 8388608) :
    (ofParts negative exponent fraction).value? =
      some ((if negative then -1 else 1) *
        ((8388608 + fraction : Nat) * powerOfTwo (exponent - 150))) := by
  have sign : negative.toNat ≤ 1 := Bool.toNat_le negative
  have pattern : (ofParts negative exponent fraction).pattern.toNat =
      2147483648 * negative.toNat + exponent * 8388608 + fraction := by
    rw [ofParts, UInt32.toNat_ofNat_of_lt']
    rw [UInt32.size]
    omega
  have exponentBits_eq : (ofParts negative exponent fraction).exponentBits = exponent := by
    rw [exponentBits, pattern]
    omega
  have fraction_eq : (ofParts negative exponent fraction).fraction = fraction := by
    rw [Binary32.fraction, pattern]
    omega
  have isNegative_eq : (ofParts negative exponent fraction).isNegative = negative := by
    rw [isNegative, pattern]
    have high : (2147483648 * negative.toNat + exponent * 8388608 + fraction) / 2147483648 =
        negative.toNat := by omega
    rw [high]
    cases negative <;> rfl
  have place : max exponent 1 = exponent := by omega
  rw [value?, exponentBits_eq, fraction_eq, isNegative_eq, if_neg (by omega),
    if_neg (by omega), place]
  cases negative
  · simp
  · simp

theorem value?_neg_largest : (ofParts true 254 8388607).value? = some (-largest) := by
  rw [value?_ofParts true (by decide) (by decide) (by decide)]
  simp [largest]

/-- The magnitude of a number is a significand of 24 bits in units of some place. -/
theorem exists_magnitude {number : Binary32} {value : Rat} (finite : number.value? = some value) :
    ∃ (significand : Nat) (exponent : Int), significand < 16777216 ∧ exponent ≤ 104 ∧
      |value| = significand * powerOfTwo exponent := by
  have exponent : number.exponentBits < 256 := Nat.mod_lt _ (by decide)
  have fraction : number.fraction < 8388608 := Nat.mod_lt _ (by decide)
  rw [value?] at finite
  split at finite
  · cases finite
  · rename_i ordinary
    rw [Option.some.injEq] at finite
    obtain ⟨significand, same⟩ : ∃ significand : Nat,
      (if number.exponentBits = 0 then 0 else 8388608) + number.fraction = significand := ⟨_, rfl⟩
    have positive := powerOfTwo_pos (((max number.exponentBits 1 : Nat) : Int) - 150)
    have natural : 0 ≤ (significand : Rat) *
        powerOfTwo (((max number.exponentBits 1 : Nat) : Int) - 150) :=
      mul_nonneg (Nat.cast_nonneg _) positive.le
    refine ⟨significand, ((max number.exponentBits 1 : Nat) : Int) - 150, ?_, by omega, ?_⟩
    · split at same <;> omega
    · simp only [same] at finite
      subst finite
      split
      · rw [abs_neg, abs_of_nonneg natural]
      · exact abs_of_nonneg natural

theorem value?_bounds {number : Binary32} {value : Rat} (finite : number.value? = some value) :
    -largest ≤ value ∧ value ≤ largest := by
  obtain ⟨significand, exponent, short, low, magnitude⟩ := exists_magnitude finite
  rw [← abs_le, magnitude]
  apply mul_le_mul
  · exact Nat.cast_le.mpr (Nat.le_of_lt_succ short)
  · exact powerOfTwo_le low
  · exact (powerOfTwo_pos exponent).le
  · exact Nat.cast_nonneg _

/-- A rounded integer that is not past the largest number is a number. -/
theorem exists_value?_rounded {number : Int} (lower : -largest ≤ rounded number)
    (upper : rounded number ≤ largest) :
    ∃ pattern : Binary32, pattern.value? = some (rounded number) := by
  rw [rounded, Rat.num_intCast, Rat.den_intCast] at lower upper ⊢
  by_cases zero : number = 0
  · rw [if_pos zero]
    exact ⟨⟨0⟩, by simp [value?, exponentBits, fraction]⟩
  · rw [if_neg zero] at lower upper ⊢
    obtain ⟨fraction, exponent, short, normal, value⟩ :=
      exists_normal (Int.natAbs_ne_zero.mpr zero)
    simp only [value] at lower upper ⊢
    have finite : exponent ≤ 104 := by
      -- A leading bit in larger units is past the largest number.
      by_contra large
      have unit : powerOfTwo 105 ≤ powerOfTwo exponent := powerOfTwo_le (by omega)
      have twice := powerOfTwo_succ 104
      have positive := powerOfTwo_pos 104
      have leading : (8388608 : Rat) ≤ (8388608 + fraction : Nat) := by
        exact_mod_cast Nat.le_add_right _ _
      have past : largest < (8388608 + fraction : Nat) * powerOfTwo exponent := by
        calc largest < 8388608 * (2 * powerOfTwo 104) := by
              rw [largest]
              push_cast
              linarith
          _ = 8388608 * powerOfTwo 105 := by rw [← twice]; rfl
          _ ≤ (8388608 + fraction : Nat) * powerOfTwo exponent :=
            mul_le_mul leading unit (powerOfTwo_pos 105).le (Nat.cast_nonneg _)
      split at lower
      · linarith
      · rename_i notNegative
        rw [if_neg notNegative] at upper
        linarith
    obtain ⟨bits, biased⟩ := Int.eq_ofNat_of_zero_le (a := exponent + 150) (by omega)
    have exponent_eq : ((bits : Int) - 150) = exponent := by omega
    refine ⟨ofParts (decide (number < 0)) bits fraction, ?_⟩
    rw [value?_ofParts _ (by omega) (by omega) short, exponent_eq]
    by_cases negative : number < 0
    · simp [negative]
    · simp [negative]

/-- Some number lies between two bounds exactly if the range that the rounded bounds leave
of the finite numbers is not empty. -/
theorem exists_liesBetween_iff (low high : Int) :
    (∃ number : Binary32, number.liesBetween low high = true) ↔
      max (rounded low) (-largest) ≤ min (rounded high) largest := by
  constructor
  · intro between
    obtain ⟨number, between⟩ := between
    rw [liesBetween] at between
    split at between
    · rename_i value finite
      obtain ⟨notBelow, notAbove⟩ := of_decide_eq_true between
      obtain ⟨least, greatest⟩ := value?_bounds finite
      exact (max_le notBelow least).trans (le_min notAbove greatest)
    · cases between
  · intro room
    by_cases belowLeast : rounded low ≤ -largest
    · refine ⟨ofParts true 254 8388607, ?_⟩
      rw [max_eq_right belowLeast] at room
      simp only [liesBetween, value?_neg_largest]
      exact decide_eq_true ⟨belowLeast, room.trans (min_le_left _ _)⟩
    · have aboveLeast := (not_le.mp belowLeast).le
      rw [max_eq_left aboveLeast] at room
      obtain ⟨number, finite⟩ := exists_value?_rounded aboveLeast (room.trans (min_le_right _ _))
      refine ⟨number, ?_⟩
      simp only [liesBetween, finite]
      exact decide_eq_true ⟨le_refl _, room.trans (min_le_left _ _)⟩

end Instrument.Binary32

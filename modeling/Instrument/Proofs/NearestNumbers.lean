import Instrument.Proofs.RoundedIntegers

/-!
# The number nearest to an integer

No single-precision number lies strictly between two neighbouring multiples of the last
place of an integer.  So the nearer of the two, and of two equally near ones the even, is
nearest among all numbers, and rounding a bound to it moves the bound past no number but
itself.
-/

namespace Instrument.Binary32

/-- A number is as near to an integer as single precision allows, and has an even
significand if another one is equally near. -/
structure NearestEven (number : Int) (bound : Rat) : Prop where
  nearest : ∀ {pattern : Binary32} {value : Rat}, pattern.value? = some value →
    |bound - number| ≤ |value - number|
  even : ∀ {pattern : Binary32} {value : Rat}, pattern.value? = some value → value ≠ bound →
    |value - number| = |bound - number| →
      ∃ (significand : Nat) (exponent : Int), 8388608 ≤ significand ∧ significand ≤ 16777216 ∧
        significand % 2 = 0 ∧ |bound| = significand * powerOfTwo exponent

theorem powerOfTwo_add (place more : Nat) :
    powerOfTwo ((place + more : Nat) : Int) = (2 ^ more : Nat) * powerOfTwo place := by
  rw [powerOfTwo_eq, powerOfTwo_eq, zpow_natCast, zpow_natCast, pow_add, mul_comm]
  push_cast
  rfl

/-- In units that leave an integer a leading bit and 23 more, no number lies strictly
between two neighbouring integers. -/
theorem le_or_succ_le {significand quotient place : Nat} {exponent : Int} {value : Rat}
    (short : significand < 16777216) (magnitude : |value| = significand * powerOfTwo exponent)
    (leading : 8388608 ≤ quotient) :
    value ≤ quotient * powerOfTwo place ∨
      ((quotient + 1 : Nat) : Rat) * powerOfTwo place ≤ value := by
  have unit := powerOfTwo_pos place
  have least : (8388608 : Rat) * powerOfTwo place ≤ quotient * powerOfTwo place :=
    mul_le_mul_of_nonneg_right (by exact_mod_cast leading) unit.le
  rcases le_or_gt value 0 with negative | positive
  · left
    have natural : 0 ≤ (quotient : Rat) * powerOfTwo place :=
      mul_nonneg (Nat.cast_nonneg _) unit.le
    exact negative.trans natural
  · rw [abs_of_pos positive] at magnitude
    rcases lt_or_ge exponent place with smaller | larger
    · -- Units below the place need more than 24 bits to reach past the leading one.
      left
      have half : powerOfTwo exponent ≤ powerOfTwo ((place : Int) - 1) :=
        powerOfTwo_le (by omega)
      have twice := powerOfTwo_succ ((place : Int) - 1)
      rw [sub_add_cancel] at twice
      calc value = significand * powerOfTwo exponent := magnitude
        _ ≤ 16777216 * powerOfTwo ((place : Int) - 1) :=
          mul_le_mul (by exact_mod_cast short.le) half (powerOfTwo_pos _).le (by norm_num)
        _ = 8388608 * powerOfTwo place := by rw [twice]; ring
        _ ≤ quotient * powerOfTwo place := least
    · -- Other numbers are whole multiples of the unit.
      obtain ⟨more, added⟩ := Int.le.dest larger
      have whole : value = ((significand * 2 ^ more : Nat) : Rat) * powerOfTwo place := by
        rw [magnitude, ← added, ← Nat.cast_add, powerOfTwo_add, Nat.cast_mul, mul_assoc]
      rw [whole]
      rcases Nat.lt_or_ge quotient (significand * 2 ^ more) with above | below
      · right
        exact mul_le_mul_of_nonneg_right (Nat.cast_le.mpr above) unit.le
      · left
        exact mul_le_mul_of_nonneg_right (Nat.cast_le.mpr below) unit.le

theorem abs_neg_sub_neg (first second : Rat) : |-first - -second| = |first - second| := by
  rw [neg_sub_neg, abs_sub_comm]

/-- A bound is as near to a number as some value, and if another value is equally near then
the bound has some property. -/
structure AsNear (number bound value : Rat) (tied : Prop) : Prop where
  le : |bound - number| ≤ |value - number|
  tie : value ≠ bound → |value - number| = |bound - number| → tied

namespace AsNear

variable {number bound value : Rat} {tied : Prop}

theorem imp {other : Prop} (near : AsNear number bound value tied) (implies : tied → other) :
    AsNear number bound value other where
  le := near.le
  tie different same := implies (near.tie different same)

theorem neg (near : AsNear number bound value tied) : AsNear (-number) (-bound) (-value) tied := by
  constructor
  · rw [abs_neg_sub_neg, abs_neg_sub_neg]
    exact near.le
  · intro different same
    rw [abs_neg_sub_neg, abs_neg_sub_neg] at same
    exact near.tie (fun equal => different (congrArg Neg.neg equal)) same

theorem exact (number value : Rat) (tied : Prop) : AsNear number number value tied := by
  constructor
  · rw [sub_self, abs_zero]
    exact abs_nonneg _
  · intro different same
    rw [sub_self, abs_zero, abs_eq_zero, sub_eq_zero] at same
    exact absurd same different

end AsNear

section Neighbours

variable {below above number value : Rat}

/-- Between two neighbours a number is nearest to the nearer one; a value that is equally near
lies on its other side. -/
theorem asNear_below (least : below ≤ number) (nearer : number - below ≤ above - number)
    (outside : value ≤ below ∨ above ≤ value) :
    AsNear number below value (number - below = above - number) := by
  have distance : |below - number| = number - below := by
    rw [abs_sub_comm, abs_of_nonneg (sub_nonneg.mpr least)]
  rcases outside with low | high
  · have far : |value - number| = number - value := by
      rw [abs_sub_comm, abs_of_nonneg (sub_nonneg.mpr (low.trans least))]
    constructor
    · rw [distance, far]
      exact sub_le_sub_left low number
    · intro different same
      rw [distance, far] at same
      exact absurd (sub_right_injective same) different
  · have far : |value - number| = value - number := abs_of_nonneg (by linarith)
    constructor
    · rw [distance, far]
      linarith
    · intro _ same
      rw [distance, far] at same
      linarith

theorem asNear_above (greatest : number ≤ above) (nearer : above - number ≤ number - below)
    (outside : value ≤ below ∨ above ≤ value) :
    AsNear number above value (number - below = above - number) := by
  have mirrored := @asNear_below (-above) (-below) (-number) (-value) (neg_le_neg greatest)
    (by linarith) (outside.symm.imp neg_le_neg neg_le_neg)
  have near := mirrored.neg
  rw [neg_neg, neg_neg, neg_neg] at near
  apply near.imp
  intro middle
  linarith

end Neighbours

theorem nearestQuotient_cases (numerator denominator : Nat) :
    (nearestQuotient numerator denominator = numerator / denominator ∧
        2 * (numerator % denominator) ≤ denominator ∧
          (2 * (numerator % denominator) = denominator →
            nearestQuotient numerator denominator % 2 = 0)) ∨
      (nearestQuotient numerator denominator = numerator / denominator + 1 ∧
        denominator ≤ 2 * (numerator % denominator) ∧
          (2 * (numerator % denominator) = denominator →
            nearestQuotient numerator denominator % 2 = 0)) := by
  simp only [nearestQuotient]
  split
  · omega
  · split <;> omega

/-- The nearest quotient gives the nearer one of the two multiples around a number, and an even
one if they are equally near. -/
theorem asNear_nearestQuotient {numerator denominator : Nat} (positive : 0 < denominator)
    {value : Rat}
    (outside : value ≤ ((numerator / denominator : Nat) : Rat) * denominator ∨
      ((numerator / denominator + 1 : Nat) : Rat) * denominator ≤ value) :
    AsNear numerator (nearestQuotient numerator denominator * denominator) value
      (nearestQuotient numerator denominator % 2 = 0) := by
  have sum : (numerator : Rat) =
      ((numerator / denominator : Nat) : Rat) * denominator +
        ((numerator % denominator : Nat) : Rat) := by
    rw [mul_comm]
    exact_mod_cast (Nat.div_add_mod numerator denominator).symm
  have next : ((numerator / denominator + 1 : Nat) : Rat) * denominator =
      ((numerator / denominator : Nat) : Rat) * denominator + denominator := by
    push_cast
    ring
  have natural : (0 : Rat) ≤ ((numerator % denominator : Nat) : Rat) := Nat.cast_nonneg _
  have middle : (numerator : Rat) - ((numerator / denominator : Nat) : Rat) * denominator =
      ((numerator / denominator + 1 : Nat) : Rat) * denominator - numerator →
      2 * (numerator % denominator) = denominator := by
    intro between
    have twice : (2 : Rat) * ((numerator % denominator : Nat) : Rat) = denominator := by linarith
    exact_mod_cast twice
  rcases nearestQuotient_cases numerator denominator with
    ⟨low, half, even⟩ | ⟨high, half, even⟩
  · have bound : (2 : Rat) * ((numerator % denominator : Nat) : Rat) ≤ denominator := by
      exact_mod_cast half
    have near := @asNear_below _ _ (numerator : Rat) _ (by linarith) (by linarith) outside
    rw [← low] at near
    apply near.imp
    intro between
    rw [low] at between
    exact even (middle between)
  · have bound : (denominator : Rat) ≤ 2 * ((numerator % denominator : Nat) : Rat) := by
      exact_mod_cast half
    have small : ((numerator % denominator : Nat) : Rat) ≤ denominator :=
      Nat.cast_le.mpr (Nat.mod_lt _ positive).le
    have near := @asNear_above _ _ (numerator : Rat) _ (by linarith) (by linarith) outside
    rw [← high] at near
    apply near.imp
    intro between
    rw [high] at between
    exact even (middle between)

section Naturals

variable {number : Nat}

/-- A positive integer is rounded to a number that is as near as any. -/
theorem asNear_natural (positive : number ≠ 0) {significand : Nat} {exponent : Int} {value : Rat}
    (short : significand < 16777216) (magnitude : |value| = significand * powerOfTwo exponent) :
    AsNear number (significandOf number 1 * powerOfTwo (lastPlace number 1)) value
      (significandOf number 1 % 2 = 0) := by
  by_cases large : 23 ≤ number.log2
  · obtain ⟨place, top⟩ := Nat.exists_eq_add_of_le large
    have unit : powerOfTwo (lastPlace number 1) = ((2 ^ place : Nat) : Rat) := by
      have last : lastPlace number 1 = (place : Int) := by
        rw [lastPlace_one positive]
        omega
      rw [last, powerOfTwo_eq, zpow_natCast]
      push_cast
      rfl
    have outside := @le_or_succ_le significand (number / 2 ^ place) place exponent value short
      magnitude (div_unit_bounds positive top).1
    rw [powerOfTwo_eq, zpow_natCast] at outside
    rw [unit, significandOf_large positive top]
    apply asNear_nearestQuotient (Nat.two_pow_pos place)
    push_cast at outside ⊢
    exact outside
  · obtain ⟨spare, top⟩ := Nat.exists_eq_add_of_le (Nat.le_of_not_le large)
    have exact : (significandOf number 1 : Rat) * powerOfTwo (lastPlace number 1) = number := by
      have last : lastPlace number 1 = -(spare : Int) := by
        rw [lastPlace_one positive]
        omega
      rw [significandOf_small positive top.symm, last, powerOfTwo_eq, zpow_neg, zpow_natCast]
      push_cast
      exact mul_inv_cancel_right₀ (by positivity) _
    rw [exact]
    exact .exact _ _ _

theorem rounded_natCast (positive : number ≠ 0) :
    rounded ((number : Int) : Rat) =
      significandOf number 1 * powerOfTwo (lastPlace number 1) := by
  rw [rounded, Rat.num_intCast, Rat.den_intCast, Int.natAbs_natCast, if_neg (by omega),
    if_neg (by omega)]

theorem rounded_neg_natCast (positive : number ≠ 0) :
    rounded ((-(number : Int) : Int) : Rat) =
      -(significandOf number 1 * powerOfTwo (lastPlace number 1)) := by
  rw [rounded, Rat.num_intCast, Rat.den_intCast, Int.natAbs_neg, Int.natAbs_natCast,
    if_neg (by omega), if_pos (by omega)]

end Naturals

theorem asNear_rounded {number : Int} (nonzero : number ≠ 0) {significand : Nat} {exponent : Int}
    {value : Rat} (short : significand < 16777216)
    (magnitude : |value| = significand * powerOfTwo exponent) :
    AsNear number (rounded number) value (significandOf number.natAbs 1 % 2 = 0) := by
  obtain ⟨natural, rfl | rfl⟩ := number.eq_nat_or_neg
  · have positive : natural ≠ 0 := by omega
    rw [rounded_natCast positive, Int.natAbs_natCast, Int.cast_natCast]
    exact asNear_natural positive short magnitude
  · have positive : natural ≠ 0 := by omega
    have mirrored := (asNear_natural positive short ((abs_neg value).trans magnitude)).neg
    rw [neg_neg] at mirrored
    rw [rounded_neg_natCast positive, Int.natAbs_neg, Int.natAbs_natCast, Int.cast_neg,
      Int.cast_natCast]
    exact mirrored

theorem abs_rounded {number : Int} (nonzero : number ≠ 0) :
    |rounded number| =
      significandOf number.natAbs 1 * powerOfTwo (lastPlace number.natAbs 1) := by
  have natural : (0 : Rat) ≤
      significandOf number.natAbs 1 * powerOfTwo (lastPlace number.natAbs 1) :=
    mul_nonneg (Nat.cast_nonneg _) (powerOfTwo_pos _).le
  rw [rounded, Rat.num_intCast, Rat.den_intCast, if_neg nonzero]
  simp only []
  split
  · rw [abs_neg, abs_of_nonneg natural]
  · exact abs_of_nonneg natural

/-- Rounding an integer goes to the nearest number, and to the even one of two. -/
theorem nearestEven_rounded (number : Int) : NearestEven number (rounded number) := by
  by_cases zero : number = 0
  · subst zero
    have exact : rounded ((0 : Int) : Rat) = ((0 : Int) : Rat) := rfl
    rw [exact]
    constructor
    · intro pattern value finite
      exact (AsNear.exact _ value False).le
    · intro pattern value finite other same
      exact ((AsNear.exact _ value False).tie other same).elim
  · obtain ⟨least, greatest⟩ := significandOf_bounds (Int.natAbs_ne_zero.mpr zero)
    constructor
    · intro pattern value finite
      obtain ⟨_, _, short, _, magnitude⟩ := exists_magnitude finite
      exact (asNear_rounded zero short magnitude).le
    · intro pattern value finite other same
      obtain ⟨_, _, short, _, magnitude⟩ := exists_magnitude finite
      have even := (asNear_rounded zero short magnitude).tie other same
      exact ⟨_, _, least, greatest, even, abs_rounded zero⟩

/-- An integer of at most 24 bits is a number already, and so is the next one. -/
theorem rounded_of_small {number : Int} (small : number.natAbs ≤ 16777216) :
    rounded number = number := by
  by_cases zero : number = 0
  · subst zero
    rfl
  · have exact : ∃ (significand : Nat) (exponent : Int), significand < 16777216 ∧
        |(number : Rat)| = significand * powerOfTwo exponent := by
      rw [← Int.cast_abs, Int.abs_eq_natAbs, Int.cast_natCast]
      rcases Nat.lt_or_eq_of_le small with below | top
      · exact ⟨number.natAbs, 0, below, by simp [powerOfTwo]⟩
      · exact ⟨8388608, 1, by decide, by rw [top, powerOfTwo_eq]; norm_num⟩
    obtain ⟨significand, exponent, short, magnitude⟩ := exact
    have nearest := (asNear_rounded zero short magnitude).le
    rw [sub_self, abs_zero] at nearest
    exact sub_eq_zero.mp (abs_eq_zero.mp (le_antisymm nearest (abs_nonneg _)))

/-- A bound that is moved to a nearest value lets another value pass that it would not only
if that is where it is moved to. -/
theorem le_iff_of_nearest {bound number value : Rat}
    (nearest : |bound - number| ≤ |value - number|) :
    bound ≤ value ↔ number ≤ value ∨ value = bound := by
  constructor
  · intro notBelow
    by_cases inside : number ≤ value
    · exact .inl inside
    · have below := not_le.mp inside
      rw [abs_of_nonpos (by linarith), abs_of_neg (by linarith)] at nearest
      right
      linarith
  · intro either
    rcases either with inside | same
    · by_contra past
      have above := not_le.mp past
      rw [abs_of_pos (by linarith), abs_of_nonneg (by linarith)] at nearest
      linarith
    · exact same.ge

theorem ge_iff_of_nearest {bound number value : Rat}
    (nearest : |bound - number| ≤ |value - number|) :
    value ≤ bound ↔ value ≤ number ∨ value = bound := by
  rw [← abs_neg_sub_neg, ← abs_neg_sub_neg value] at nearest
  have mirrored := le_iff_of_nearest nearest
  rw [neg_le_neg_iff, neg_le_neg_iff, neg_inj] at mirrored
  exact mirrored

theorem liesBetween_iff {pattern : Binary32} (low high : Int) :
    pattern.liesBetween low high = true ↔
      ∃ value, pattern.value? = some value ∧ (low ≤ value ∨ value = rounded low) ∧
        (value ≤ high ∨ value = rounded high) := by
  rw [liesBetween]
  cases finite : pattern.value? with
  | none => simp
  | some value =>
      have least := le_iff_of_nearest ((nearestEven_rounded low).nearest finite)
      have greatest := ge_iff_of_nearest ((nearestEven_rounded high).nearest finite)
      simp only [decide_eq_true_eq, least, greatest, Option.some.injEq, exists_eq_left']

end Instrument.Binary32

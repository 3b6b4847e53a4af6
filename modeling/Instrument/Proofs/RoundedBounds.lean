import Instrument.Proofs.NearestNumbers
import Instrument.Proofs.PayloadElements

/-!
# Bounds on single-precision elements

Bounds are integers of up to 64 bits, and both are rounded to single precision before they
are compared with an element.  So an element passes that lies between the bounds, and besides
only one that a bound is rounded to.
-/

namespace Instrument

/-- The single-precision number at an index of a payload. -/
def Binary32.numberAt (payload : Bytes) (index : Nat) : Binary32 :=
  ⟨UInt32.ofNat (Element.Kind.float.plainAt payload index)⟩

theorem Element.Kind.float?_at {payload : Bytes} {index : Nat}
    (whole : (index + 1) * Kind.float.width ≤ payload.length) :
    Kind.float.float? ((payload.drop (index * Kind.float.width)).take Kind.float.width) =
      some (.numberAt payload index) := by
  rw [float?, bits_at .float whole, Binary32.numberAt]

namespace Rule

open Binary32

theorem elementBetween_float (low high : Int) (element : Bytes) :
    elementBetween .float low high element =
      (Element.Kind.float.float? element).any (·.liesBetween low high) := rfl

theorem accepts_float_between_iff (low high : Int) (payload : Bytes) :
    (between low high).accepts .float payload = true ↔
      ∀ index, (index + 1) * Element.Kind.float.width ≤ payload.length →
        (numberAt payload index).liesBetween low high = true := by
  rw [accepts, Element.Kind.all_elements_iff]
  apply forall_congr'
  intro index
  apply imp_congr_right
  intro whole
  rw [elementBetween_float, Element.Kind.float?_at whole, Option.any_some]

/-- A payload of single-precision elements lies between bounds if each whole element is a
number that is not below the least bound, unless that is rounded to it, and not above the
greatest, unless that is rounded to it.  A bound is rounded to the nearest number, and to
itself up to 24 bits. -/
theorem float_bounds_rounded (low high : Int) (payload : Bytes) :
    ((between low high).accepts .float payload = true ↔
      ∀ index, (index + 1) * 4 ≤ payload.length →
        ∃ value, (numberAt payload index).value? = some value ∧
          (low ≤ value ∨ value = rounded low) ∧ (value ≤ high ∨ value = rounded high)) ∧
      ∀ bound : Int, NearestEven bound (rounded bound) ∧
        (bound.natAbs ≤ 16777216 → rounded bound = bound) := by
  constructor
  · have width : Element.Kind.float.width = 4 := rfl
    rw [accepts_float_between_iff, width]
    apply forall_congr'
    intro index
    rw [liesBetween_iff]
  · intro bound
    exact ⟨nearestEven_rounded bound, rounded_of_small⟩

/-- A greatest bound that needs 25 bits lies midway between two numbers, and the one above
it, which it is rounded to, passes. -/
theorem rounded_bound_passes_above :
    ¬((between 0 16777219).accepts .float [2, 0, 0x80, 0x4B] = true ↔
      ∀ index, (index + 1) * 4 ≤ List.length [2, 0, 0x80, (0x4B : UInt8)] →
        ∃ value, (numberAt [2, 0, 0x80, 0x4B] index).value? = some value ∧
          ((0 : Int) : Rat) ≤ value ∧ value ≤ ((16777219 : Int) : Rat)) := by
  intro claimed
  have passes : (between 0 16777219).accepts .float [2, 0, 0x80, 0x4B] = true := by
    decide +kernel
  have above : (numberAt [2, 0, 0x80, 0x4B] 0).value? = some 16777220 := by decide +kernel
  obtain ⟨value, finite, _, greatest⟩ := claimed.mp passes 0 (by decide)
  rw [above] at finite
  cases finite
  exact absurd greatest (by decide +kernel)

/-- The element above passes where both bounds are the integer below it; a bound of 24 bits
stays where it is. -/
theorem float_bounds_rounded_midway :
    (between 16777219 16777219).accepts .float [2, 0, 0x80, 0x4B] = true ∧
      Int.natAbs 16777216 ≤ 16777216 ∧ rounded ((16777216 : Int) : Rat) = (16777216 : Int) := by
  have small : Int.natAbs 16777216 ≤ 16777216 := by decide
  obtain ⟨passes, kept⟩ := float_bounds_rounded 16777219 16777219 [2, 0, 0x80, 0x4B]
  refine ⟨passes.mpr ?_, small, (kept 16777216).2 small⟩
  intro index inside
  have first : index = 0 := by
    simp only [List.length_cons, List.length_nil] at inside
    omega
  subst first
  refine ⟨16777220, ?_, .inl ?_, .inr ?_⟩ <;> decide +kernel

end Rule

end Instrument

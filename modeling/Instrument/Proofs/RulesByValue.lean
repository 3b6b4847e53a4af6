import Instrument.Proofs.PayloadElements

/-!
# Rules judged by value

A rule on fields or bounds passes a payload of integers exactly if the number of every whole
element satisfies it, wherever the element lies and whatever its sign.  So a payload passes
if its parts do, and the start of an element at its end decides nothing.
-/

namespace Instrument.Rule

variable {kind : Element.Kind}

/-- The rules that look at elements one by one pass a payload in two parts if they pass
both, provided that the first part ends with an element. -/
theorem accepts_append {rule : Rule} (elementwise : (rule.elementCheck? kind).isSome = true)
    {front : Bytes} (whole : kind.width ∣ front.length) (back : Bytes) :
    rule.accepts kind (front ++ back) = (rule.accepts kind front && rule.accepts kind back) := by
  have bits : ∀ check : Bytes → Bool,
      (kind.isInteger && (kind.elements (front ++ back)).all check) =
        ((kind.isInteger && (kind.elements front).all check) &&
          (kind.isInteger && (kind.elements back).all check)) := by
    intro check
    rw [Element.Kind.elements_append whole, List.all_append]
    cases kind.isInteger <;> rfl
  cases rule with
  | any => rfl
  | within field => exact bits _
  | oneOf choice => exact bits _
  | between low high =>
      simp only [accepts, Element.Kind.elements_append whole, List.all_append]
  | custom check => cases elementwise

section Integers

variable (integral : kind.isInteger = true) (payload : Bytes)

include integral

theorem accepts_within_iff (field : BitField) :
    (within field).accepts kind payload = true ↔
      ∀ index, (index + 1) * kind.width ≤ payload.length →
        ∀ bit, (kind.plainAt payload index).testBit bit = true →
          field.bits.testBit bit = true := by
  rw [accepts, integral, Bool.true_and, Element.Kind.all_elements_iff]
  apply forall_congr'
  intro index
  apply imp_congr_right
  intro whole
  rw [kind.bits_at whole]
  exact BitField.covers_iff

theorem accepts_oneOf_iff (choice : FieldChoice) :
    (oneOf choice).accepts kind payload = true ↔
      ∀ index, (index + 1) * kind.width ≤ payload.length →
        (∀ bit, (kind.plainAt payload index).testBit bit = true →
          choice.field.bits.testBit bit = true) ∧
        kind.plainAt payload index ∈ choice.values := by
  rw [accepts, integral, Bool.true_and, Element.Kind.all_elements_iff]
  apply forall_congr'
  intro index
  apply imp_congr_right
  intro whole
  rw [kind.bits_at whole, FieldChoice.admits, Bool.and_eq_true, BitField.covers_iff,
    List.contains_iff_mem]

theorem accepts_between_iff (low high : Int) :
    (between low high).accepts kind payload = true ↔
      ∀ index, (index + 1) * kind.width ≤ payload.length →
        low ≤ kind.integerAt payload index ∧ kind.integerAt payload index ≤ high := by
  rw [accepts, Element.Kind.all_elements_iff]
  apply forall_congr'
  intro index
  apply imp_congr_right
  intro whole
  rw [elementBetween, Element.Kind.integer?_at integral whole]
  exact decide_eq_true_iff

theorem accepts_of_short {rule : Rule} (elementwise : (rule.elementCheck? kind).isSome = true)
    (short : payload.length < kind.width) : rule.accepts kind payload = true := by
  have none := Element.Kind.elements_of_short short
  cases rule with
  | any => rfl
  | within field => rw [accepts, none, integral, List.all_nil, Bool.true_and]
  | oneOf choice => rw [accepts, none, integral, List.all_nil, Bool.true_and]
  | between low high => rw [accepts, none, List.all_nil]
  | custom check => cases elementwise

/-- A payload of integers passes a rule exactly if each of its whole elements does: its
number has no bit outside the field, is one of the values of the choice as well, or, with
the sign of the kind, lies between the bounds.  What follows the last whole element is not
looked at, and of two parts that meet between elements both have to pass. -/
theorem integers_judged_by_value :
    (∀ field, (within field).accepts kind payload = true ↔
      ∀ index, (index + 1) * kind.width ≤ payload.length →
        ∀ bit, (kind.plainAt payload index).testBit bit = true →
          field.bits.testBit bit = true) ∧
    (∀ choice, (oneOf choice).accepts kind payload = true ↔
      ∀ index, (index + 1) * kind.width ≤ payload.length →
        (∀ bit, (kind.plainAt payload index).testBit bit = true →
          choice.field.bits.testBit bit = true) ∧
        kind.plainAt payload index ∈ choice.values) ∧
    (∀ low high, (between low high).accepts kind payload = true ↔
      ∀ index, (index + 1) * kind.width ≤ payload.length →
        low ≤ kind.integerAt payload index ∧ kind.integerAt payload index ≤ high) ∧
    ∀ rule : Rule, (rule.elementCheck? kind).isSome = true → kind.width ∣ payload.length →
      (∀ rest : Bytes, rest.length < kind.width →
        rule.accepts kind (payload ++ rest) = rule.accepts kind payload) ∧
      ∀ back, rule.accepts kind (payload ++ back) =
        (rule.accepts kind payload && rule.accepts kind back) := by
  refine ⟨accepts_within_iff integral payload, accepts_oneOf_iff integral payload,
    accepts_between_iff integral payload, ?_⟩
  intro rule elementwise whole
  constructor
  · intro rest short
    rw [accepts_append elementwise whole, accepts_of_short integral rest elementwise short,
      Bool.and_true]
  · intro back
    exact accepts_append elementwise whole back

end Integers

/-- Elements at both bounds pass, and the start of an element after them is not looked at;
a third one just below the least bound, which unsigned would be the greatest, does not. -/
theorem integers_judged_by_value_signed :
    Element.Kind.isInteger (.signed .two) = true ∧
      (between (-5) 5).accepts (.signed .two) [0xFB, 0xFF, 5, 0] = true ∧
      (between (-5) 5).accepts (.signed .two) ([0xFB, 0xFF, 5, 0] ++ [6]) = true ∧
      (between (-5) 5).accepts (.signed .two) ([0xFB, 0xFF, 5, 0] ++ [0xFA, 0xFF]) = false := by
  have integral : Element.Kind.isInteger (.signed .two) = true := rfl
  have whole : Element.Kind.width (.signed .two) ∣ List.length [0xFB, 0xFF, 5, (0 : UInt8)] :=
    by decide
  obtain ⟨_, _, bounded, parts⟩ := integers_judged_by_value integral [0xFB, 0xFF, 5, 0]
  obtain ⟨cut, joined⟩ := parts (between (-5) 5) rfl whole
  obtain ⟨_, _, last, _⟩ := integers_judged_by_value integral [0xFA, 0xFF]
  have passes : (between (-5) 5).accepts (.signed .two) [0xFB, 0xFF, 5, 0] = true := by
    apply (bounded (-5) 5).mpr
    intro index inside
    match index, inside with
    | 0, _ => decide
    | 1, _ => decide
    | index + 2, inside =>
        simp only [Element.Kind.width, Element.Width.bytes, List.length_cons, List.length_nil]
          at inside
        omega
  have fails : (between (-5) 5).accepts (.signed .two) [0xFA, 0xFF] = false := by
    rw [Bool.eq_false_iff, ne_eq, last (-5) 5]
    intro inside
    exact absurd (inside 0 (by decide)) (by decide)
  refine ⟨integral, passes, (cut [6] (by decide)).trans passes, (joined _).trans ?_⟩
  rw [passes, fails]
  rfl

end Instrument.Rule

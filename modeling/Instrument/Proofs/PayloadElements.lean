import Mathlib.Algebra.BigOperators.Ring.Finset
import Mathlib.Tactic.Ring
import Instrument.Proofs.ElementValues

/-!
# Elements at their places

The whole elements of a payload lie one after the other from its start.  The numbers of the
one at an index are written here as sums over its bytes, without cutting the payload: the
plain number of the bytes, and for a signed kind its value in two's complement.
-/

namespace Instrument

namespace Bytes

theorem ofLittleEndian_eq_sum (bytes : Bytes) :
    ofLittleEndian bytes =
      ∑ place ∈ Finset.range bytes.length, (bytes.getD place 0).toNat * 256 ^ place := by
  induction bytes with
  | nil => rfl
  | cons byte rest induction =>
      have scaled : ∀ place, 256 * ((rest.getD place 0).toNat * 256 ^ place) =
          ((byte :: rest).getD (place + 1) 0).toNat * 256 ^ (place + 1) := by
        intro place
        rw [List.getD_cons_succ, pow_succ]
        ring
      rw [ofLittleEndian, induction, Finset.mul_sum,
        Finset.sum_congr rfl fun place _ => scaled place, List.length_cons,
        Finset.sum_range_succ', List.getD_cons_zero, pow_zero, Nat.mul_one, Nat.add_comm]

theorem blocks_eq_map (width count : Nat) (bytes : Bytes) :
    blocks width count bytes =
      (List.range count).map fun index => (bytes.drop (index * width)).take width := by
  induction count generalizing bytes with
  | zero => rfl
  | succ count induction =>
      rw [blocks, induction, List.range_succ_eq_map, List.map_cons, List.map_map, Nat.zero_mul,
        List.drop_zero]
      congr 2
      funext index
      rw [List.drop_drop, Function.comp_apply, Nat.succ_mul, Nat.add_comm]

theorem blocks_append_blocks (width count later : Nat) {front : Bytes} (back : Bytes)
    (sized : front.length = count * width) :
    blocks width (count + later) (front ++ back) =
      blocks width count front ++ blocks width later back := by
  induction count generalizing front with
  | zero =>
      have empty : front = [] := List.eq_nil_of_length_eq_zero (by rw [sized, Nat.zero_mul])
      rw [empty, Nat.zero_add]
      rfl
  | succ count induction =>
      rw [Nat.succ_mul] at sized
      have first : (front.take width).length = width := by
        rw [List.length_take]
        omega
      have others : (front.drop width).length = count * width := by
        rw [List.length_drop]
        omega
      calc blocks width (count + 1 + later) (front ++ back)
          = blocks width (count + later + 1)
              (front.take width ++ (front.drop width ++ back)) := by
            rw [← List.append_assoc, List.take_append_drop, Nat.add_right_comm]
        _ = front.take width :: (blocks width count (front.drop width) ++
              blocks width later back) := by
            rw [blocks_append _ _ _ _ first, induction others]
        _ = blocks width (count + 1) front ++ blocks width later back := rfl

end Bytes

namespace Element.Kind

/-- The number that the bytes of an element spell, the first of them the lowest. -/
def plainAt (kind : Kind) (payload : Bytes) (index : Nat) : Nat :=
  ∑ place ∈ Finset.range kind.width,
    (payload.getD (index * kind.width + place) 0).toNat * 256 ^ place

/-- The integer that an element stands for: its number, except that the upper half of the
numbers of a signed kind stands for the negative integers. -/
def integerAt (kind : Kind) (payload : Bytes) (index : Nat) : Int :=
  if kind.isSigned = true ∧ 256 ^ kind.width ≤ 2 * kind.plainAt payload index then
    (kind.plainAt payload index : Int) - 256 ^ kind.width
  else kind.plainAt payload index

theorem bits_at (kind : Kind) {payload : Bytes} {index : Nat}
    (whole : (index + 1) * kind.width ≤ payload.length) :
    kind.bits ((payload.drop (index * kind.width)).take kind.width) =
      kind.plainAt payload index := by
  rw [Nat.succ_mul] at whole
  have sized : ((payload.drop (index * kind.width)).take kind.width).length = kind.width := by
    rw [List.length_take, List.length_drop]
    omega
  rw [bits, List.take_of_length_le (Nat.le_of_eq sized), Bytes.ofLittleEndian_eq_sum, sized,
    plainAt]
  apply Finset.sum_congr rfl
  intro place member
  rw [List.getD_eq_getElem?_getD, List.getD_eq_getElem?_getD,
    List.getElem?_take_of_lt (Finset.mem_range.mp member), List.getElem?_drop]

theorem integer?_at {kind : Kind} (integral : kind.isInteger = true) {payload : Bytes}
    {index : Nat} (whole : (index + 1) * kind.width ≤ payload.length) :
    kind.integer? ((payload.drop (index * kind.width)).take kind.width) =
      some (kind.integerAt payload index) := by
  have small := kind.bits_lt ((payload.drop (index * kind.width)).take kind.width)
  rw [bits_at kind whole] at small
  rw [integerAt]
  cases kind with
  | float => cases integral
  | unsigned width =>
      rw [integer?, bits_at _ whole, if_neg (fun both => Bool.false_ne_true both.1)]
  | signed width =>
      rw [integer?, bits_at _ whole, Int.bmod_def]
      generalize (signed width).plainAt payload index = number at small ⊢
      cases width <;> simp [isSigned, Kind.width, Width.bytes] at small ⊢ <;> omega

theorem mem_elements_iff {kind : Kind} {payload element : Bytes} :
    element ∈ kind.elements payload ↔
      ∃ index, (index + 1) * kind.width ≤ payload.length ∧
        (payload.drop (index * kind.width)).take kind.width = element := by
  have inside : ∀ index, index < payload.length / kind.width ↔
      (index + 1) * kind.width ≤ payload.length :=
    fun index => Nat.le_div_iff_mul_le kind.width_pos
  simp only [elements, Bytes.blocks_eq_map, List.mem_map, List.mem_range, inside]

theorem all_elements_iff {kind : Kind} {payload : Bytes} {check : Bytes → Bool} :
    (kind.elements payload).all check = true ↔
      ∀ index, (index + 1) * kind.width ≤ payload.length →
        check ((payload.drop (index * kind.width)).take kind.width) = true := by
  rw [List.all_eq_true]
  constructor
  · intro passes index whole
    exact passes _ (mem_elements_iff.mpr ⟨index, whole, rfl⟩)
  · intro passes element member
    obtain ⟨index, whole, rfl⟩ := mem_elements_iff.mp member
    exact passes index whole

theorem elements_append {kind : Kind} {front : Bytes} (whole : kind.width ∣ front.length)
    (back : Bytes) :
    kind.elements (front ++ back) = kind.elements front ++ kind.elements back := by
  obtain ⟨count, sized⟩ := whole
  have split : (front ++ back).length / kind.width = count + back.length / kind.width := by
    rw [List.length_append, sized, Nat.mul_add_div kind.width_pos]
  have first : front.length / kind.width = count := by
    rw [sized, Nat.mul_div_cancel_left _ kind.width_pos]
  rw [elements, split, elements, elements, first]
  apply Bytes.blocks_append_blocks
  rw [sized, Nat.mul_comm]

theorem elements_of_short {kind : Kind} {payload : Bytes} (short : payload.length < kind.width) :
    kind.elements payload = [] := by
  rw [elements, Nat.div_eq_of_lt short]
  rfl

end Element.Kind

end Instrument

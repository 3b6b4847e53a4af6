import Instrument.Proofs.ElementBits
import Instrument.Register.Rule

/-!
# Values that elements can take

The elements of an integer kind are the integers of a range, each in one way; every
number below a power of two is the bits of an element.  A rule that looks at elements
one by one passes some payload exactly if it passes some element.
-/

namespace Instrument

namespace Bytes

theorem littleEndian_ofLittleEndian (bytes : Bytes) :
    littleEndian bytes.length (ofLittleEndian bytes) = bytes := by
  induction bytes with
  | nil => rfl
  | cons byte rest induction =>
      have small := byte.toNat_lt
      have low : (byte.toNat + 256 * ofLittleEndian rest) % 256 = byte.toNat := by omega
      have high : (byte.toNat + 256 * ofLittleEndian rest) / 256 = ofLittleEndian rest := by
        omega
      rw [List.length_cons, littleEndian, ofLittleEndian, low, high, induction,
        UInt8.ofNat_toNat]

theorem blocks_append (width count : Nat) (first rest : Bytes) (sized : first.length = width) :
    blocks width (count + 1) (first ++ rest) = first :: blocks width count rest := by
  rw [blocks, List.take_left' sized, List.drop_left' sized]

end Bytes

namespace Element.Kind

/-- The least integer that an element holds. -/
def least : Kind → Int
  | .signed width => -((1 <<< (8 * width.bytes - 1) : Nat) : Int)
  | .unsigned _ | .float => 0

/-- The greatest integer that an element holds; below the least one for a kind that holds
no integers. -/
def greatest : Kind → Int
  | .unsigned width => ((1 <<< (8 * width.bytes) : Nat) : Int) - 1
  | .signed width => ((1 <<< (8 * width.bytes - 1) : Nat) : Int) - 1
  | .float => -1

theorem least_nonpos (kind : Kind) : kind.least ≤ 0 := by
  rcases kind with (_ | _ | _ | _) | (_ | _ | _ | _) | _ <;> decide

theorem greatest_lt (kind : Kind) : kind.greatest < (1 <<< (8 * kind.width) : Nat) := by
  rcases kind with (_ | _ | _ | _) | (_ | _ | _ | _) | _ <;> decide

/-- The element of a number, taken modulo the size of an element. -/
def encoded (kind : Kind) (value : Int) : Bytes :=
  Bytes.littleEndian kind.width (value % (1 <<< (8 * kind.width) : Nat)).toNat

theorem length_encoded (kind : Kind) (value : Int) :
    (kind.encoded value).length = kind.width :=
  Bytes.length_littleEndian _ _

theorem bits_littleEndian (kind : Kind) (value : Nat) :
    kind.bits (Bytes.littleEndian kind.width value) = value % (1 <<< (8 * kind.width)) := by
  have whole := Bytes.length_littleEndian kind.width value
  rw [bits, List.take_of_length_le (Nat.le_of_eq whole), Bytes.ofLittleEndian_littleEndian]

theorem littleEndian_bits {kind : Kind} {element : Bytes} (sized : element.length = kind.width) :
    Bytes.littleEndian kind.width (kind.bits element) = element := by
  rw [bits, List.take_of_length_le (Nat.le_of_eq sized), ← sized,
    Bytes.littleEndian_ofLittleEndian]

theorem bits_encoded (kind : Kind) (value : Int) :
    kind.bits (kind.encoded value) = (value % (1 <<< (8 * kind.width) : Nat)).toNat := by
  have positive : 0 < 1 <<< (8 * kind.width) := by
    rw [Nat.one_shiftLeft]
    exact Nat.two_pow_pos _
  have small := Int.emod_lt_of_pos value (Int.natCast_pos.mpr positive)
  rw [encoded, bits_littleEndian]
  apply Nat.mod_eq_of_lt
  omega

theorem integer?_encoded {kind : Kind} {value : Int} (lower : kind.least ≤ value)
    (upper : value ≤ kind.greatest) : kind.integer? (kind.encoded value) = some value := by
  cases kind with
  | float =>
      simp only [least, greatest] at lower upper
      omega
  | unsigned width =>
      rw [integer?, bits_encoded]
      cases width <;> simp [least, greatest, Kind.width, Width.bytes] at lower upper ⊢ <;> omega
  | signed width =>
      rw [integer?, bits_encoded, Int.bmod_def]
      cases width <;> simp [least, greatest, Kind.width, Width.bytes] at lower upper ⊢ <;> omega

theorem integer?_bounds {kind : Kind} {bytes : Bytes} {value : Int}
    (read : kind.integer? bytes = some value) : kind.least ≤ value ∧ value ≤ kind.greatest := by
  have small := kind.bits_lt bytes
  cases kind with
  | float => cases read
  | unsigned width =>
      cases read
      cases width <;> simp [least, greatest, Kind.width, Width.bytes] at small ⊢ <;> omega
  | signed width =>
      rw [integer?, Option.some.injEq, Int.bmod_def] at read
      cases width <;> simp [least, greatest, Kind.width, Width.bytes] at small read ⊢ <;> omega

theorem bits_of_integer? {kind : Kind} {bytes : Bytes} {value : Nat}
    (read : kind.integer? bytes = some (value : Int)) : kind.bits bytes = value := by
  have small := kind.bits_lt bytes
  cases kind with
  | float => cases read
  | unsigned width =>
      rw [integer?, Option.some.injEq] at read
      exact Int.ofNat_inj.mp read
  | signed width =>
      rw [integer?, Option.some.injEq, Int.bmod_def] at read
      cases width <;> simp [Kind.width, Width.bytes] at small read ⊢ <;> omega

theorem integer?_littleEndian {kind : Kind} {value : Nat} (upper : (value : Int) ≤ kind.greatest) :
    kind.integer? (Bytes.littleEndian kind.width value) = some (value : Int) := by
  have small : (value : Int) < (1 <<< (8 * kind.width) : Nat) :=
    Int.lt_of_le_of_lt upper kind.greatest_lt
  have lower : kind.least ≤ (value : Int) := Int.le_trans kind.least_nonpos (by omega)
  have encodes : kind.encoded value = Bytes.littleEndian kind.width value := by
    rw [encoded, Int.emod_eq_of_lt (by omega) small, Int.toNat_natCast]
  rw [← encodes]
  exact integer?_encoded lower upper

theorem exists_integer?_of_isInteger {kind : Kind} (integral : kind.isInteger = true)
    (bytes : Bytes) : ∃ value, kind.integer? bytes = some value := by
  cases kind with
  | unsigned | signed => exact ⟨_, rfl⟩
  | float => cases integral

theorem elements_of_length {kind : Kind} {element : Bytes} (sized : element.length = kind.width) :
    kind.elements element = [element] := by
  rw [elements, sized, Nat.div_self kind.width_pos, Bytes.blocks, Bytes.blocks,
    List.take_of_length_le (Nat.le_of_eq sized)]

theorem length_flatten {kind : Kind} {pieces : List Bytes}
    (sized : ∀ piece ∈ pieces, piece.length = kind.width) :
    pieces.flatten.length = pieces.length * kind.width := by
  induction pieces with
  | nil => exact (Nat.zero_mul _).symm
  | cons piece rest induction =>
      rw [List.flatten_cons, List.length_append, sized piece List.mem_cons_self,
        induction fun other member => sized other (List.mem_cons_of_mem _ member),
        List.length_cons, Nat.succ_mul, Nat.add_comm]

/-- Pieces of the width of an element, put together, are the elements again. -/
theorem elements_flatten {kind : Kind} {pieces : List Bytes}
    (sized : ∀ piece ∈ pieces, piece.length = kind.width) :
    kind.elements pieces.flatten = pieces := by
  rw [elements, length_flatten sized, Nat.mul_div_cancel _ kind.width_pos]
  induction pieces with
  | nil => rfl
  | cons piece rest induction =>
      rw [List.flatten_cons, List.length_cons,
        Bytes.blocks_append _ _ _ _ (sized piece List.mem_cons_self),
        induction fun other member => sized other (List.mem_cons_of_mem _ member)]

theorem take_mem_elements {kind : Kind} {payload : Bytes} {count : Nat} (positive : 0 < count)
    (sized : payload.length = count * kind.width) :
    payload.take kind.width ∈ kind.elements payload := by
  obtain ⟨rest, rfl⟩ := Nat.exists_eq_succ_of_ne_zero (Nat.ne_of_gt positive)
  rw [elements, sized, Nat.mul_div_cancel _ kind.width_pos, Bytes.blocks]
  exact List.mem_cons_self

end Element.Kind

theorem BitField.covers_iff {field : BitField} {value : Nat} :
    field.covers value = true ↔
      ∀ bit, value.testBit bit = true → field.bits.testBit bit = true := by
  rw [covers, beq_iff_eq]
  constructor
  · intro same bit raised
    rw [← same, Nat.testBit_and, Bool.and_eq_true] at raised
    exact raised.2
  · intro inside
    apply Nat.eq_of_testBit_eq
    intro bit
    rw [Nat.testBit_and, Bool.and_eq_left_iff_imp]
    exact inside bit

namespace Rule

/-- The check that a rule makes on each element, if it looks at elements one by one. -/
def elementCheck? (rule : Rule) (kind : Element.Kind) : Option (Bytes → Bool) :=
  match rule with
  | .any => some fun _ => true
  | .within field => some fun element => kind.isInteger && field.covers (kind.bits element)
  | .oneOf choice => some fun element => kind.isInteger && choice.admits (kind.bits element)
  | .between low high => some (elementBetween kind low high)
  | .custom _ => none

/-- A payload that is not empty passes a rule on elements if each element does. -/
theorem accepts_eq_all {rule : Rule} {kind : Element.Kind} {check : Bytes → Bool}
    (elementwise : rule.elementCheck? kind = some check) {payload : Bytes} {count : Nat}
    (positive : 0 < count) (sized : payload.length = count * kind.width) :
    rule.accepts kind payload = (kind.elements payload).all check := by
  have inhabited : ∃ element, element ∈ kind.elements payload :=
    ⟨_, Element.Kind.take_mem_elements positive sized⟩
  have bits : ∀ test : Bytes → Bool,
      (kind.isInteger && (kind.elements payload).all test) =
        (kind.elements payload).all fun element => kind.isInteger && test element := by
    intro test
    cases kind.isInteger with
    | true => simp
    | false =>
        symm
        simpa using inhabited
  cases rule with
  | any =>
      cases elementwise
      simp [accepts]
  | within field =>
      cases elementwise
      exact bits _
  | oneOf choice =>
      cases elementwise
      exact bits _
  | between low high =>
      cases elementwise
      rfl
  | custom check => cases elementwise

theorem accepts_of_length {rule : Rule} {kind : Element.Kind} {check : Bytes → Bool}
    (elementwise : rule.elementCheck? kind = some check) {element : Bytes}
    (sized : element.length = kind.width) : rule.accepts kind element = check element := by
  rw [accepts_eq_all elementwise Nat.one_pos (sized.trans (Nat.one_mul _).symm),
    Element.Kind.elements_of_length sized, List.all_cons, List.all_nil, Bool.and_true]

/-- A rule on elements passes some payload exactly if it passes some element. -/
theorem exists_accepted_iff {rule : Rule} {kind : Element.Kind} {check : Bytes → Bool}
    (elementwise : rule.elementCheck? kind = some check) {count : Nat} (positive : 0 < count) :
    (∃ payload : Bytes, payload.length = count * kind.width ∧
        rule.accepts kind payload = true) ↔
      ∃ element : Bytes, element.length = kind.width ∧ check element = true := by
  constructor
  · intro passing
    obtain ⟨payload, sized, passes⟩ := passing
    rw [accepts_eq_all elementwise positive sized, List.all_eq_true] at passes
    have enough := Nat.le_mul_of_pos_left kind.width positive
    refine ⟨payload.take kind.width, ?_, passes _ (Element.Kind.take_mem_elements positive sized)⟩
    rw [List.length_take]
    omega
  · intro passing
    obtain ⟨element, sized, passes⟩ := passing
    have copies : ∀ copy ∈ List.replicate count element, copy.length = kind.width := by
      intro copy member
      rw [List.eq_of_mem_replicate member]
      exact sized
    have total : (List.replicate count element).flatten.length = count * kind.width := by
      rw [Element.Kind.length_flatten copies, List.length_replicate]
    refine ⟨(List.replicate count element).flatten, total, ?_⟩
    rw [accepts_eq_all elementwise positive total, Element.Kind.elements_flatten copies,
      List.all_eq_true]
    intro copy member
    rw [List.eq_of_mem_replicate member]
    exact passes

end Rule

end Instrument

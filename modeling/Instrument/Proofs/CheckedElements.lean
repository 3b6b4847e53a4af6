import Instrument.Proofs.ElementBits
import Instrument.Proofs.Faults
import Instrument.Register.Rule

/-!
# Elements in machine words

The machine reads an element into a 64-bit word and shifts words to place its bytes;
a signed element is widened to 128 bits and shifted up and down again.  No kind of
element makes one of these shifts fault, and the functions here have the numbers of those
of `Element.Kind` by the same names.
-/

namespace Instrument.Checked

/-- Join bytes into a word, the first of them at a position. -/
def joinFrom (word : BitVec 64) : (position : Nat) → Bytes → Checked (BitVec 64)
  | _, [] => .ok word
  | position, byte :: rest => do
    let placed ← shiftUp (byte.toBitVec.setWidth 64) (8 * position)
    joinFrom (word ||| placed) (position + 1) rest

def bits (kind : Element.Kind) (bytes : Bytes) : Checked (BitVec 64) :=
  joinFrom 0 0 (bytes.take kind.width)

/-- Put the bytes of a word over the start of a buffer, from a byte of the word on. -/
def splitFrom (word : BitVec 64) : (position count : Nat) → Bytes → Checked Bytes
  | _, 0, buffer => .ok buffer
  | _, _ + 1, [] => .ok []
  | position, count + 1, _ :: rest => do
    let shifted ← shiftDown word (8 * position)
    let split ← splitFrom word (position + 1) count rest
    pure (UInt8.ofBitVec (shifted.setWidth 8) :: split)

def putBits (kind : Element.Kind) (word : BitVec 64) (buffer : Bytes) : Checked Bytes :=
  splitFrom word 0 kind.width buffer

def integer? (kind : Element.Kind) (bytes : Bytes) : Checked (Option (BitVec 128)) :=
  if kind.isInteger then do
    let word ← bits kind bytes
    let wide := word.setWidth 128
    if kind.isSigned then do
      let spare ← subtract 128 (8 * kind.width)
      let raised ← shiftUp wide spare
      let value ← shiftDownSigned raised spare
      pure (some value)
    else pure (some wide)
  else pure none

def float? (kind : Element.Kind) (bytes : Bytes) : Checked (Option Binary32) :=
  match kind with
  | .float => do
    let word ← bits kind bytes
    pure (some ⟨UInt32.ofBitVec (word.setWidth 32)⟩)
  | _ => .ok none

def elementBetween (kind : Element.Kind) (low high : Int) (element : Bytes) : Checked Bool := do
  match ← integer? kind element with
  | some value => pure (decide (low ≤ value.toInt ∧ value.toInt ≤ high))
  | none => do
    let number ← float? kind element
    pure (number.any (·.liesBetween low high))

def accepts (rule : Rule) (kind : Element.Kind) (payload : Bytes) : Checked Bool := do
  let elements ← chunks kind.width payload
  match rule with
  | .any => pure true
  | .within field =>
    if kind.isInteger then
      all (fun element => do
        let word ← bits kind element
        pure (field.covers word.toNat)) elements
    else pure false
  | .oneOf choice =>
    if kind.isInteger then
      all (fun element => do
        let word ← bits kind element
        pure (choice.admits word.toNat)) elements
    else pure false
  | .between low high => all (elementBetween kind low high) elements
  | .custom check => pure (check payload)

theorem toNat_or_shiftLeft {word piece : BitVec 64} {amount : Nat}
    (small : word.toNat < 1 <<< amount)
    (fits : piece.toNat * (1 <<< amount) < 18446744073709551616) :
    (word ||| piece <<< amount).toNat = word.toNat + piece.toNat * (1 <<< amount) := by
  rw [Nat.one_shiftLeft] at small
  rw [BitVec.toNat_or, BitVec.toNat_shiftLeft, ← shiftLeft_eq_mul]
  rw [← shiftLeft_eq_mul] at fits
  rw [Nat.mod_eq_of_lt fits, Nat.or_comm, ← Nat.shiftLeft_add_eq_or_of_lt small, Nat.add_comm]

theorem joinFrom_eq {word : BitVec 64} {position : Nat} {rest : Bytes}
    (small : word.toNat < 1 <<< (8 * position)) (fits : position + rest.length ≤ 8) :
    ∃ joined, joinFrom word position rest = .ok joined ∧
      joined.toNat = word.toNat + Bytes.ofLittleEndian rest * (1 <<< (8 * position)) := by
  -- The bytes joined so far stay below the place of the next one.
  induction rest generalizing word position with
  | nil => exact ⟨word, rfl, by simp [Bytes.ofLittleEndian]⟩
  | cons byte rest induction =>
      rw [List.length_cons] at fits
      have value : (byte.toBitVec.setWidth 64).toNat = byte.toNat := by
        rw [BitVec.toNat_setWidth_of_le (by decide)]
        rfl
      have bound := Nat.mul_le_mul_right (1 <<< (8 * position))
        (Nat.le_of_lt_succ byte.toNat_lt)
      have room : 1 <<< (8 * (position + 1)) ≤ 1 <<< 64 := one_shiftLeft_le (by omega)
      rw [one_shiftLeft_byte] at room
      have whole : (1 : Nat) <<< 64 = 18446744073709551616 := rfl
      have joined := @toNat_or_shiftLeft word (byte.toBitVec.setWidth 64) (8 * position) small
        (by rw [value]; omega)
      rw [value] at joined
      obtain ⟨result, success, total⟩ := @induction
        (word ||| byte.toBitVec.setWidth 64 <<< (8 * position)) (position + 1)
        (by rw [joined, one_shiftLeft_byte]; omega) (by omega)
      refine ⟨result, ?_, ?_⟩
      · rw [joinFrom, shiftUp, if_pos (by omega), ok_bind, success]
      · rw [total, joined, one_shiftLeft_byte, Bytes.ofLittleEndian, Nat.add_mul, Nat.add_assoc,
          Nat.mul_left_comm, Nat.mul_assoc]

theorem bits_eq (kind : Element.Kind) (bytes : Bytes) :
    ∃ word, bits kind bytes = .ok word ∧ word.toNat = kind.bits bytes := by
  have width := kind.width_le_eight
  have short := List.length_take_le kind.width bytes
  obtain ⟨word, success, total⟩ := @joinFrom_eq 0 0 (bytes.take kind.width) (by decide)
    (by omega)
  refine ⟨word, success, ?_⟩
  rw [total, Element.Kind.bits]
  simp

theorem splitFrom_eq (word : BitVec 64) {position count : Nat} (buffer : Bytes)
    (fits : position + count ≤ 8) :
    splitFrom word position count buffer = .ok (buffer.overwrite 0
      (Bytes.littleEndian count (word.toNat >>> (8 * position)))) := by
  induction count generalizing position buffer with
  | zero => simp [splitFrom, Bytes.littleEndian, Bytes.overwrite]
  | succ count induction =>
      cases buffer with
      | nil => simp [splitFrom, Bytes.overwrite]
      | cons byte rest =>
          have next : word.toNat >>> (8 * (position + 1)) =
              word.toNat >>> (8 * position) / 256 := by
            rw [Nat.mul_succ, Nat.shiftRight_add]
            exact Nat.shiftRight_eq_div_pow _ 8
          have low : UInt8.ofBitVec ((word >>> (8 * position)).setWidth 8) =
              UInt8.ofNat (word.toNat >>> (8 * position) % 256) := by
            apply UInt8.toNat_inj.mp
            simp
          rw [splitFrom, shiftDown, if_pos (by omega), ok_bind, induction rest (by omega), ok_bind,
            pure_eq, low, next, Bytes.littleEndian, Bytes.overwrite_cons]

theorem putBits_eq (kind : Element.Kind) (word : BitVec 64) (buffer : Bytes) :
    putBits kind word buffer = .ok (kind.putBits word.toNat buffer) := by
  have width := kind.width_le_eight
  exact splitFrom_eq word buffer (by omega)

/-- Shifting an element to the top of 128 bits and back extends its sign. -/
theorem toInt_sshiftRight_shiftLeft (width : Element.Width) {word : BitVec 128}
    (small : word.toNat < 1 <<< (8 * width.bytes)) :
    ((word <<< (128 - 8 * width.bytes)).sshiftRight (128 - 8 * width.bytes)).toInt =
      Int.bmod word.toNat (1 <<< (8 * width.bytes)) := by
  -- The shifts are numbers for each width alone, and only then is the equation linear.
  rw [BitVec.toInt_sshiftRight, BitVec.toInt_eq_toNat_cond, BitVec.toNat_shiftLeft,
    Int.bmod_def, Int.shiftRight_eq_div_pow]
  cases width <;> simp [Element.Width.bytes, Nat.shiftLeft_eq] at small ⊢ <;> omega

/-- No kind asks for a shift that 128 bits do not have. -/
theorem integer?_eq (kind : Element.Kind) (bytes : Bytes) :
    ∃ integer, integer? kind bytes = .ok integer ∧
      integer.map (·.toInt) = kind.integer? bytes := by
  obtain ⟨word, success, value⟩ := bits_eq kind bytes
  have small := kind.bits_lt bytes
  have wide : (word.setWidth 128).toNat = kind.bits bytes := by
    rw [BitVec.toNat_setWidth_of_le (by decide), value]
  cases kind with
  | float => exact ⟨none, rfl, rfl⟩
  | unsigned width =>
      refine ⟨some (word.setWidth 128), ?_, ?_⟩
      · simp only [integer?, Element.Kind.isInteger, Element.Kind.isSigned, success, ok_bind]
        rfl
      · rw [Option.map_some, Element.Kind.integer?, ← wide, BitVec.toInt_eq_toNat_of_lt]
        have limit := word.isLt
        omega
  | signed width =>
      have positive := (Element.Kind.signed width).width_pos
      have bounded := (Element.Kind.signed width).width_le_eight
      refine ⟨some (((word.setWidth 128) <<< (128 - 8 * width.bytes)).sshiftRight
        (128 - 8 * width.bytes)), ?_, ?_⟩
      · simp only [integer?, Element.Kind.isInteger, Element.Kind.isSigned, if_true, success,
          ok_bind]
        rw [subtract, if_pos (by omega), ok_bind, shiftUp, if_pos (by omega), ok_bind,
          shiftDownSigned, if_pos (by omega)]
        rfl
      · rw [Option.map_some, toInt_sshiftRight_shiftLeft width (by rw [wide]; exact small), wide]
        rfl

theorem float?_eq (kind : Element.Kind) (bytes : Bytes) :
    float? kind bytes = .ok (kind.float? bytes) := by
  obtain ⟨word, success, value⟩ := bits_eq kind bytes
  cases kind with
  | unsigned | signed => rfl
  | float =>
      rw [float?, success, ok_bind, pure_eq, Element.Kind.float?, ← value]
      rfl

theorem elementBetween_eq (kind : Element.Kind) (low high : Int) (element : Bytes) :
    elementBetween kind low high element = .ok (Rule.elementBetween kind low high element) := by
  obtain ⟨integer, success, value⟩ := integer?_eq kind element
  rw [elementBetween, success, ok_bind, Rule.elementBetween, ← value, float?_eq]
  cases integer <;> rfl

theorem accepts_eq (rule : Rule) (kind : Element.Kind) (payload : Bytes) :
    accepts rule kind payload = .ok (rule.accepts kind payload) := by
  rw [accepts, chunks, if_pos kind.width_pos, ok_bind]
  have read : ∀ (passes : Nat → Bool) (element : Bytes),
      (do
        let word ← bits kind element
        pure (passes word.toNat)) = (.ok (passes (kind.bits element)) : Checked Bool) := by
    intro passes element
    obtain ⟨word, success, value⟩ := bits_eq kind element
    rw [success, ok_bind, pure_eq, value]
  cases rule with
  | any | custom => rfl
  | within field =>
      simp only [Rule.accepts, all_eq (read field.covers)]
      cases kind.isInteger <;> rfl
  | oneOf choice =>
      simp only [Rule.accepts, all_eq (read choice.admits)]
      cases kind.isInteger <;> rfl
  | between low high => exact all_eq (elementBetween_eq kind low high) _

end Instrument.Checked

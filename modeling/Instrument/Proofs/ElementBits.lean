import Instrument.Element.Kind

/-!
# Bytes and bits of elements

Numbers below a power of two are written `1 <<< bits` here.  Splitting a number into
bytes and joining them again keeps it modulo such a power, so an element gives back
what was put into it as far as its width reaches.
-/

namespace Instrument

theorem shiftLeft_eq_mul (value amount : Nat) :
    value <<< amount = value * (1 <<< amount) := by
  rw [Nat.shiftLeft_eq, Nat.one_shiftLeft]

theorem one_shiftLeft_le {first second : Nat} (ordered : first ≤ second) :
    1 <<< first ≤ 1 <<< second := by
  rw [Nat.one_shiftLeft, Nat.one_shiftLeft]
  exact Nat.pow_le_pow_right (by decide) ordered

theorem one_shiftLeft_byte (count : Nat) :
    1 <<< (8 * (count + 1)) = 256 * (1 <<< (8 * count)) := by
  rw [Nat.mul_succ, Nat.shiftLeft_add, Nat.shiftLeft_eq _ 8]
  exact Nat.mul_comm _ _

namespace Bytes

theorem ofLittleEndian_littleEndian (count value : Nat) :
    ofLittleEndian (littleEndian count value) = value % (1 <<< (8 * count)) := by
  induction count generalizing value with
  | zero => simp [littleEndian, ofLittleEndian, Nat.mod_one]
  | succ count induction =>
      rw [littleEndian, ofLittleEndian, induction, one_shiftLeft_byte, Nat.mod_mul]
      congr 1
      simp

theorem overwrite_cons (first byte : UInt8) (rest data : Bytes) :
    overwrite (first :: rest) 0 (byte :: data) = byte :: overwrite rest 0 data := by
  simp [overwrite]

theorem overwrite_start {buffer data : Bytes} (fits : data.length ≤ buffer.length) :
    overwrite buffer 0 data = data ++ buffer.drop data.length := by
  rw [overwrite, List.take_zero, List.nil_append, Nat.sub_zero, List.take_of_length_le fits,
    Nat.zero_add]

theorem ofLittleEndian_lt (bytes : Bytes) :
    ofLittleEndian bytes < 1 <<< (8 * bytes.length) := by
  induction bytes with
  | nil => decide
  | cons byte rest induction =>
      rw [ofLittleEndian, List.length_cons, one_shiftLeft_byte]
      have small := byte.toNat_lt
      omega

end Bytes

namespace Element.Kind

theorem bits_lt (kind : Kind) (bytes : Bytes) :
    kind.bits bytes < 1 <<< (8 * kind.width) := by
  have short := List.length_take_le kind.width bytes
  exact Nat.lt_of_lt_of_le (Bytes.ofLittleEndian_lt _) (one_shiftLeft_le (by omega))

theorem bits_putBits (kind : Kind) (value : Nat) {buffer : Bytes}
    (enough : kind.width ≤ buffer.length) :
    kind.bits (kind.putBits value buffer) = value % (1 <<< (8 * kind.width)) := by
  have fits : (Bytes.littleEndian kind.width value).length ≤ buffer.length := by
    rw [Bytes.length_littleEndian]
    exact enough
  rw [bits, putBits, Bytes.overwrite_start fits, List.take_left' (Bytes.length_littleEndian _ _),
    Bytes.ofLittleEndian_littleEndian]

theorem drop_putBits (kind : Kind) (value : Nat) (buffer : Bytes) :
    (kind.putBits value buffer).drop kind.width = buffer.drop kind.width := by
  apply List.ext_getElem?
  intro position
  rw [List.getElem?_drop, List.getElem?_drop, putBits, Bytes.getElem?_overwrite,
    Bytes.length_littleEndian]
  apply if_neg
  omega

theorem putBits_zeros (kind : Kind) (count : Nat) :
    kind.putBits 0 (Bytes.zeros count) = Bytes.zeros count := by
  have zeros : ∀ width, Bytes.littleEndian width 0 = Bytes.zeros width := by
    intro width
    induction width with
    | zero => rfl
    | succ width induction => exact congrArg (List.cons 0) induction
  rw [putBits, zeros, Bytes.overwrite]
  simp only [Bytes.zeros, List.take_replicate, List.drop_replicate, List.length_replicate,
    List.replicate_append_replicate]
  congr 1
  omega

/-- A number of 32 bits loses in an element what either is too short for. -/
theorem mod_word_mod_width (kind : Kind) (value : Nat) :
    value % 4294967296 % (1 <<< (8 * kind.width)) =
      value % (1 <<< min 32 (8 * kind.width)) := by
  rcases kind with (_ | _ | _ | _) | (_ | _ | _ | _) | _ <;>
    simp [width, Width.bytes] <;> omega

end Element.Kind

end Instrument

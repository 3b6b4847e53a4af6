import Instrument.Proofs.CheckedElements
import Instrument.Proofs.ElementWords
import Mathlib.Algebra.Ring.Parity

/-!
# Two codecs of an element

An element is read by its kind, from as many bytes as there are, or by its type, from the bytes
of a whole word.  Where there is a whole word the two give the same number, and for a kind of
integers that of the value.  Writing by kind is reading's inverse, as far as the buffer reaches.
-/

namespace Instrument

namespace Bytes

theorem take_littleEndian (short count value : Nat) :
    (littleEndian count value).take short = littleEndian (min short count) value := by
  induction count generalizing short value with
  | zero => simp [littleEndian]
  | succ count induction =>
      cases short with
      | zero => simp [littleEndian]
      | succ short =>
          rw [littleEndian, List.take_succ_cons, induction, Nat.succ_min_succ, littleEndian]

theorem overwrite_littleEndian (buffer : Bytes) (count value : Nat) :
    overwrite buffer 0 (littleEndian count value) =
      littleEndian (min count buffer.length) value ++ buffer.drop (min count buffer.length) := by
  rw [overwrite, List.take_zero, List.nil_append, Nat.sub_zero, Nat.zero_add, take_littleEndian,
    length_littleEndian, Nat.min_comm]
  rcases Nat.le_total count buffer.length with fits | short
  · rw [Nat.min_eq_left fits]
  · rw [Nat.min_eq_right short, List.drop_eq_nil_of_le short, List.drop_length]

end Bytes

namespace Element

namespace Kind

variable (kind : Kind)

/-- The bytes that writing by kind changes in a buffer. -/
def reach (buffer : Bytes) : Nat := min kind.width buffer.length

theorem putBits_eq_append (value : Nat) (buffer : Bytes) :
    kind.putBits value buffer =
      Bytes.littleEndian (kind.reach buffer) value ++ buffer.drop (kind.reach buffer) :=
  Bytes.overwrite_littleEndian buffer kind.width value

theorem length_putBits (value : Nat) (buffer : Bytes) :
    (kind.putBits value buffer).length = buffer.length :=
  Bytes.length_overwrite _ _ _

theorem take_width_eq_take_reach (buffer : Bytes) :
    buffer.take kind.width = buffer.take (kind.reach buffer) :=
  List.take_eq_take_min

theorem drop_reach_putBits (value : Nat) (buffer : Bytes) :
    (kind.putBits value buffer).drop (kind.reach buffer) = buffer.drop (kind.reach buffer) := by
  rw [putBits_eq_append]
  exact List.drop_left' (Bytes.length_littleEndian _ _)

theorem bits_putBits_mod (value : Nat) (buffer : Bytes) :
    kind.bits (kind.putBits value buffer) = value % 2 ^ (8 * kind.reach buffer) := by
  have same : kind.reach (kind.putBits value buffer) = kind.reach buffer :=
    congrArg (min kind.width) (kind.length_putBits value buffer)
  have written : (kind.putBits value buffer).take (kind.reach buffer) =
      Bytes.littleEndian (kind.reach buffer) value := by
    rw [putBits_eq_append]
    exact List.take_left' (Bytes.length_littleEndian _ _)
  rw [bits, take_width_eq_take_reach, same, written, Bytes.ofLittleEndian_littleEndian,
    Nat.one_shiftLeft]

theorem putBits_bits (buffer : Bytes) : kind.putBits (kind.bits buffer) buffer = buffer := by
  have sized : (buffer.take (kind.reach buffer)).length = kind.reach buffer :=
    List.length_take_of_le (Nat.min_le_right _ _)
  have again := Bytes.littleEndian_ofLittleEndian (buffer.take (kind.reach buffer))
  rw [sized] at again
  rw [putBits_eq_append, bits, take_width_eq_take_reach, again, List.take_append_drop]

theorem integer?_of_word {bytes : Bytes} {word : BitVec (8 * kind.width)}
    (same : word.toNat = kind.bits bytes) (integral : kind.isInteger = true) :
    kind.integer? bytes =
      some (if kind.isSigned = true then word.toInt else (word.toNat : Int)) := by
  cases kind with
  | float => cases integral
  | unsigned width =>
      rw [integer?, ← same]
      rfl
  | signed width =>
      rw [integer?, ← same, Nat.one_shiftLeft]
      exact congrArg some (BitVec.toInt_eq_toNat_bmod word).symm

end Kind

/-- The number of every value is that of its word, which has a sign for a signed kind. -/
def Numbered (α : Type) [Element α] : Prop :=
  ∀ value : α, toInt value =
    if (kind α).isSigned = true then (toWord value).toInt else ((toWord value).toNat : Int)

/-- What holds of every numbered type of a kind holds of the type that its elements have. -/
theorem Kind.withType_of_numbered {kind : Kind} {use : (α : Type) → [Element α] → Prop}
    (each : ∀ (α : Type) [Element α], Element.kind α = kind → Numbered α → use α) :
    kind.withType use := by
  rcases kind with (_ | _ | _ | _) | (_ | _ | _ | _) | _ <;> exact each _ rfl fun _ => rfl

theorem exists_read {α : Type} [Element α] {bytes : Bytes}
    (enough : (kind α).width ≤ bytes.length) :
    ∃ value : α, read? α bytes = some value ∧
      (toWord value).toNat = (kind α).bits bytes := by
  refine ⟨ofWord (joinWord (kind α).width bytes), if_pos enough, ?_⟩
  rw [toWord_ofWord, toNat_joinWord]
  rfl

theorem Numbered.toNat_eq_emod {α : Type} [Element α] (numbered : Numbered α) (value : α) :
    ((toWord value).toNat : Int) = toInt value % (2 ^ (8 * (kind α).width) : Nat) := by
  have bounded : ((toWord value).toNat : Int) < (2 ^ (8 * (kind α).width) : Nat) :=
    Int.ofNat_lt.mpr (toWord value).isLt
  have plain := Int.emod_eq_of_lt (Int.natCast_nonneg _) bounded
  rw [numbered value]
  split
  · rw [BitVec.toInt_eq_toNat_bmod, Int.bmod_emod]
    exact plain.symm
  · exact plain.symm

/-- In words of 64 bits, and of 128 bits for a sign, elements are read and written by kind
without a fault, and as the functions on numbers say. -/
structure Kind.ComputedInWords (kind : Kind) : Prop where
  bits : ∀ bytes, ∃ word, Checked.bits kind bytes = .ok word ∧ word.toNat = kind.bits bytes
  integer? : ∀ bytes, ∃ integer, Checked.integer? kind bytes = .ok integer ∧
    integer.map (·.toInt) = kind.integer? bytes
  float? : ∀ bytes, Checked.float? kind bytes = .ok (kind.float? bytes)
  putBits : ∀ word buffer,
    Checked.putBits kind word buffer = .ok (kind.putBits word.toNat buffer)

/-- Bytes that hold a value of a type are read by its kind as the number of that value: as the
integer itself, and in their bits modulo the size of the element.  Bytes that hold a
single-precision number are read as that number, and as its pattern.  Writing a number by kind
and reading it gives the number modulo the bytes that the buffer has room for, and keeps the
bytes after them; writing what was read changes nothing. -/
theorem codecs_agree (kind : Kind) :
    kind.ComputedInWords ∧
      (kind.withType fun α _ => Element.kind α = kind ∧
        ∀ bytes : Bytes, kind.width ≤ bytes.length →
          ∃ value : α, read? α bytes = some value ∧
            (kind.isInteger = true → kind.integer? bytes = some (toInt value)) ∧
            (kind.bits bytes : Int) = toInt value % (2 ^ (8 * kind.width) : Nat)) ∧
      (∀ bytes : Bytes, Kind.float.width ≤ bytes.length →
        ∃ number : Binary32, read? Binary32 bytes = some number ∧
          Kind.float.float? bytes = some number ∧
          Kind.float.bits bytes = number.pattern.toNat) ∧
      (∀ (value : Nat) (buffer : Bytes),
        let reach := min kind.width buffer.length
        (kind.putBits value buffer).length = buffer.length ∧
          kind.bits (kind.putBits value buffer) = value % 2 ^ (8 * reach) ∧
          (kind.putBits value buffer).drop reach = buffer.drop reach) ∧
      ∀ buffer : Bytes, kind.putBits (kind.bits buffer) buffer = buffer := by
  refine ⟨⟨Checked.bits_eq kind, Checked.integer?_eq kind, Checked.float?_eq kind,
    Checked.putBits_eq kind⟩, ?_, ?_, ?_, kind.putBits_bits⟩
  · apply Kind.withType_of_numbered
    rintro α _ rfl numbered
    refine ⟨rfl, ?_⟩
    intro bytes enough
    obtain ⟨value, read, bits⟩ := exists_read (α := α) enough
    refine ⟨value, read, ?_, ?_⟩
    · intro integral
      rw [numbered value]
      exact (Element.kind α).integer?_of_word bits integral
    · rw [← bits]
      exact numbered.toNat_eq_emod value
  · intro bytes enough
    obtain ⟨number, read, bits⟩ := exists_read (α := Binary32) enough
    have pattern : UInt32.ofNat (Kind.float.bits bytes) = number.pattern :=
      (congrArg UInt32.ofNat bits.symm).trans UInt32.ofNat_toNat
    exact ⟨number, read, congrArg (some ∘ Binary32.mk) pattern, bits.symm⟩
  · intro value buffer
    exact ⟨kind.length_putBits value buffer, kind.bits_putBits_mod value buffer,
      kind.drop_reach_putBits value buffer⟩

end Element

end Instrument

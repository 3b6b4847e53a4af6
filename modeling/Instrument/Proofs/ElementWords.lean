import Instrument.Element.Codec
import Instrument.Proofs.ElementValues

/-!
# Words of elements

A word is joined from bytes and split into bytes, lowest first.  Both are readings of one
number, so each undoes the other on as many bytes as the word has, and a value of a
fixed-width type comes back from the bytes it was written as.
-/

namespace Instrument.Element

theorem splitWord_eq_littleEndian (width : Nat) (word : BitVec (8 * width)) :
    splitWord width word = Bytes.littleEndian width word.toNat := by
  induction width with
  | zero => rfl
  | succ width induction =>
      have lowest : UInt8.ofBitVec (word.setWidth 8) = UInt8.ofNat (word.toNat % 256) := by
        apply UInt8.toBitVec_inj.mp
        apply BitVec.eq_of_toNat_eq
        simp
      have others : (word.extractLsb' 8 (8 * width)).toNat = word.toNat / 256 := by
        have bound := word.isLt
        rw [BitVec.extractLsb'_toNat, Nat.shiftRight_eq_div_pow]
        apply Nat.mod_eq_of_lt
        rw [Nat.div_lt_iff_lt_mul (by decide), ← Nat.pow_add]
        exact bound
      rw [splitWord, Bytes.littleEndian, lowest, induction, others]

theorem toNat_joinWord (width : Nat) (bytes : Bytes) :
    (joinWord width bytes).toNat = Bytes.ofLittleEndian (bytes.take width) := by
  induction width generalizing bytes with
  | zero => rfl
  | succ width induction =>
      cases bytes with
      | nil => rfl
      | cons byte rest =>
          have joined : (joinWord width rest ++ byte.toBitVec).toNat =
              (joinWord width rest).toNat <<< 8 + byte.toNat := by
            rw [BitVec.toNat_append]
            exact (Nat.shiftLeft_add_eq_or_of_lt byte.toNat_lt _).symm
          rw [List.take_succ_cons, Bytes.ofLittleEndian, ← induction]
          refine joined.trans ?_
          omega

theorem joinWord_splitWord (width : Nat) (word : BitVec (8 * width)) :
    joinWord width (splitWord width word) = word := by
  apply BitVec.eq_of_toNat_eq
  have bound := word.isLt
  rw [toNat_joinWord, List.take_of_length_le (Nat.le_of_eq (length_splitWord _ _)),
    splitWord_eq_littleEndian, Bytes.ofLittleEndian_littleEndian, Nat.one_shiftLeft]
  exact Nat.mod_eq_of_lt bound

theorem splitWord_joinWord {width : Nat} {bytes : Bytes} (sized : bytes.length = width) :
    splitWord width (joinWord width bytes) = bytes := by
  rw [splitWord_eq_littleEndian, toNat_joinWord, List.take_of_length_le (Nat.le_of_eq sized),
    ← sized, Bytes.littleEndian_ofLittleEndian]

variable {α : Type} [Element α]

theorem length_toBytes (value : α) : (toBytes value).length = (kind α).width :=
  length_splitWord _ _

theorem toBytes_eq_littleEndian (value : α) :
    toBytes value = Bytes.littleEndian (kind α).width (toWord value).toNat :=
  splitWord_eq_littleEndian _ _

theorem read?_toBytes (value : α) : read? α (toBytes value) = some value := by
  rw [read?, if_pos (Nat.le_of_eq (length_toBytes value).symm), toBytes, joinWord_splitWord,
    ofWord_toWord]

theorem exists_toBytes {bytes : Bytes} (sized : bytes.length = (kind α).width) :
    ∃ value : α, toBytes value = bytes := by
  refine ⟨ofWord (joinWord (kind α).width bytes), ?_⟩
  rw [toBytes, toWord_ofWord, splitWord_joinWord sized]

end Instrument.Element

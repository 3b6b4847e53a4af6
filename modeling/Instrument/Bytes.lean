/-!
# Byte sequences

Registers, buffers and latches are byte sequences.  `slice?` is the checked
window on one, `overwrite` replaces a window without ever changing the length,
and `littleEndian` and `ofLittleEndian` relate a number to its bytes, lowest
byte first.
-/

namespace Instrument

/-- A sequence of bytes. -/
abbrev Bytes := List UInt8

namespace Bytes

def zeros (count : Nat) : Bytes := List.replicate count 0

/-- The bytes from position `start` up to, not including, position `stop`; there
are none to give when the two are out of order or reach past the end. -/
def slice? (bytes : Bytes) (start stop : Nat) : Option Bytes :=
  if start ≤ stop ∧ stop ≤ bytes.length then
    some ((bytes.drop start).take (stop - start))
  else
    none

/-- Replace the bytes from `offset` on by `data`.  What would fall past the end
is dropped, so the length stays. -/
def overwrite (bytes : Bytes) (offset : Nat) (data : Bytes) : Bytes :=
  bytes.take offset ++ data.take (bytes.length - offset) ++ bytes.drop (offset + data.length)

/-- The lowest `count` bytes of a number, lowest first. -/
def littleEndian : (count : Nat) → (value : Nat) → Bytes
  | 0, _ => []
  | count + 1, value => UInt8.ofNat (value % 256) :: littleEndian count (value / 256)

/-- The number whose bytes, lowest first, are given. -/
def ofLittleEndian : Bytes → Nat
  | [] => 0
  | byte :: rest => byte.toNat + 256 * ofLittleEndian rest

/-- The first `count` blocks of `width` bytes. -/
def blocks (width : Nat) : (count : Nat) → Bytes → List Bytes
  | 0, _ => []
  | count + 1, bytes => bytes.take width :: blocks width count (bytes.drop width)

@[simp] theorem length_zeros (count : Nat) : (zeros count).length = count := by
  simp [zeros]

@[simp] theorem length_overwrite (bytes : Bytes) (offset : Nat) (data : Bytes) :
    (overwrite bytes offset data).length = bytes.length := by
  simp only [overwrite, List.length_append, List.length_take, List.length_drop]
  omega

/-- After an overwrite a position inside the window holds the new byte, and any
other position the old one. -/
theorem getElem?_overwrite (bytes : Bytes) (offset : Nat) (data : Bytes) (position : Nat) :
    (overwrite bytes offset data)[position]? =
      if offset ≤ position ∧ position < offset + data.length ∧ position < bytes.length then
        data[position - offset]?
      else
        bytes[position]? := by
  by_cases inBounds : position < bytes.length
  · by_cases before : position < offset
    · have first : position < (bytes.take offset).length := by
        simp only [List.length_take]
        omega
      rw [overwrite, List.append_assoc, List.getElem?_append_left first,
        List.getElem?_take_of_lt before, if_neg (by omega)]
    · have start : (bytes.take offset).length = offset := by
        simp only [List.length_take]
        omega
      by_cases inside : position < offset + data.length
      · rw [overwrite, List.append_assoc, List.getElem?_append_right (by omega), start,
          List.getElem?_append_left (by simp only [List.length_take]; omega),
          List.getElem?_take_of_lt (by omega), if_pos (by omega)]
      · rw [overwrite, List.append_assoc, List.getElem?_append_right (by omega), start,
          List.getElem?_append_right (by simp only [List.length_take]; omega),
          List.getElem?_drop, if_neg (by omega)]
        congr 1
        simp only [List.length_take]
        omega
  · rw [if_neg (by omega), List.getElem?_eq_none (by rw [length_overwrite]; omega),
      List.getElem?_eq_none (by omega)]

@[simp] theorem length_littleEndian (count value : Nat) :
    (littleEndian count value).length = count := by
  induction count generalizing value with
  | zero => rfl
  | succ count ih => simp [littleEndian, ih]

end Bytes

end Instrument

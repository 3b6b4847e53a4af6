import Instrument.Store

/-!
# Windows of a store

The view of a window is determined by the bytes inside it.  A window shows what
was last written to it, and writes elsewhere leave it alone.
-/

namespace Instrument.Store

variable {size : Nat}

theorem getElem?_view (store : Store size) (start length position : Nat) :
    (store.view start length)[position]? =
      if position < length then store.bytes[start + position]? else none := by
  rw [view]
  split
  · rename_i inside
    rw [List.getElem?_take_of_lt inside, List.getElem?_drop]
  · rename_i outside
    apply List.getElem?_eq_none
    rw [List.length_take]
    omega

theorem view_congr {other : Nat} {first : Store size} {second : Store other}
    {start length : Nat}
    (agree : ∀ position, start ≤ position → position < start + length →
      first.bytes[position]? = second.bytes[position]?) :
    first.view start length = second.view start length := by
  apply List.ext_getElem?
  intro position
  rw [getElem?_view, getElem?_view]
  split
  · exact agree _ (Nat.le_add_right _ _) (by omega)
  · rfl

theorem getElem?_overwrite_of_outside (store : Store size) {start : Nat}
    {data : Bytes} {position : Nat}
    (outside : position < start ∨ start + data.length ≤ position) :
    (store.overwrite start data).bytes[position]? = store.bytes[position]? := by
  rw [bytes_overwrite, Bytes.getElem?_overwrite, if_neg (by omega)]

theorem getElem?_overwrite_congr (first second : Store size) {start : Nat}
    {data : Bytes} {position : Nat} (above : start ≤ position)
    (below : position < start + data.length) :
    (second.overwrite start data).bytes[position]? =
      (first.overwrite start data).bytes[position]? := by
  rw [bytes_overwrite, bytes_overwrite, Bytes.getElem?_overwrite, Bytes.getElem?_overwrite,
    first.length_bytes, second.length_bytes]
  by_cases inside : position < size
  · rw [if_pos ⟨above, below, inside⟩, if_pos ⟨above, below, inside⟩]
  · have past : size ≤ position := Nat.le_of_not_lt inside
    rw [if_neg (fun both => inside both.2.2), if_neg (fun both => inside both.2.2),
      List.getElem?_eq_none (by rw [second.length_bytes]; exact past),
      List.getElem?_eq_none (by rw [first.length_bytes]; exact past)]

theorem view_overwrite (store : Store size) {start : Nat} {data : Bytes}
    (fits : start + data.length ≤ size) :
    (store.overwrite start data).view start data.length = data := by
  apply List.ext_getElem?
  intro position
  rw [getElem?_view]
  split
  · rename_i inside
    have whole := store.length_bytes
    rw [bytes_overwrite, Bytes.getElem?_overwrite, if_pos (by omega),
      Nat.add_sub_cancel_left]
  · rename_i outside
    exact (List.getElem?_eq_none (by omega)).symm

theorem view_overwrite_apart (store : Store size) {start other length : Nat}
    {data : Bytes}
    (apart : other + length ≤ start ∨ start + data.length ≤ other) :
    (store.overwrite start data).view other length = store.view other length := by
  apply view_congr
  intro position above below
  exact store.getElem?_overwrite_of_outside (by omega)

theorem view_zeroed {start length : Nat} (fits : start + length ≤ size) :
    (zeroed : Store size).view start length = Bytes.zeros length := by
  simp only [view, zeroed, Bytes.zeros, List.drop_replicate, List.take_replicate]
  rw [Nat.min_eq_left (by omega)]

theorem slice?_eq_view (store : Store size) {start length : Nat}
    (fits : start + length ≤ size) :
    store.slice? start (start + length) = some (store.view start length) := by
  have whole := store.length_bytes
  rw [slice?, Bytes.slice?, if_pos (by omega), Nat.add_sub_cancel_left, view]

end Instrument.Store

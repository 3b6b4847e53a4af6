import Instrument.Proofs.ElementWords
import Instrument.Proofs.PayloadElements

/-!
# Lists of values in a buffer

Values are written back to back over the start of a buffer, all of them or none, and each is
found again at its index.  A buffer that ends with an element is in turn what the values at
its indices are written as.
-/

namespace Instrument

namespace Element

namespace Kind

theorem getElem?_elements (kind : Kind) (payload : Bytes) (index : Nat) :
    (kind.elements payload)[index]? =
      payload.slice? (index * kind.width) ((index + 1) * kind.width) := by
  have inside := @Nat.le_div_iff_mul_le _ (index + 1) payload.length kind.width_pos
  have ordered : index * kind.width ≤ (index + 1) * kind.width :=
    Nat.mul_le_mul_right _ (Nat.le_succ index)
  rw [elements, Bytes.blocks_eq_map, List.getElem?_map, Bytes.slice?]
  by_cases whole : (index + 1) * kind.width ≤ payload.length
  · rw [List.getElem?_range (inside.mpr whole), if_pos ⟨ordered, whole⟩, Nat.succ_mul,
      Nat.add_sub_cancel_left]
    rfl
  · rw [if_neg (fun both => whole both.2), List.getElem?_eq_none]
    · rfl
    · rw [List.length_range]
      exact Nat.le_of_not_lt (fun below => whole (inside.mp below))

end Kind

variable {α : Type} [Element α]

/-- What writing values over the start of a buffer answers, and the buffer after it: a
refusal has written nothing. -/
def encodeInto (values : List α) (buffer : Bytes) : Option Nat × Bytes :=
  match encode? values buffer with
  | some (size, after) => (some size, after)
  | none => (none, buffer)

/-- As long as the end of an element is a position, decoding reads the element at its
index. -/
theorem decodeAt_eq (view : Bytes) {index : Nat}
    (position : (index + 1) * (kind α).width < positionCount) :
    decodeAt α view index = .ok (((kind α).elements view)[index]?.bind (read? α)) := by
  rw [decodeAt, if_pos position, Kind.getElem?_elements]

theorem length_of_mem_map_toBytes (values : List α) :
    ∀ piece ∈ values.map toBytes, piece.length = (kind α).width := by
  intro piece member
  obtain ⟨value, _, rfl⟩ := List.mem_map.mp member
  exact length_toBytes value

theorem length_flatMap_toBytes (values : List α) :
    (values.flatMap toBytes).length = values.length * (kind α).width := by
  rw [List.flatMap_def, Kind.length_flatten (length_of_mem_map_toBytes values), List.length_map]

theorem encodeInto_fits {values : List α} {buffer : Bytes}
    (fits : values.length * (kind α).width ≤ buffer.length) :
    encodeInto values buffer = (some (values.length * (kind α).width),
      values.flatMap toBytes ++ buffer.drop (values.length * (kind α).width)) := by
  have size := length_flatMap_toBytes values
  rw [encodeInto, encode?, if_pos fits, Bytes.overwrite_start (size ▸ fits), size]

theorem encodeInto_short {values : List α} {buffer : Bytes}
    (short : buffer.length < values.length * (kind α).width) :
    encodeInto values buffer = (none, buffer) := by
  rw [encodeInto, encode?, if_neg (Nat.not_le.mpr short)]

/-- Values written one after the other are found at their indices, whatever follows. -/
theorem decodeAt_flatMap (values : List α) (rest : Bytes) {index : Nat}
    (present : index < values.length)
    (addressable : values.length * (kind α).width < positionCount) :
    decodeAt α (values.flatMap toBytes ++ rest) index = .ok values[index]? := by
  have sized := length_of_mem_map_toBytes values
  have whole : (kind α).width ∣ (values.flatMap toBytes).length :=
    ⟨values.length, (length_flatMap_toBytes values).trans (Nat.mul_comm _ _)⟩
  have position : (index + 1) * (kind α).width < positionCount :=
    Nat.lt_of_le_of_lt (Nat.mul_le_mul_right _ present) addressable
  have before : index < (values.map (toBytes (α := α))).length := by
    rw [List.length_map]
    exact present
  rw [decodeAt_eq _ position, Kind.elements_append whole, List.flatMap_def,
    Kind.elements_flatten sized, List.getElem?_append_left before, List.getElem?_map,
    List.getElem?_eq_getElem present, Option.map_some, Option.bind_some, read?_toBytes]

theorem exists_values {view : Bytes} {count : Nat}
    (sized : view.length = count * (kind α).width) :
    ∃ values : List α, values.length = count ∧ values.flatMap toBytes = view := by
  induction count generalizing view with
  | zero =>
      rw [Nat.zero_mul] at sized
      exact ⟨[], rfl, (List.eq_nil_of_length_eq_zero sized).symm⟩
  | succ count induction =>
      rw [Nat.succ_mul] at sized
      have first : (view.take (kind α).width).length = (kind α).width := by
        rw [List.length_take]
        omega
      have others : (view.drop (kind α).width).length = count * (kind α).width := by
        rw [List.length_drop]
        omega
      obtain ⟨value, leading⟩ := exists_toBytes first
      obtain ⟨rest, length, following⟩ := induction others
      refine ⟨value :: rest, ?_, ?_⟩
      · rw [List.length_cons, length]
      · rw [List.flatMap_cons, leading, following, List.take_append_drop]

/-- Values that a buffer has room for are written back to back, the lowest byte of each first,
and counted in bytes; each is decoded at its index, and the bytes behind them stay.  Values
that it has no room for leave it as it was.  What is decoded from a buffer of whole elements
is written as that buffer again. -/
theorem lists_round_trip (values : List α) {buffer : Bytes}
    (addressable : buffer.length < positionCount) :
    (values.length * (kind α).width ≤ buffer.length →
      ∃ after, encodeInto values buffer = (some (values.length * (kind α).width), after) ∧
        after.take (values.length * (kind α).width) = values.flatMap (fun value =>
          Bytes.littleEndian (kind α).width (toWord value).toNat) ∧
        after.drop (values.length * (kind α).width) =
          buffer.drop (values.length * (kind α).width) ∧
        ∀ index, index < values.length → decodeAt α after index = .ok values[index]?) ∧
    (buffer.length < values.length * (kind α).width →
      encodeInto values buffer = (none, buffer)) ∧
    ((kind α).width ∣ buffer.length →
      ∃ elements : List α, elements.length * (kind α).width = buffer.length ∧
        (∀ index, index < elements.length → decodeAt α buffer index = .ok elements[index]?) ∧
        ∀ other, buffer.length ≤ other.length →
          encodeInto elements other =
            (some buffer.length, buffer ++ other.drop buffer.length)) := by
  refine ⟨?_, encodeInto_short, ?_⟩
  · intro fits
    have size := length_flatMap_toBytes values
    refine ⟨_, encodeInto_fits fits, ?_, ?_, ?_⟩
    · refine (List.take_left' size).trans ?_
      exact congrArg (values.flatMap ·) (funext toBytes_eq_littleEndian)
    · exact List.drop_left' size
    · intro index present
      exact decodeAt_flatMap values _ present (Nat.lt_of_le_of_lt fits addressable)
  · intro whole
    obtain ⟨count, sized⟩ := whole
    rw [Nat.mul_comm] at sized
    obtain ⟨elements, rfl, written⟩ := exists_values sized
    refine ⟨elements, sized.symm, ?_, ?_⟩
    · intro index present
      rw [← List.append_nil buffer, ← written]
      exact decodeAt_flatMap elements [] present (sized ▸ addressable)
    · intro other fits
      rw [encodeInto_fits (sized ▸ fits), written, ← sized]

/-- Two numbers that are not numbers keep their patterns in nine bytes, the ninth stays, and
seven bytes take neither. -/
theorem lists_round_trip_patterns :
    let patterns : List Binary32 := [⟨0x7FC00001⟩, ⟨0xFF800123⟩]
    List.length [1, 2, 3, 4, 5, 6, 7, 8, (9 : UInt8)] < positionCount ∧
      (∃ after, encodeInto patterns [1, 2, 3, 4, 5, 6, 7, 8, 9] = (some 8, after) ∧
        after.drop 8 = [9] ∧ decodeAt Binary32 after 1 = .ok (some ⟨0xFF800123⟩)) ∧
      encodeInto patterns [1, 2, 3, 4, 5, 6, 7] = (none, [1, 2, 3, 4, 5, 6, 7]) := by
  intro patterns
  have addressable : List.length [1, 2, 3, 4, 5, 6, 7, 8, (9 : UInt8)] < positionCount := by
    decide
  have shorter : List.length [1, 2, 3, 4, 5, 6, (7 : UInt8)] < positionCount := by decide
  obtain ⟨fits, _, _⟩ := lists_round_trip patterns addressable
  obtain ⟨_, short, _⟩ := lists_round_trip patterns shorter
  obtain ⟨after, written, _, tail, decoded⟩ := fits (by decide)
  exact ⟨addressable, ⟨after, written, tail, decoded 1 (by decide)⟩, short (by decide)⟩

end Element

end Instrument

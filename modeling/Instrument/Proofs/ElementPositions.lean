import Instrument.Proofs.ElementLists

/-!
# Positions of elements

The bounds of an element are sums and products of positions: its index in bytes, the index
after it, and that index in bytes.  A machine that checks them stops at the first that is no
position; a machine that lets them wrap around goes on with the remainder.  Both find the
element at an index as long as its end is a position, whatever the view.  Past that the one
gives no answer, and the other the element at a smaller index.
-/

namespace Instrument.Element

/-- What a machine makes of a sum or a product that is no position. -/
inductive PositionArithmetic where
  /-- It stops. -/
  | checked
  /-- It goes on with the remainder. -/
  | wrapping

namespace PositionArithmetic

/-- The position that a sum or a product comes to. -/
def position (arithmetic : PositionArithmetic) (number : Nat) : Except PositionError Nat :=
  match arithmetic with
  | .checked => if number < positionCount then .ok number else .error .overflow
  | .wrapping => .ok (number % positionCount)

variable {β : Type} {number : Nat} (next : Nat → Except PositionError β)

theorem checked_bind (below : number < positionCount) :
    (checked.position number >>= next) = next number := by
  rw [position, if_pos below]
  rfl

theorem checked_bind_past (past : positionCount ≤ number) :
    (checked.position number >>= next) = .error .overflow := by
  rw [position, if_neg (Nat.not_lt.mpr past)]
  rfl

theorem wrapping_bind (number : Nat) :
    (wrapping.position number >>= next) = next (number % positionCount) := rfl

end PositionArithmetic

/-- The element at an index of a view, its bounds computed step by step. -/
def decodeBy (arithmetic : PositionArithmetic) (α : Type) [Element α] (view : Bytes)
    (index : Nat) : Except PositionError (Option α) := do
  let start ← arithmetic.position (index * (kind α).width)
  let next ← arithmetic.position (index + 1)
  let stop ← arithmetic.position (next * (kind α).width)
  pure ((Bytes.slice? view start stop).bind (read? α))

variable {α : Type} [Element α]

/-- The end of an element is the greatest number on the way to it, so a machine that checks
all of them stops exactly if the end is no position. -/
theorem decodeBy_checked (view : Bytes) (index : Nat) :
    decodeBy .checked α view index = decodeAt α view index := by
  have startBelow : index * (kind α).width ≤ (index + 1) * (kind α).width :=
    Nat.mul_le_mul_right _ (Nat.le_succ index)
  have nextBelow : index + 1 ≤ (index + 1) * (kind α).width :=
    Nat.le_mul_of_pos_right _ (kind α).width_pos
  rw [decodeBy, decodeAt]
  by_cases position : (index + 1) * (kind α).width < positionCount
  · rw [PositionArithmetic.checked_bind _ (Nat.lt_of_le_of_lt startBelow position),
      PositionArithmetic.checked_bind _ (Nat.lt_of_le_of_lt nextBelow position),
      PositionArithmetic.checked_bind _ position, if_pos position]
    rfl
  · have past := Nat.not_lt.mp position
    rw [if_neg position]
    rcases Nat.lt_or_ge (index * (kind α).width) positionCount with starts | startPast
    · rw [PositionArithmetic.checked_bind _ starts]
      rcases Nat.lt_or_ge (index + 1) positionCount with follows | nextPast
      · rw [PositionArithmetic.checked_bind _ follows, PositionArithmetic.checked_bind_past _ past]
      · exact PositionArithmetic.checked_bind_past _ nextPast
    · exact PositionArithmetic.checked_bind_past _ startPast

/-- An end that is no position stops the machine, however short the view is. -/
theorem decodeAt_past (view : Bytes) (index : Nat)
    (past : positionCount ≤ (index + 1) * (kind α).width) :
    decodeAt α view index = .error .overflow :=
  if_neg (Nat.not_lt.mpr past)

theorem getElem?_elements_of_short {kind : Kind} {view : Bytes} {index : Nat}
    (short : view.length < (index + 1) * kind.width) : (kind.elements view)[index]? = none := by
  rw [Kind.getElem?_elements, Bytes.slice?, if_neg]
  intro inside
  exact Nat.not_le_of_lt short inside.2

/-- The elements of a kind that all positions hold together. -/
def Kind.elementCount (kind : Kind) : Nat := positionCount / kind.width

/-- Positions are shared out among the elements of a kind without a remainder. -/
theorem Kind.elementCount_mul_width (kind : Kind) :
    kind.elementCount * kind.width = positionCount := by
  rcases kind with (_ | _ | _ | _) | (_ | _ | _ | _) | _ <;> rfl

/-- A machine that wraps around takes an index modulo the number of elements that all positions
hold together. -/
theorem decodeBy_wrapping {view : Bytes} (addressable : view.length < positionCount)
    (index : Nat) :
    decodeBy .wrapping α view index =
      .ok (((kind α).elements view)[index % (kind α).elementCount]?.bind (read? α)) := by
  have wide := (kind α).width_pos
  have divided := (kind α).elementCount_mul_width
  generalize (kind α).elementCount = count at divided ⊢
  have several : 1 < count := by
    apply Nat.lt_of_mul_lt_mul_right (a := (kind α).width)
    rw [divided]
    exact Nat.lt_of_le_of_lt (Nat.le_trans (Nat.le_of_eq (Nat.one_mul _)) (kind α).width_le_eight)
      (by decide)
  have start : index * (kind α).width % positionCount = index % count * (kind α).width := by
    rw [← divided, Nat.mul_mod_mul_right]
  have stop : (index + 1) % positionCount * (kind α).width % positionCount =
      (index % count + 1) % count * (kind α).width := by
    rw [Nat.mod_mul_mod, ← divided, Nat.mul_mod_mul_right, Nat.mod_add_mod]
  have inside := Nat.mod_lt index (Nat.lt_trans Nat.one_pos several)
  rw [decodeBy, PositionArithmetic.wrapping_bind, PositionArithmetic.wrapping_bind,
    PositionArithmetic.wrapping_bind, start, stop]
  generalize index % count = place at inside ⊢
  refine congrArg (fun element : Option Bytes => Except.ok (element.bind (read? α))) ?_
  by_cases last : place + 1 = count
  · -- The end of the last of these elements wraps around to the first position.
    have short : view.length < (place + 1) * (kind α).width := by
      rw [last, divided]
      exact addressable
    have positive : 0 < place * (kind α).width := Nat.mul_pos (by omega) wide
    rw [getElem?_elements_of_short short, last, Nat.mod_self, Nat.zero_mul, Bytes.slice?, if_neg]
    intro ordered
    exact Nat.not_le_of_lt positive ordered.1
  · rw [Nat.mod_eq_of_lt (Nat.lt_of_le_of_ne inside last), Kind.getElem?_elements]

theorem decodeBy_of_position (arithmetic : PositionArithmetic) {view : Bytes}
    (addressable : view.length < positionCount) {index : Nat}
    (position : (index + 1) * (kind α).width < positionCount) :
    decodeBy arithmetic α view index = .ok (((kind α).elements view)[index]?.bind (read? α)) := by
  cases arithmetic with
  | checked => exact (decodeBy_checked view index).trans (decodeAt_eq view position)
  | wrapping =>
      have below : index < (kind α).elementCount := by
        rw [← (kind α).elementCount_mul_width] at position
        exact Nat.lt_of_succ_lt (Nat.lt_of_mul_lt_mul_right position)
      rw [decodeBy_wrapping addressable, Nat.mod_eq_of_lt below]

theorem exists_toBytes_of_whole {view : Bytes} {index : Nat}
    (whole : (index + 1) * (kind α).width ≤ view.length) :
    ∃ value : α, toBytes value = (view.drop (index * (kind α).width)).take (kind α).width ∧
      ((kind α).elements view)[index]?.bind (read? α) = some value := by
  have ends : (index + 1) * (kind α).width = index * (kind α).width + (kind α).width :=
    Nat.succ_mul _ _
  have sized : ((view.drop (index * (kind α).width)).take (kind α).width).length =
      (kind α).width := by
    rw [List.length_take, List.length_drop]
    omega
  obtain ⟨value, bytes⟩ := exists_toBytes (α := α) sized
  refine ⟨value, bytes, ?_⟩
  rw [Kind.getElem?_elements, Bytes.slice?, if_pos ⟨by omega, whole⟩, ends,
    Nat.add_sub_cancel_left, ← bytes, Option.bind_some, read?_toBytes]

/-- An element that lies in the view whole is decoded from its own bytes, and one that does not
is not there, as long as its end is a position; this is so for a machine that checks its sums
and products of positions and for one that wraps around.  An end that is no position stops the
machine that checks, however short the view is; the machine that wraps around then answers with
the element at a remainder of the index. -/
theorem element_at_every_index {view : Bytes} (addressable : view.length < positionCount)
    (index : Nat) :
    decodeBy .checked α view index = decodeAt α view index ∧
      ((index + 1) * (kind α).width ≤ view.length →
        ∃ value : α, toBytes value = (view.drop (index * (kind α).width)).take (kind α).width ∧
          decodeAt α view index = .ok (some value) ∧
            decodeBy .wrapping α view index = .ok (some value)) ∧
      (view.length < (index + 1) * (kind α).width →
        (index + 1) * (kind α).width < positionCount →
          decodeAt α view index = .ok none ∧ decodeBy .wrapping α view index = .ok none) ∧
      (positionCount ≤ (index + 1) * (kind α).width →
        decodeAt α view index = .error .overflow ∧
          decodeBy .wrapping α view index =
            .ok (((kind α).elements view)[index % (kind α).elementCount]?.bind (read? α))) := by
  refine ⟨decodeBy_checked view index, ?_, ?_, ?_⟩
  · intro whole
    have position := Nat.lt_of_le_of_lt whole addressable
    obtain ⟨value, bytes, found⟩ := exists_toBytes_of_whole whole
    refine ⟨value, bytes, ?_, ?_⟩
    · rw [decodeAt_eq view position, found]
    · rw [decodeBy_of_position .wrapping addressable position, found]
  · intro short position
    have missing : ((kind α).elements view)[index]?.bind (read? α) = none := by
      rw [getElem?_elements_of_short short, Option.bind_none]
    constructor
    · rw [decodeAt_eq view position, missing]
    · rw [decodeBy_of_position .wrapping addressable position, missing]
  · intro past
    constructor
    · exact decodeAt_past view index past
    · exact decodeBy_wrapping addressable index

/-- Two bytes hold no element at the index `2 ^ 63`, but looking for it stops a machine that
checks, and a machine that wraps around finds the first element instead. -/
theorem decoding_past_positions :
    0x8000000000000000 < positionCount ∧
      List.length [0x34, (0x12 : UInt8)] < (0x8000000000000000 + 1) * (kind UInt16).width ∧
        decodeAt UInt16 [0x34, 0x12] 0x8000000000000000 ≠ .ok none ∧
          decodeBy .wrapping UInt16 [0x34, 0x12] 0x8000000000000000 = .ok (some 0x1234) := by
  have stops := decodeAt_past (α := UInt16) [0x34, 0x12] 0x8000000000000000 (by decide)
  refine ⟨by decide, by decide, ?_, rfl⟩
  rw [stops]
  intro same
  cases same

/-- In five bytes the second of two-byte elements is there, the third is not, and the one at
the index `2 ^ 63 + 1` has no position. -/
theorem element_at_every_index_odd :
    List.length [1, 2, 3, 4, (5 : UInt8)] < positionCount ∧
      (∃ value : Int16, toBytes value = [3, 4] ∧
        decodeAt Int16 [1, 2, 3, 4, 5] 1 = .ok (some value)) ∧
      decodeAt Int16 [1, 2, 3, 4, 5] 2 = .ok none ∧
      decodeAt Int16 [1, 2, 3, 4, 5] 0x8000000000000001 = .error .overflow := by
  have addressable : List.length [1, 2, 3, 4, (5 : UInt8)] < positionCount := by decide
  obtain ⟨_, whole, _, _⟩ := element_at_every_index (α := Int16) addressable 1
  obtain ⟨_, _, missing, _⟩ := element_at_every_index (α := Int16) addressable 2
  obtain ⟨_, _, _, past⟩ := element_at_every_index (α := Int16) addressable 0x8000000000000001
  obtain ⟨value, bytes, decoded, _⟩ := whole (by decide)
  exact ⟨addressable, ⟨value, bytes, decoded⟩, (missing (by decide) (by decide)).1,
    (past (by decide)).1⟩

end Instrument.Element

import Instrument.Pin.Basic

/-!
# Tables over pins

A `PinTable` holds one cell for every pin that exists.  `get?` is its view: a pin
that does not exist has no cell, and changing one cell leaves all others alone.
-/

namespace Instrument

/-- A value for each pin of each port. -/
structure PinTable (α : Type) where
  cells : Vector (Vector α Port.pinCount) Port.count
  deriving DecidableEq

namespace PinTable

variable {α : Type}

def filled (value : α) : PinTable α := ⟨Vector.replicate _ (Vector.replicate _ value)⟩

/-- The cell of a pin, if the pin exists. -/
def get? (table : PinTable α) (pin : Pin) : Option α :=
  table.cells[pin.port.index][pin.bit]?

/-- Change the cell of a pin; a pin that does not exist has none to change. -/
def modify (table : PinTable α) (pin : Pin) (change : α → α) : PinTable α :=
  if inRange : pin.bit < Port.pinCount then
    let row := table.cells[pin.port.index]
    ⟨table.cells.set pin.port.index (row.set pin.bit (change row[pin.bit]))⟩
  else
    table

@[simp] theorem get?_filled (value : α) (pin : Pin) :
    (filled value).get? pin = if pin.isReal then some value else none := by
  simp [filled, get?, Pin.isReal, Vector.getElem?_replicate]

/-- Changing a cell shows at its own pin and nowhere else. -/
theorem get?_modify (table : PinTable α) (pin other : Pin) (change : α → α) :
    (table.modify pin change).get? other =
      if other = pin then (table.get? pin).map change else table.get? other := by
  obtain ⟨port, bit⟩ := pin
  obtain ⟨otherPort, otherBit⟩ := other
  unfold modify
  split
  · rename_i inRange
    by_cases samePort : otherPort = port
    · subst samePort
      by_cases sameBit : otherBit = bit
      · subst sameBit
        simp [get?, inRange]
      · simp [get?, sameBit, Ne.symm sameBit]
    · have apart : (port.index : Nat) ≠ otherPort.index := fun equal =>
        samePort (Port.index_injective (Fin.ext equal.symm))
      simp [get?, samePort, apart]
  · rename_i outOfRange
    have absent : table.get? ⟨port, bit⟩ = none := by
      simpa [get?] using outOfRange
    split
    · rename_i same
      cases same
      rw [absent, Option.map_none]
    · rfl

theorem ext_get? {first second : PinTable α} (same : ∀ pin, first.get? pin = second.get? pin) :
    first = second := by
  obtain ⟨firstCells⟩ := first
  obtain ⟨secondCells⟩ := second
  congr 1
  apply Vector.ext
  intro row rowInRange
  obtain ⟨port, rfl⟩ := Port.exists_index_eq rowInRange
  apply Vector.ext
  intro bit bitInRange
  have cell := same ⟨port, bit⟩
  simpa [get?, bitInRange] using cell

end PinTable

end Instrument

import Instrument.Proofs.PinCells

/-!
# Levels packed into bytes

The levels of the eight pins of a port fit into one byte.  A pin then moves by inverting
the bit that its mask selects, and a mask cannot tell pins apart that are eight bits away.
This module keeps simulated pins that way: a call changes the cell of its own pin as it does
on a table with a cell for each pin, and no bit of a neighbour.
-/

namespace Instrument

namespace CellView

variable {β γ σ : Type}

theorem Changed.congr {view : CellView β σ} {pins after : β} {pin : Pin}
    {first second : σ → σ} (changed : view.Changed pins after pin first)
    (same : ∀ cell, view.cell? pins pin = some cell → first cell = second cell) :
    view.Changed pins after pin second where
  cells other := by
    rw [changed.cells]
    split
    · rename_i own
      subst own
      exact Option.map_congr fun cell present => same cell present
    · rfl
  interrupts := changed.interrupts

theorem changed_of_fixed {view : CellView β σ} {pins : β} {pin : Pin} {change : σ → σ}
    (fixed : ∀ cell, view.cell? pins pin = some cell → change cell = cell) :
    view.Changed pins pins pin change where
  cells other := by
    split
    · rename_i own
      subst own
      cases present : view.cell? pins other with
      | none => rfl
      | some cell => exact congrArg some (fixed cell present).symm
    · rfl
  interrupts := rfl

/-- Two hosts show the same cells and the same armed lines. -/
structure Alike (first : CellView β σ) (second : CellView γ σ) (pins : β) (others : γ) :
    Prop where
  cells : ∀ pin, first.cell? pins pin = second.cell? others pin
  interrupts : first.interrupts pins = second.interrupts others

theorem Alike.changed {first : CellView β σ} {second : CellView γ σ} {pins after : β}
    {others othersAfter : γ} (alike : Alike first second pins others) {pin : Pin}
    {change : σ → σ} (changed : first.Changed pins after pin change)
    (also : second.Changed others othersAfter pin change) :
    Alike first second after othersAfter where
  cells other := by
    rw [changed.cells, also.cells, alike.cells]
  interrupts := by
    rw [changed.interrupts, also.interrupts, alike.interrupts]

end CellView

namespace SimulatedPin

/-- Move the pin from outside, if it is an input. -/
def stimulate (pin : SimulatedPin) (high : Bool) : SimulatedPin :=
  match pin.role with
  | .input _ _ => pin.moveTo high
  | _ => pin

variable {pin : SimulatedPin}

theorem stimulate_of_input {pull : Pull} {sense : Sense} (role : pin.role = .input pull sense)
    (high : Bool) : pin.stimulate high = pin.moveTo high := by
  simp only [stimulate, role]

theorem stimulate_of_not_input (role : ∀ pull sense, pin.role ≠ .input pull sense)
    (high : Bool) : pin.stimulate high = pin := by
  rw [stimulate]
  split
  · rename_i input
    exact absurd input (role _ _)
  · rfl

theorem drive_of_output {wiring : Wiring} {readback : Readback}
    (role : pin.role = .output wiring readback) (high : Bool) :
    pin.drive high = pin.moveTo high := by
  simp only [drive, role]

theorem drive_of_not_output (role : ∀ wiring readback, pin.role ≠ .output wiring readback)
    (high : Bool) : pin.drive high = pin := by
  rw [drive]
  split
  · rename_i output
    exact absurd output (role _ _)
  · rfl

end SimulatedPin

/-- Simulated pins that keep the levels of a port in one byte. -/
structure PackedPins where
  roles : PinTable PinRole
  levels : Vector (BitVec 8) Port.count
  transitions : PinTable UInt32
  interrupts : InterruptTable

namespace PackedPins

def fresh : PackedPins where
  roles := .filled .unconfigured
  levels := Vector.replicate _ 0#8
  transitions := .filled 0
  interrupts := .empty

def role (pins : PackedPins) (pin : Pin) : PinRole :=
  (pins.roles.get? pin).getD .unconfigured

def level (pins : PackedPins) (pin : Pin) : Bool :=
  pin.isReal && pins.levels.get pin.port.index &&& pin.mask != 0#8

def count (pins : PackedPins) (pin : Pin) : UInt32 :=
  (pins.transitions.get? pin).getD 0

/-- Bring a pin to a level: if it has the other one, its bit is inverted and the change
counted. -/
def moveTo (pins : PackedPins) (pin : Pin) (high : Bool) : PackedPins :=
  if pin.isReal ∧ pins.level pin ≠ high then
    { pins with
      levels := pins.levels.setIfInBounds pin.port.index (pins.levels.get pin.port.index ^^^ pin.mask)
      transitions := pins.transitions.modify pin (· + 1) }
  else
    pins

def withRole (pins : PackedPins) (pin : Pin) (role : PinRole) : PackedPins :=
  { pins with roles := pins.roles.modify pin fun _ => role }

/-- A pin that exists is configured; any other one is refused. -/
def configure (pins : PackedPins) (pin : Pin) (configured : PackedPins) :
    Attempt PinError PackedPins :=
  if pin.isReal then .accepted configured else .refused (.missingPin pin) pins

/-- The pull of an input settles its level. -/
def settle (pins : PackedPins) (pin : Pin) : Pull → PackedPins
  | .up => pins.moveTo pin true
  | .down => pins.moveTo pin false
  | .floating | .keeper => pins

def drive (pins : PackedPins) (pin : Pin) (high : Bool) : PackedPins :=
  match pins.role pin with
  | .output _ _ => pins.moveTo pin high
  | _ => pins

instance : PinDriver PackedPins where
  configureInput pins pin pull sense :=
    pins.configure pin ((pins.withRole pin (.input pull sense)).settle pin pull)
  configureOutput pins pin wiring readback :=
    pins.configure pin (pins.withRole pin (.output wiring readback))
  arm pins port line armed :=
    if armed.mask = 0 then .refused (.emptyMask port) pins
    else .accepted { pins with interrupts := pins.interrupts.arm port line armed }
  set pins pin := pins.drive pin true
  clear pins pin := pins.drive pin false
  toggle pins pin := pins.drive pin (!pins.level pin)
  read pins pin :=
    match pins.role pin with
    | .output _ .disabled => false
    | _ => pins.level pin

instance : Stimulated PackedPins where
  driveInput pins pin high :=
    match pins.role pin with
    | .input _ sense =>
      let was := pins.level pin
      let fired := (pins.interrupts.get pin.port).firstLine? fun armed =>
        armed.watches pin && sense.fires (was != armed.inverted) (high != armed.inverted)
      (fired.map Prod.fst, pins.moveTo pin high)
    | _ => (none, pins)

/-- What the tables and the byte of its port hold of a pin. -/
def cell (pins : PackedPins) (pin : Pin) : SimulatedPin :=
  ⟨pins.role pin, pins.level pin, pins.count pin⟩

def cellView : CellView PackedPins SimulatedPin where
  cell? pins pin := if pin.isReal then some (pins.cell pin) else none
  interrupts := (·.interrupts)

theorem cell?_of_isReal (pins : PackedPins) {pin : Pin} (real : pin.isReal = true) :
    cellView.cell? pins pin = some (pins.cell pin) :=
  if_pos real

theorem cell?_of_missing (pins : PackedPins) {pin : Pin} (missing : ¬ pin.isReal = true) :
    cellView.cell? pins pin = none :=
  if_neg missing

theorem cell?_eq_some_iff {pins : PackedPins} {pin : Pin} {cell : SimulatedPin} :
    cellView.cell? pins pin = some cell ↔ pin.isReal = true ∧ pins.cell pin = cell := by
  simp [cellView]

theorem changed_congr {pins after : PackedPins} {pin : Pin}
    {first second : SimulatedPin → SimulatedPin}
    (changed : cellView.Changed pins after pin first)
    (same : first (pins.cell pin) = second (pins.cell pin)) :
    cellView.Changed pins after pin second := by
  apply changed.congr
  intro cell present
  obtain ⟨_, rfl⟩ := cell?_eq_some_iff.mp present
  exact same

theorem changed_of_fixed {pins : PackedPins} {pin : Pin} {change : SimulatedPin → SimulatedPin}
    (fixed : change (pins.cell pin) = pins.cell pin) :
    cellView.Changed pins pins pin change := by
  apply CellView.changed_of_fixed
  intro cell present
  obtain ⟨_, rfl⟩ := cell?_eq_some_iff.mp present
  exact fixed

/-- It suffices to look at the pins that exist. -/
theorem changed_of_cells {pins after : PackedPins} {pin : Pin}
    {change : SimulatedPin → SimulatedPin}
    (cells : ∀ other, other.isReal = true →
      after.cell other = if other = pin then change (pins.cell other) else pins.cell other)
    (interrupts : after.interrupts = pins.interrupts) :
    cellView.Changed pins after pin change where
  cells other := by
    by_cases real : other.isReal = true
    · rw [cell?_of_isReal _ real, cell?_of_isReal _ real, cells other real]
      split <;> rfl
    · rw [cell?_of_missing _ real, cell?_of_missing _ real]
      split <;> rfl
  interrupts := interrupts

theorem level_eq_getLsbD (pins : PackedPins) {pin : Pin} (real : pin.isReal = true) :
    pins.level pin = (pins.levels.get pin.port.index).getLsbD pin.bit := by
  have selected := Pin.and_mask_ne_zero_iff (pins.levels.get pin.port.index) pin
  rw [Nat.mod_eq_of_lt (of_decide_eq_true real)] at selected
  rw [level, real, Bool.true_and, Bool.eq_iff_iff, bne_iff_ne]
  exact selected

/-- Inverting the bit of a pin inverts the level of that pin alone, though the other pins of
its port share the byte. -/
theorem level_inverted (pins : PackedPins) {pin other : Pin} (real : pin.isReal = true)
    (otherReal : other.isReal = true) (transitions : PinTable UInt32) :
    let byte := pins.levels.get pin.port.index
    { pins with
      levels := pins.levels.setIfInBounds pin.port.index (byte ^^^ pin.mask)
      transitions }.level other =
      if other = pin then !pins.level other else pins.level other := by
  intro byte
  have bound : other.bit < 8 := of_decide_eq_true otherReal
  have place : pin.bit % Port.pinCount = pin.bit := Nat.mod_eq_of_lt (of_decide_eq_true real)
  rw [level_eq_getLsbD _ otherReal, level_eq_getLsbD _ otherReal]
  by_cases samePort : other.port = pin.port
  · have written : (pins.levels.setIfInBounds pin.port.index (byte ^^^ pin.mask)).get other.port.index =
        byte ^^^ pin.mask := by
      rw [samePort]
      exact Vector.getElem_setIfInBounds_self pin.port.index.isLt
    have own : pins.levels.get other.port.index = byte := by rw [samePort]
    rw [written, own, BitVec.getLsbD_xor, Pin.mask, place, BitVec.getLsbD_twoPow]
    by_cases sameBit : other.bit = pin.bit
    · have same : other = pin := by
        cases other
        cases pin
        cases samePort
        cases sameBit
        rfl
      simp [same, bound, ← sameBit]
    · have different : other ≠ pin := fun same => sameBit (congrArg Pin.bit same)
      simp [different, Ne.symm sameBit]
  · have apart : (pin.port.index : Nat) ≠ other.port.index := fun equal =>
      samePort (Port.index_injective (Fin.ext equal)).symm
    have kept : (pins.levels.setIfInBounds pin.port.index (byte ^^^ pin.mask)).get other.port.index =
        pins.levels.get other.port.index :=
      Vector.getElem_setIfInBounds_ne other.port.index.isLt apart
    have different : other ≠ pin := fun same => samePort (congrArg Pin.port same)
    rw [kept, if_neg different]

theorem count_modify (pins : PackedPins) {pin other : Pin} (otherReal : other.isReal = true)
    (levels : Vector (BitVec 8) Port.count) :
    { pins with levels, transitions := pins.transitions.modify pin (· + 1) }.count other =
      if other = pin then pins.count other + 1 else pins.count other := by
  have present : (pins.transitions.get? other).isSome = true := by
    simpa [PinTable.get?, Pin.isReal] using otherReal
  obtain ⟨old, found⟩ := Option.isSome_iff_exists.mp present
  rw [count, count, PinTable.get?_modify]
  split
  · rename_i same
    subst same
    rw [found]
    rfl
  · rfl

theorem changed_moveTo (pins : PackedPins) (pin : Pin) (high : Bool) :
    cellView.Changed pins (pins.moveTo pin high) pin (·.moveTo high) := by
  rw [moveTo]
  split
  · rename_i moves
    refine changed_of_cells ?_ rfl
    intro other otherReal
    simp only [cell]
    rw [level_inverted pins moves.1 otherReal, count_modify pins otherReal]
    split
    · rename_i same
      subst same
      have inverted : (!pins.level other) = high := by
        revert moves
        cases pins.level other <;> cases high <;> simp
      rw [SimulatedPin.moveTo, if_neg moves.2, inverted]
      rfl
    · rfl
  · rename_i stays
    apply CellView.changed_of_fixed
    intro cell present
    obtain ⟨real, rfl⟩ := cell?_eq_some_iff.mp present
    have there : pins.level pin = high := Classical.not_not.mp fun moves => stays ⟨real, moves⟩
    exact if_pos there

theorem changed_withRole (pins : PackedPins) (pin : Pin) (role : PinRole) :
    cellView.Changed pins (pins.withRole pin role) pin ({ · with role }) := by
  refine changed_of_cells ?_ rfl
  intro other otherReal
  have present : (pins.roles.get? other).isSome = true := by
    simpa [PinTable.get?, Pin.isReal] using otherReal
  obtain ⟨old, found⟩ := Option.isSome_iff_exists.mp present
  have given : (pins.withRole pin role).role other =
      if other = pin then role else pins.role other := by
    rw [withRole, PackedPins.role, PinTable.get?_modify]
    split
    · rename_i same
      rw [← same, found]
      rfl
    · rfl
  rw [cell, given]
  split <;> rfl

end PackedPins

end Instrument

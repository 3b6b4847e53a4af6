import Instrument.Proofs.PinCells

/-!
# How pads stand

The driver, the latch and the pull of a pad are moved apart, each by some calls alone, and a
pin is told levels whether or not it is an output.  After any calls a pad still stands as its
pin was last configured and has been told since: nothing is left of what the pin was before.
-/

namespace Instrument.Board

/-- A call on the pins of the chip, or a level applied to one from outside. -/
inductive ChipCall where
  | configureInput (pin : Pin) (pull : Pull) (sense : Sense)
  | configureOutput (pin : Pin) (wiring : Wiring) (readback : Readback)
  | arm (port : Port) (line : InterruptLine) (armed : ArmedInterrupt)
  | set (pin : Pin)
  | clear (pin : Pin)
  | toggle (pin : Pin)
  | write (pin : Pin) (high : Bool)
  | drive (line : OutputLine) (active : Bool)
  | applyExternal (pin : Pin) (level : Option Bool)

namespace ChipPin

/-- What an output was told, and how its pad stands. -/
structure Holds (cell : ChipPin) (level latch driving : Bool) (pull : PadPull) : Prop where
  commanded : cell.commanded = level
  latch : cell.pad.latch = latch
  driving : cell.pad.driving = driving
  pull : cell.pad.pull = pull

/-- How a pin of some role stands after it was told a level.  A push-pull output drives the
level; a wired one drives its dominant level or lets go. -/
def Stands (cell : ChipPin) (level : Bool) : ChipRole → Prop
  | .unconfigured | .input _ => cell.pad.driving = false
  | .output .pushPull _ => cell.Holds level level true .none
  | .output .wiredAnd _ => cell.Holds level false (!level) .none
  | .output .wiredAndPull _ => cell.Holds level false (!level) .up
  | .output .wiredOr _ => cell.Holds level true level .none
  | .output .wiredOrPull _ => cell.Holds level true level .down

variable {cell : ChipPin} {level : Bool}

theorem Stands.command (stands : cell.Stands level cell.role) (high : Bool) :
    (cell.command high).Stands high cell.role := by
  obtain ⟨pad, role, commanded⟩ := cell
  cases role with
  | unconfigured | input => exact stands
  | output wiring =>
      cases wiring with
      | pushPull => exact ⟨rfl, rfl, stands.driving, stands.pull⟩
      | wiredAnd | wiredAndPull | wiredOr | wiredOrPull => exact ⟨rfl, rfl, rfl, stands.pull⟩

theorem Stands.toggle (stands : cell.Stands level cell.role) :
    (cell.command (!cell.commanded)).Stands (!level) cell.role := by
  obtain ⟨pad, role, commanded⟩ := cell
  cases role with
  | unconfigured | input => exact stands
  | output wiring =>
      have same : commanded = level := by cases wiring <;> exact stands.commanded
      subst same
      exact stands.command _

theorem Stands.applyExternal (stands : cell.Stands level cell.role) (external : Option Bool) :
    { cell with pad := { cell.pad with external } }.Stands level cell.role := by
  obtain ⟨pad, role, commanded⟩ := cell
  cases role with
  | unconfigured | input => exact stands
  | output wiring => cases wiring <;>
      exact ⟨stands.commanded, stands.latch, stands.driving, stands.pull⟩

/-- Whatever the pin was before, an output starts as one that was told to be low. -/
theorem stands_becomeOutput (cell : ChipPin) (wiring : Wiring) (readback : Readback) :
    (cell.becomeOutput wiring readback).Stands false (.output wiring readback) := by
  cases wiring <;> exact ⟨rfl, rfl, rfl, rfl⟩

end ChipPin

namespace ChipCall

/-- The chip after a call, refused or not. -/
def after (chip : ChipPins) : ChipCall → ChipPins
  | .configureInput pin pull sense => (PinDriver.configureInput chip pin pull sense).2
  | .configureOutput pin wiring readback => (PinDriver.configureOutput chip pin wiring readback).2
  | .arm port line armed => (PinDriver.arm chip port line armed).2
  | .set pin => PinDriver.set chip pin
  | .clear pin => PinDriver.clear chip pin
  | .toggle pin => PinDriver.toggle chip pin
  | .write pin high => PinDriver.write chip pin high
  | .drive line active => PinDriver.drive chip line active
  | .applyExternal pin level => chip.applyExternal pin level

def afterAll (chip : ChipPins) (calls : List ChipCall) : ChipPins := calls.foldl after chip

/-- The role that a call gives to a pin, if it configures the pin. -/
def role? (pin : Pin) : ChipCall → Option ChipRole
  | .configureInput own _ sense => if pin = own then some (.input sense) else none
  | .configureOutput own wiring readback =>
    if pin = own then some (.output wiring readback) else none
  | _ => none

/-- The level that a pin is told after a call, by the level it was told before. -/
def told (pin : Pin) (level : Bool) : ChipCall → Bool
  | .set own => if pin = own then true else level
  | .clear own => if pin = own then false else level
  | .toggle own => if pin = own then !level else level
  | .write own high => if pin = own then high else level
  | .drive line active => if pin = line.pin then line.level active else level
  | _ => level

/-- The last configuration of a pin among some calls, and the calls after it. -/
def lastConfiguration? (pin : Pin) : List ChipCall → Option (ChipRole × List ChipCall)
  | [] => none
  | call :: rest =>
    (lastConfiguration? pin rest).or ((call.role? pin).map fun role => (role, rest))

/-- The pin that a call changes, and how. -/
def change? : ChipCall → Option (Pin × (ChipPin → ChipPin))
  | .configureInput pin pull sense => some (pin, (·.becomeInput pull sense))
  | .configureOutput pin wiring readback => some (pin, (·.becomeOutput wiring readback))
  | .arm _ _ _ => none
  | .set pin => some (pin, (·.command true))
  | .clear pin => some (pin, (·.command false))
  | .toggle pin => some (pin, fun cell => cell.command (!cell.commanded))
  | .write pin high => some (pin, (·.command high))
  | .drive line active => some (line.pin, (·.command (line.level active)))
  | .applyExternal pin external =>
    some (pin, fun cell => { cell with pad := { cell.pad with external } })

theorem snd_configure (chip : ChipPins) (pin : Pin) (change : ChipPin → ChipPin) :
    (chip.configure pin change).2 = chip.modify pin change := by
  rw [ChipPins.configure, ChipPins.modify]
  cases padOf? pin <;> rfl

theorem pins_arm (chip : ChipPins) (port : Port) (line : InterruptLine) (armed : ArmedInterrupt) :
    (PinDriver.arm chip port line armed).2.pins = chip.pins := by
  simp only [PinDriver.arm]
  split
  · rfl
  · split <;> rfl

/-- The cell of a pin after a call. -/
def cellAfter (pin : Pin) (cell : ChipPin) (call : ChipCall) : ChipPin :=
  match call.change? with
  | some (own, change) => if pin = own then change cell else cell
  | none => cell

theorem get?_after (chip : ChipPins) (call : ChipCall) (pin : Pin) :
    (call.after chip).get? pin = (chip.get? pin).map fun cell => cellAfter pin cell call := by
  have changed : ∀ own change, call.change? = some (own, change) →
      call.after chip = chip.modify own change →
        (call.after chip).get? pin = (chip.get? pin).map fun cell => cellAfter pin cell call := by
    intro own change changes after
    rw [after, ChipPins.get?_modify]
    simp only [cellAfter, changes]
    split <;> simp
  cases call with
  | configureInput | configureOutput => exact changed _ _ rfl (snd_configure ..)
  | set | clear | toggle | applyExternal => exact changed _ _ rfl rfl
  | write own high => exact changed _ _ rfl (by cases high <;> rfl)
  | drive line active => exact changed _ _ rfl (chip.drive_eq_modify line active)
  | arm port line armed =>
      rw [ChipPins.get?, after, pins_arm]
      exact Option.map_id'.symm

theorem get?_afterAll (chip : ChipPins) (calls : List ChipCall) (pin : Pin) :
    (afterAll chip calls).get? pin =
      (chip.get? pin).map fun cell => calls.foldl (cellAfter pin) cell := by
  induction calls generalizing chip with
  | nil => exact Option.map_id'.symm
  | cons call rest induction =>
      have later := induction (call.after chip)
      rw [get?_after, Option.map_map] at later
      exact later

theorem role_cellAfter (pin : Pin) (cell : ChipPin) (call : ChipCall) :
    (cellAfter pin cell call).role = (call.role? pin).getD cell.role := by
  cases call with
  | configureInput own | configureOutput own =>
      by_cases same : pin = own
      · simp [cellAfter, change?, role?, same, ChipPin.becomeInput, ChipPin.becomeOutput,
          ChipPin.role_command]
      · simp [cellAfter, change?, role?, same]
  | arm => rfl
  | _ =>
      simp only [cellAfter, change?, role?, Option.getD_none]
      split <;> simp only [ChipPin.role_command]

/-- A configuration decides how a pin stands, whatever it was before. -/
theorem stands_of_configured {pin : Pin} {call : ChipCall} {role : ChipRole}
    (configured : call.role? pin = some role) (cell : ChipPin) :
    (cellAfter pin cell call).Stands false role := by
  cases call with
  | configureInput own pull sense =>
      simp only [role?, Option.ite_none_right_eq_some, Option.some.injEq] at configured
      obtain ⟨same, rfl⟩ := configured
      simp only [cellAfter, change?, if_pos same]
      exact rfl
  | configureOutput own wiring readback =>
      simp only [role?, Option.ite_none_right_eq_some, Option.some.injEq] at configured
      obtain ⟨same, rfl⟩ := configured
      simp only [cellAfter, change?, if_pos same]
      exact cell.stands_becomeOutput wiring readback
  | _ => cases configured

/-- Any other call keeps a pin as it stands, at the level it is told. -/
theorem stands_of_unconfigured {pin : Pin} {cell : ChipPin} {level : Bool}
    (stands : cell.Stands level cell.role) {call : ChipCall} (kept : call.role? pin = none) :
    (cellAfter pin cell call).Stands (call.told pin level) cell.role := by
  cases call with
  | configureInput own | configureOutput own =>
      have other : ¬ pin = own := by
        intro same
        simp [role?, same] at kept
      simp only [cellAfter, change?, if_neg other]
      exact stands
  | arm => exact stands
  | set | clear | write | drive =>
      simp only [cellAfter, change?, told]
      split
      · exact stands.command _
      · exact stands
  | toggle =>
      simp only [cellAfter, change?, told]
      split
      · exact stands.toggle
      · exact stands
  | applyExternal own external =>
      simp only [cellAfter, change?, told]
      split
      · exact stands.applyExternal external
      · exact stands

/-- Without a configuration a pin keeps its role, and stands at the level it was told last. -/
theorem stands_foldl {pin : Pin} {cell : ChipPin} {level : Bool}
    (stands : cell.Stands level cell.role) {calls : List ChipCall}
    (unconfigured : lastConfiguration? pin calls = none) :
    (calls.foldl (cellAfter pin) cell).Stands (calls.foldl (told pin) level) cell.role := by
  induction calls generalizing cell level with
  | nil => exact stands
  | cons call rest induction =>
      rw [lastConfiguration?, Option.or_eq_none_iff, Option.map_eq_none_iff] at unconfigured
      have next := stands_of_unconfigured stands unconfigured.2
      have role := role_cellAfter pin cell call
      rw [unconfigured.2, Option.getD_none] at role
      rw [← role] at next
      have later := induction next unconfigured.1
      rw [role] at later
      exact later

theorem stands_foldl_of_configured {pin : Pin} {calls since : List ChipCall} {role : ChipRole}
    (configured : lastConfiguration? pin calls = some (role, since)) (cell : ChipPin) :
    (calls.foldl (cellAfter pin) cell).Stands (since.foldl (told pin) false) role := by
  induction calls generalizing cell with
  | nil => cases configured
  | cons call rest induction =>
      -- A later configuration overrides whatever this call does, so the cell is any.
      rw [lastConfiguration?, Option.or_eq_some_iff] at configured
      rcases configured with again | ⟨last, given⟩
      · exact induction again _
      · rw [Option.map_eq_some_iff] at given
        obtain ⟨taken, configures, same⟩ := given
        cases same
        have stands := stands_of_configured configures cell
        have role := role_cellAfter pin cell call
        rw [configures, Option.getD_some] at role
        rw [← role] at stands
        have later := stands_foldl stands last
        rw [role] at later
        exact later

end ChipCall

/-- From reset, after any calls and in any order of them, a pad stands as its pin was last
configured and has been told since, from low on; a pin that was never configured does not
drive. -/
theorem pads_follow_calls (calls : List ChipCall) (pad : Fin 21) :
    let pin := wiredPins.get pad
    let (role, since) := (ChipCall.lastConfiguration? pin calls).getD (.unconfigured, calls)
    ((ChipCall.afterAll .reset calls).pins.get pad).Stands (since.foldl (ChipCall.told pin) false)
      role := by
  intro pin
  have wired : padOf? pin = some pad := padOf?_eq_some_iff.mpr rfl
  have reached := ChipCall.get?_afterAll .reset calls pin
  rw [ChipPins.get?_reset ⟨pad, rfl⟩, ChipPins.get?, wired, Option.map_some, Option.map_some,
    Option.some.injEq] at reached
  rw [reached]
  cases configured : ChipCall.lastConfiguration? pin calls with
  | none =>
      have undriven : ({} : ChipPin).Stands false ({} : ChipPin).role := rfl
      exact ChipCall.stands_foldl undriven configured
  | some last => exact ChipCall.stands_foldl_of_configured configured {}

/-- Nothing is left of a wired output that let its pad rise once it drives both levels. -/
example :
    (ChipCall.afterAll .reset
        [.configureOutput NosePoke.lamp0 .wiredAndPull .enabled, .set NosePoke.lamp0,
          .configureOutput NosePoke.lamp0 .pushPull .enabled]).get? NosePoke.lamp0 =
      some { pad := { driving := true }, role := .output .pushPull .enabled } := by
  decide +kernel

end Instrument.Board

import Instrument.NosePoke.Boot
import Instrument.Proofs.PinCells

/-!
# Boot of the nose-poke controller

Boot is accepted by every driver that has the pins of the controller, whatever state
its pins are in, and starts the same controller over each of them.
-/

namespace Instrument.NosePoke

open Board

/-- The store that boot leaves: the version and the boot configuration, else zeros. -/
def bootStore : Store layout.totalBytes :=
  (Store.zeroed.overwrite (layout.start ⟨3, by decide⟩) identity.registerBytes).overwrite
    (layout.start ⟨2, by decide⟩) bootConfiguration

/-- The controller that boot starts over pins that are set up. -/
def booted {β : Type} (pins : β) : Controller β where
  layout := layout
  store := bootStore
  pins := pins
  signals := .clear
  pulses := .none

variable {β σ : Type} [PinDriver β]

theorem boot_eq {pins after : β} (accepted : setUp pins = .accepted after) (signals : Signals) :
    boot pins signals = (.ok (booted after), .clear) := by
  rw [boot, accepted]
  rfl

theorem booted_of_boot {pins : β} {signals : Signals} {controller : Controller β}
    (boots : (boot pins signals).1 = .ok controller) : ∃ after, controller = booted after := by
  cases configured : setUp pins with
  | mk result after =>
      cases result with
      | error cause =>
          rw [boot, configured] at boots
          cases boots
      | ok =>
          rw [boot_eq configured] at boots
          cases boots
          exact ⟨after, rfl⟩

theorem boot_accepted (driver : Cellwise β σ) {pins : β}
    (inputsPresent : ∀ input ∈ inputs, (driver.cell? pins input.pin).isSome = true)
    (outputsPresent : ∀ output ∈ outputs, (driver.cell? pins output.pin).isSome = true) :
    ∃ after, (∀ signals, boot pins signals = (.ok (booted after), .clear)) ∧
      driver.SetUp pins after inputs outputs := by
  have distinct : (inputs.map (·.pin) ++ outputs.map (·.pin)).Nodup := by decide
  obtain ⟨after, accepted, settled⟩ :=
    driver.setUpPins_accepted distinct inputsPresent outputsPresent
  exact ⟨after, boot_eq accepted, settled⟩

theorem input_wired {input : InputSetup} (listed : input ∈ inputs) :
    ∃ pad, wiredPins.get pad = input.pin := by
  have all : ∀ input ∈ inputs, ∃ pad, wiredPins.get pad = input.pin := by decide
  exact all input listed

theorem output_wired {output : OutputSetup} (listed : output ∈ outputs) :
    ∃ pad, wiredPins.get pad = output.pin := by
  have all : ∀ output ∈ outputs, ∃ pad, wiredPins.get pad = output.pin := by decide
  exact all output listed

/-- What boot makes of simulated pins: its inputs and outputs have taken their settings,
and the interrupts are armed, whatever the pins were before. -/
structure Booted (pins after : SimulatedPins) : Prop where
  configured : ∀ input ∈ inputs, after.pin input.pin =
    (pins.pin input.pin).becomeInput input.pull input.sense
  driven : ∀ output ∈ outputs, after.pin output.pin =
    ((pins.pin output.pin).becomeOutput output.wiring output.readback).drive
      (output.line.level output.initiallyActive)
  interrupts : after.interrupts = armEach inputs pins.interrupts inputs

theorem boot_simulated (pins : SimulatedPins) :
    ∃ after, (∀ signals, boot pins signals = (.ok (booted after), .clear)) ∧
      Booted pins after := by
  have present : ∀ pin : Pin, pin.isReal = true →
      (SimulatedPins.cellwise.cell? pins pin).isSome = true := by
    intro pin real
    have cell := pins.get?_cells pin
    rw [if_pos real] at cell
    exact Option.isSome_iff_exists.mpr ⟨_, cell⟩
  obtain ⟨after, boots, settled⟩ := boot_accepted SimulatedPins.cellwise
    (fun input listed => present input.pin (isReal_of_wired (input_wired listed)))
    (fun output listed => present output.pin (isReal_of_wired (output_wired listed)))
  refine ⟨after, boots, ?_, ?_, settled.interrupts⟩
  · intro input listed
    have real := isReal_of_wired (input_wired listed)
    exact SimulatedPins.pin_eq_of_cell? real (settled.configured input listed)
  · intro output listed
    have real := isReal_of_wired (output_wired listed)
    exact SimulatedPins.pin_eq_of_cell? real (settled.driven output listed)

/-- What boot makes of the chip: its inputs and outputs have taken their settings. -/
structure BootedBoard (chip after : ChipPins) : Prop where
  configured : ∀ input ∈ inputs, after.get? input.pin =
    (chip.get? input.pin).map (·.becomeInput input.pull input.sense)
  driven : ∀ output ∈ outputs, after.get? output.pin = (chip.get? output.pin).map fun cell =>
    (cell.becomeOutput output.wiring output.readback).command
      (output.line.level output.initiallyActive)

theorem boot_board (chip : ChipPins) :
    ∃ after, (∀ signals, boot chip signals = (.ok (booted after), .clear)) ∧
      BootedBoard chip after := by
  obtain ⟨after, boots, settled⟩ := boot_accepted ChipPins.cellwise
    (fun _ listed => Option.isSome_iff_exists.mpr (chip.exists_cell (input_wired listed)))
    (fun _ listed => Option.isSome_iff_exists.mpr (chip.exists_cell (output_wired listed)))
  exact ⟨after, boots, settled.configured, settled.driven⟩

end Instrument.NosePoke

import Instrument.Board.Pad
import Instrument.NosePoke.Wiring
import Instrument.Pin.Driver

/-!
# Pins of the chip

The board wires 21 pins to the chip's pads.  `ChipPins` drives the pads as the
settings ask: a push-pull output drives both levels, while a wired one drives only
its dominant level and lets go of the pad for the other.
-/

namespace Instrument.Board

/-- The pins wired to pads, in pad order. -/
def wiredPins : Vector Pin 21 := #v[
  NosePoke.beam0, NosePoke.spare0, NosePoke.lamp0, NosePoke.valve0,
  NosePoke.beam1, NosePoke.spare1, NosePoke.lamp1, NosePoke.valve1,
  NosePoke.beam2, NosePoke.spare2, NosePoke.lamp2, NosePoke.valve2,
  NosePoke.output0, NosePoke.output1, NosePoke.output2, NosePoke.output3,
  NosePoke.generalInput, NosePoke.converterPresent,
  NosePoke.boardLamp0, NosePoke.boardLamp1, NosePoke.colorLamps]

def padOf? (pin : Pin) : Option (Fin 21) := wiredPins.finIdxOf? pin

/-- What a chip pin is configured as. -/
inductive ChipRole where
  | unconfigured
  | input (sense : Sense)
  | output (wiring : Wiring) (readback : Readback)
  deriving DecidableEq, Inhabited

/-- A chip pin: its pad, its role, and the level it was last told to take. -/
structure ChipPin where
  pad : Pad := {}
  role : ChipRole := .unconfigured
  commanded : Bool := false
  deriving DecidableEq, Inhabited

namespace ChipPin

/-- Command a level.  An output puts it on its pad as its wiring says. -/
def command (pin : ChipPin) (high : Bool) : ChipPin :=
  let commanded := { pin with commanded := high }
  match pin.role with
  | .output wiring _ =>
    match wiring with
    | .pushPull => { commanded with pad := { pin.pad with latch := high } }
    | .wiredAnd | .wiredAndPull =>
      { commanded with pad := { pin.pad with latch := false, driving := !high } }
    | .wiredOr | .wiredOrPull =>
      { commanded with pad := { pin.pad with latch := true, driving := high } }
  | _ => commanded

/-- The pad pull of an input.  The chip has no keeper; such an input floats. -/
def inputPull : Pull → PadPull
  | .up => .up
  | .down => .down
  | .floating | .keeper => .none

/-- The pad pull of an output: to the level that a wired output does not drive. -/
def outputPull : Wiring → PadPull
  | .wiredAndPull => .up
  | .wiredOrPull => .down
  | _ => .none

/-- Make the pin an input. -/
def becomeInput (pin : ChipPin) (pull : Pull) (sense : Sense) : ChipPin :=
  { pin with
    pad := { pin.pad with driving := false, pull := inputPull pull }
    role := .input sense }

/-- Make the pin an output commanded low. -/
def becomeOutput (pin : ChipPin) (wiring : Wiring) (readback : Readback) : ChipPin :=
  let driving := wiring == .pushPull || pin.pad.driving
  let output := {
    pin with
    pad := { pin.pad with pull := outputPull wiring, driving }
    role := .output wiring readback }
  output.command false

/-- What reading the pin gives: the level of its pad, or low for an output that
cannot be read back. -/
def read (pin : ChipPin) : Bool :=
  match pin.role with
  | .output _ .disabled => false
  | _ => pin.pad.level

end ChipPin

/-- The pins of the chip with their port interrupts. -/
structure ChipPins where
  pins : Vector ChipPin 21
  interrupts : InterruptTable
  deriving DecidableEq

namespace ChipPins

/-- The chip after reset. -/
def reset : ChipPins := ⟨Vector.replicate 21 {}, .empty⟩

def get? (chip : ChipPins) (pin : Pin) : Option ChipPin :=
  (padOf? pin).map fun pad => chip.pins.get pad

/-- Change the state of a pin, if it is wired. -/
def modify (chip : ChipPins) (pin : Pin) (change : ChipPin → ChipPin) : ChipPins :=
  match padOf? pin with
  | some pad => { chip with pins := chip.pins.set pad (change (chip.pins.get pad)) }
  | none => chip

/-- Change the state of a pin, or refuse one that is not wired. -/
def configure (chip : ChipPins) (pin : Pin) (change : ChipPin → ChipPin) :
    Attempt PinError ChipPins :=
  if (padOf? pin).isSome then .accepted (chip.modify pin change)
  else .refused (.missingPin pin) chip

/-- The first pin of a port that a mask selects and the board does not wire. -/
def unwired? (port : Port) (mask : BitVec 8) : Option Pin :=
  ((List.range Port.pinCount).map fun bit => Pin.mk port bit).find? fun pin =>
    mask &&& pin.mask != 0#8 && (padOf? pin).isNone

instance : PinDriver ChipPins where
  configureInput chip pin pull sense := chip.configure pin (·.becomeInput pull sense)
  configureOutput chip pin wiring readback := chip.configure pin (·.becomeOutput wiring readback)
  arm chip port line armed :=
    if armed.mask = 0 then
      .refused (.emptyMask port) chip
    else
      match unwired? port armed.mask with
      | some pin => .refused (.missingPin pin) chip
      | none => .accepted { chip with interrupts := chip.interrupts.arm port line armed }
  set chip pin := chip.modify pin (·.command true)
  clear chip pin := chip.modify pin (·.command false)
  toggle chip pin := chip.modify pin fun state => state.command (!state.commanded)
  read chip pin := (chip.get? pin).any (·.read)

/-- Apply a level to a pin from outside, or nothing. -/
def applyExternal (chip : ChipPins) (pin : Pin) (external : Option Bool) : ChipPins :=
  chip.modify pin fun state => { state with pad := { state.pad with external } }

/-- The pads, in order, each with its pin. -/
def pads (chip : ChipPins) : List (Pin × Pad) :=
  wiredPins.toList.zip (chip.pins.toList.map (·.pad))

end ChipPins

end Instrument.Board

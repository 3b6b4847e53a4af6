import Instrument.Pin.Driver
import Instrument.Pin.Table

/-!
# Simulated pins

Each simulated pin has a role, an electrical level and a count of its level
changes.  Outputs move only when the program drives them, inputs only when the
stimulus moves them or a pull settles them.  A pin that does not exist behaves as
one that was never configured.
-/

namespace Instrument

/-- What a simulated pin is configured as. -/
inductive PinRole where
  | unconfigured
  | input (pull : Pull) (sense : Sense)
  | output (wiring : Wiring) (readback : Readback)
  deriving DecidableEq, Inhabited

def PinRole.text : PinRole → String
  | .unconfigured => "none"
  | .input pull sense => "in " ++ Named.name pull ++ " " ++ Named.name sense
  | .output wiring readback => "out " ++ Named.name wiring ++ " " ++ Named.name readback

/-- One simulated pin. -/
structure SimulatedPin where
  role : PinRole := .unconfigured
  level : Bool := false
  /-- How often the level has changed, modulo `2 ^ 32`. -/
  transitions : UInt32 := 0
  deriving DecidableEq, Inhabited

namespace SimulatedPin

/-- Bring the pin to a level, counting the change if it is one. -/
def moveTo (pin : SimulatedPin) (high : Bool) : SimulatedPin :=
  if pin.level = high then pin
  else { pin with level := high, transitions := pin.transitions + 1 }

/-- Make the pin an input; a pull settles its level. -/
def becomeInput (pin : SimulatedPin) (pull : Pull) (sense : Sense) : SimulatedPin :=
  let input := { pin with role := .input pull sense }
  match pull with
  | .up => input.moveTo true
  | .down => input.moveTo false
  | .floating | .keeper => input

/-- Make the pin an output, at the level it has. -/
def becomeOutput (pin : SimulatedPin) (wiring : Wiring) (readback : Readback) : SimulatedPin :=
  { pin with role := .output wiring readback }

/-- Drive the pin to a level, if it is an output. -/
def drive (pin : SimulatedPin) (high : Bool) : SimulatedPin :=
  match pin.role with
  | .output _ _ => pin.moveTo high
  | _ => pin

/-- What reading the pin gives: its level, or low for an output that cannot be
read back. -/
def read (pin : SimulatedPin) : Bool :=
  match pin.role with
  | .output _ .disabled => false
  | _ => pin.level

end SimulatedPin

/-- Simulated pins with their port interrupts. -/
structure SimulatedPins where
  cells : PinTable SimulatedPin
  interrupts : InterruptTable
  deriving DecidableEq

namespace SimulatedPins

/-- Every pin unconfigured and low, no interrupt armed. -/
def fresh : SimulatedPins := ⟨.filled {}, .empty⟩

def pin (pins : SimulatedPins) (pin : Pin) : SimulatedPin :=
  (pins.cells.get? pin).getD {}

/-- Change the state of a pin that exists. -/
def modify (pins : SimulatedPins) (pin : Pin) (change : SimulatedPin → SimulatedPin) :
    SimulatedPins :=
  { pins with cells := pins.cells.modify pin change }

/-- Change the state of a pin, or refuse a pin that does not exist. -/
def configure (pins : SimulatedPins) (pin : Pin) (change : SimulatedPin → SimulatedPin) :
    Attempt PinError SimulatedPins :=
  if pin.isReal then .accepted (pins.modify pin change)
  else .refused (.missingPin pin) pins

instance : PinDriver SimulatedPins where
  configureInput pins pin pull sense := pins.configure pin (·.becomeInput pull sense)
  configureOutput pins pin wiring readback := pins.configure pin (·.becomeOutput wiring readback)
  arm pins port line armed :=
    if armed.mask = 0 then .refused (.emptyMask port) pins
    else .accepted { pins with interrupts := pins.interrupts.arm port line armed }
  set pins pin := pins.modify pin (·.drive true)
  clear pins pin := pins.modify pin (·.drive false)
  toggle pins pin := pins.modify pin fun cell => cell.drive (!cell.level)
  read pins pin := (pins.pin pin).read

/-- Move an input pin to a level.  The first line of its port that watches the
pin and senses the step, in the logic that line is armed with, is set off.  A pin
that is no input stays as it is. -/
def driveInput (pins : SimulatedPins) (pin : Pin) (high : Bool) :
    Option InterruptLine × SimulatedPins :=
  let cell := pins.pin pin
  match cell.role with
  | .input _ sense =>
    let fired := (pins.interrupts.get pin.port).firstLine? fun armed =>
      armed.watches pin && sense.fires (cell.level != armed.inverted) (high != armed.inverted)
    (fired.map Prod.fst, pins.modify pin (·.moveTo high))
  | _ => (none, pins)

instance : Stimulated SimulatedPins := ⟨driveInput⟩

end SimulatedPins

end Instrument

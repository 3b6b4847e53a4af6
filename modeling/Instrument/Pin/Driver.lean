import Instrument.Attempt
import Instrument.Pin.Interrupt

/-!
# Pin drivers

A pin driver is a state on which pins are configured, driven and read and port
interrupts are armed.  The register controller knows hardware through this
interface alone, so it runs the same over a simulation and over a chip.
-/

namespace Instrument

/-- Why a configuration call was refused. -/
inductive PinError where
  | missingPin (pin : Pin)
  | emptyMask (port : Port)
  deriving DecidableEq

def PinError.message : PinError → String
  | .missingPin pin => "invalid pin " ++ pin.text
  | .emptyMask port => "empty interrupt mask on port " ++ Named.name port

/-- Operations on the pins of some hardware with state `β`.  A configuration call
may be refused; driving a pin never fails. -/
class PinDriver (β : Type) where
  configureInput : β → Pin → Pull → Sense → Attempt PinError β
  configureOutput : β → Pin → Wiring → Readback → Attempt PinError β
  arm : β → Port → InterruptLine → ArmedInterrupt → Attempt PinError β
  set : β → Pin → β
  clear : β → Pin → β
  toggle : β → Pin → β
  read : β → Pin → Bool

namespace PinDriver

variable {β : Type} [PinDriver β]

def write (pins : β) (pin : Pin) (high : Bool) : β :=
  if high then set pins pin else clear pins pin

/-- Make an output line active or inactive. -/
def drive (pins : β) (line : OutputLine) (active : Bool) : β :=
  write pins line.pin (line.level active)

end PinDriver

/-- Pins whose inputs can be moved from outside the hardware. -/
class Stimulated (β : Type) where
  /-- Move an input pin to a level; the answer is the interrupt line this sets
  off, if any. -/
  driveInput : β → Pin → Bool → Option InterruptLine × β

end Instrument

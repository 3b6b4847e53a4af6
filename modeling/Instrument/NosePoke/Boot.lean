import Instrument.Controller.Request
import Instrument.Controller.Tick
import Instrument.Element.Codec
import Instrument.NosePoke.Registers

/-!
# Boot and interrupts of the nose-poke controller

Boot sets up the pins, clears the signals and loads the version and the boot
configuration.  The interrupt routines touch the signals alone: an edge on the
first beam counts, every armed edge flags the digital inputs, and a converted
frame is latched and flagged.
-/

namespace Instrument.NosePoke

variable {β : Type} [PinDriver β]

/-- Set up every pin of the controller. -/
def setUp (pins : β) : Attempt PinError β := setUpPins pins inputs outputs

/-- Start the controller.  The signals are cleared once the pins are set up; pins
that cannot be set up leave them alone. -/
def boot (pins : β) (signals : Signals) : Except BootError (Controller β) × Signals :=
  match setUp pins with
  | (.error cause, _) => (.error (.pins cause), signals)
  | (.ok (), pins) =>
    (Controller.start layout storeSize pins .clear
      [(versionAddress, identity.registerBytes), (complexConfigurationAddress, bootConfiguration)],
      .clear)

/-- The routine for a port interrupt. -/
def onPortInterrupt (signals : Signals) (port : Port) (line : InterruptLine) : Signals :=
  if line = inputLine then
    match port with
    | .d => (signals.increment beamCounter).raise digitalInputsIndex
    | .e | .f | .h => signals.raise digitalInputsIndex
    | _ => signals
  else
    signals

/-- The routine for a converted frame of six analog channels. -/
def onAnalogFrame (signals : Signals) (frame : Vector Binary32 6) : Signals :=
  match Element.encode? frame.toList (Bytes.zeros 24) with
  | some (_, bytes) => (signals.latch analogWindow bytes).raise analogIndex
  | none => signals

/-- Run the routine for a port interrupt on a controller. -/
def interrupt (controller : Controller β) (port : Port) (line : InterruptLine) : Controller β :=
  { controller with signals := onPortInterrupt controller.signals port line }

/-- Run the routine for a converted frame on a controller. -/
def analogFrame (controller : Controller β) (frame : Vector Binary32 6) : Controller β :=
  { controller with signals := onAnalogFrame controller.signals frame }

/-- Move an input pin and run the routine of the interrupt that this sets off, if
any; the answer is the line of that interrupt. -/
def inputEdge [Stimulated β] (controller : Controller β) (pin : Pin) (high : Bool) :
    Option InterruptLine × Controller β :=
  let (fired, pins) := Stimulated.driveInput controller.pins pin high
  let moved := { controller with pins }
  match fired with
  | some line => (some line, interrupt moved pin.port line)
  | none => (none, moved)

end Instrument.NosePoke

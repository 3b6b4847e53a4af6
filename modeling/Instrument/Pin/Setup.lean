import Instrument.Pin.Driver

/-!
# Setting up pins

A device lists its input and output pins with the settings they take at boot.
`setUpPins` configures every input, then arms the interrupts of the inputs, then
configures each output and drives it to its initial state; the first refused call
ends the set-up.
-/

namespace Instrument

/-- The port interrupt that an input feeds. -/
structure InterruptSetup where
  line : InterruptLine
  priority : Priority
  /-- Whether levels are inverted before sensing. -/
  inverted : Bool := false
  deriving DecidableEq

/-- The settings of an input pin. -/
structure InputSetup where
  name : String
  pin : Pin
  pull : Pull
  sense : Sense
  interrupt : Option InterruptSetup := none
  deriving DecidableEq

/-- The settings of an output pin. -/
structure OutputSetup where
  name : String
  pin : Pin
  wiring : Wiring := .pushPull
  readable : Bool := true
  initiallyActive : Bool := false
  /-- Whether the output is active when the pin is low. -/
  inverted : Bool := false
  deriving DecidableEq

namespace OutputSetup

/-- The logical line of the output. -/
def line (output : OutputSetup) : OutputLine := ⟨output.pin, output.inverted⟩

/-- Whether the pin keeps its input buffer, so that it can be read back. -/
def readback (output : OutputSetup) : Readback :=
  if output.readable then .enabled else .disabled

end OutputSetup

/-- Whether an input feeds the given interrupt line of the given port. -/
def InputSetup.feeds (input : InputSetup) (port : Port) (line : InterruptLine) : Bool :=
  input.pin.port == port && input.interrupt.any (·.line == line)

/-- The pins of all inputs that feed an interrupt line, as one mask. -/
def sharedMask (inputs : List InputSetup) (port : Port) (line : InterruptLine) : BitVec 8 :=
  (inputs.filter (·.feeds port line)).foldl (fun mask input => mask ||| input.pin.mask) 0#8

variable {β : Type} [PinDriver β]

/-- Configure one input. -/
def setUpInput (pins : β) (input : InputSetup) : Attempt PinError β :=
  PinDriver.configureInput pins input.pin input.pull input.sense

/-- Arm the interrupt of one input, for all inputs that share its line. -/
def armInput (inputs : List InputSetup) (pins : β) (input : InputSetup) : Attempt PinError β :=
  match input.interrupt with
  | none => .accepted pins
  | some interrupt =>
    PinDriver.arm pins input.pin.port interrupt.line {
      priority := interrupt.priority
      mask := sharedMask inputs input.pin.port interrupt.line
      inverted := interrupt.inverted }

/-- Configure one output and drive it to its initial state. -/
def setUpOutput (pins : β) (output : OutputSetup) : Attempt PinError β :=
  (PinDriver.configureOutput pins output.pin output.wiring output.readback).andThen fun pins =>
    .accepted (PinDriver.drive pins output.line output.initiallyActive)

/-- Configure every pin and arm the port interrupts, up to the first refusal. -/
def setUpPins (pins : β) (inputs : List InputSetup) (outputs : List OutputSetup) :
    Attempt PinError β :=
  (Attempt.forEach setUpInput inputs pins).andThen fun pins =>
    (Attempt.forEach (armInput inputs) inputs pins).andThen fun pins =>
      Attempt.forEach setUpOutput outputs pins

end Instrument

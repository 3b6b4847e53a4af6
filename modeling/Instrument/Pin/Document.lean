import Instrument.Pin.Record
import Instrument.Pin.Setup
import Instrument.Text.Document

/-!
# Pins and settings as documents

The documents of pins, output lines, pin set-ups, interrupts and simulated pins, and
the reading of pins and lines from them.
-/

namespace Instrument

namespace Pin

def toDocument (pin : Pin) : Document :=
  .record [("port", .ofNamed pin.port), ("pin", .ofNat pin.bit)]

/-- The pin that a document stands for. -/
def ofDocument? (document : Document) : Option Pin :=
  match document.fields? ["port", "pin"] with
  | some [port, bit] =>
    match (port.toNamed? : Option Port), bit.toByte? with
    | some port, some bit => some ⟨port, bit⟩
    | _, _ => none
  | _ => none

end Pin

namespace OutputLine

def toDocument (line : OutputLine) : Document :=
  .record [("pin", line.pin.toDocument), ("inverted", .truth line.inverted)]

def ofDocument? (document : Document) : Option OutputLine :=
  match document.fields? ["pin", "inverted"] with
  | some [pin, inverted] =>
    match Pin.ofDocument? pin, inverted.toTruth? with
    | some pin, some inverted => some ⟨pin, inverted⟩
    | _, _ => none
  | _ => none

end OutputLine

def InterruptSetup.toDocument (interrupt : InterruptSetup) : Document :=
  .record [("line", .ofNamed interrupt.line), ("priority", .ofNamed interrupt.priority),
    ("invert", .truth interrupt.inverted)]

/-- An input set-up as a record; without an interrupt its field is nothing. -/
def InputSetup.toDocument (input : InputSetup) : Document :=
  .record [("name", .text input.name), ("pin", input.pin.toDocument),
    ("pull", .ofNamed input.pull), ("sense", .ofNamed input.sense),
    ("interrupt", Document.ofOption InterruptSetup.toDocument input.interrupt)]

def OutputSetup.toDocument (output : OutputSetup) : Document :=
  .record [("name", .text output.name), ("pin", output.pin.toDocument),
    ("mode", .ofNamed output.wiring), ("allow_read", .truth output.readable),
    ("initial_active", .truth output.initiallyActive), ("inverted", .truth output.inverted)]

def ArmedInterrupt.toDocument (armed : ArmedInterrupt) : Document :=
  .record [("priority", .ofNamed armed.priority), ("mask", .ofNat armed.mask.toNat),
    ("invert", .truth armed.inverted)]

def SimulatedPin.toDocument (pin : SimulatedPin) : Document :=
  .record [("mode", .text pin.role.text), ("level", .truth pin.level), ("read", .truth pin.read),
    ("transitions", .ofNat pin.transitions.toNat)]

namespace SimulatedPins

/-- The pins that are configured or have moved, each with its state. -/
def pinsDocument (pins : SimulatedPins) : Document :=
  .list (Pin.all.filterMap fun pin =>
    let state := pins.pin pin
    if state.role = .unconfigured ∧ state.transitions = 0 then none
    else some (.list [.text pin.text, state.toDocument]))

/-- The armed interrupt lines, each with what it is armed with. -/
def interruptsDocument (pins : SimulatedPins) : Document :=
  .list (Port.all.flatMap fun port =>
    (Named.all (α := InterruptLine)).filterMap fun line =>
      ((pins.interrupts.get port).get line).map fun armed =>
        .list [.ofNamed port, .ofNamed line, armed.toDocument])

end SimulatedPins

/-- The calls of a record, as texts. -/
def PinCall.listDocument (calls : List PinCall) : Document :=
  .ofList (fun call => .text call.text) calls

end Instrument

import Instrument.Pin.Simulation

/-!
# Recorded and faulty pins

`RecordedPins` keeps, beside any pin driver, the changing calls made on it, in
order and refused ones included.  `FaultyPins` is a simulation on which chosen
pins cannot be configured and chosen ports refuse every interrupt.
-/

namespace Instrument

/-- A call that changes pins or interrupts. -/
inductive PinCall where
  | input (pin : Pin) (pull : Pull) (sense : Sense)
  | output (pin : Pin) (wiring : Wiring) (readback : Readback)
  | arm (port : Port) (line : InterruptLine) (armed : ArmedInterrupt)
  | set (pin : Pin)
  | clear (pin : Pin)
  | toggle (pin : Pin)
  deriving DecidableEq

def PinCall.text : PinCall → String
  | .input pin pull sense =>
    String.intercalate " " ["input", pin.text, Named.name pull, Named.name sense]
  | .output pin wiring readback =>
    String.intercalate " " ["output", pin.text, Named.name wiring, Named.name readback]
  | .arm port line armed =>
    String.intercalate " " ["irq", Named.name port, Named.name line, Named.name armed.priority,
      toString armed.mask.toNat, if armed.inverted then "true" else "false"]
  | .set pin => "set " ++ pin.text
  | .clear pin => "clear " ++ pin.text
  | .toggle pin => "toggle " ++ pin.text

/-- Pins with a record of the changing calls made on them. -/
structure RecordedPins (β : Type) where
  pins : β
  calls : List PinCall := []

namespace RecordedPins

variable {β : Type}

/-- Add a call to the record and put the pins into the state it left. -/
def record (recorded : RecordedPins β) (call : PinCall) (pins : β) : RecordedPins β :=
  { pins := pins, calls := recorded.calls ++ [call] }

def clearRecord (recorded : RecordedPins β) : RecordedPins β := { recorded with calls := [] }

variable [PinDriver β]

instance : PinDriver (RecordedPins β) where
  configureInput recorded pin pull sense :=
    (PinDriver.configureInput recorded.pins pin pull sense).map id
      (recorded.record (.input pin pull sense))
  configureOutput recorded pin wiring readback :=
    (PinDriver.configureOutput recorded.pins pin wiring readback).map id
      (recorded.record (.output pin wiring readback))
  arm recorded port line armed :=
    (PinDriver.arm recorded.pins port line armed).map id (recorded.record (.arm port line armed))
  set recorded pin := recorded.record (.set pin) (PinDriver.set recorded.pins pin)
  clear recorded pin := recorded.record (.clear pin) (PinDriver.clear recorded.pins pin)
  toggle recorded pin := recorded.record (.toggle pin) (PinDriver.toggle recorded.pins pin)
  read recorded pin := PinDriver.read recorded.pins pin

instance [Stimulated β] : Stimulated (RecordedPins β) where
  driveInput recorded pin high :=
    (Stimulated.driveInput recorded.pins pin high).map id fun pins => { recorded with pins }

end RecordedPins

/-- A simulation with faults. -/
structure FaultyPins where
  pins : SimulatedPins := .fresh
  missing : List Pin := []
  /-- Ports that refuse every interrupt as if its mask were empty. -/
  deadPorts : List Port := []

namespace FaultyPins

def withPins (faulty : FaultyPins) (pins : SimulatedPins) : FaultyPins := { faulty with pins }

instance : PinDriver FaultyPins where
  configureInput faulty pin pull sense :=
    if pin ∈ faulty.missing then .refused (.missingPin pin) faulty
    else (PinDriver.configureInput faulty.pins pin pull sense).map id faulty.withPins
  configureOutput faulty pin wiring readback :=
    if pin ∈ faulty.missing then .refused (.missingPin pin) faulty
    else (PinDriver.configureOutput faulty.pins pin wiring readback).map id faulty.withPins
  arm faulty port line armed :=
    if port ∈ faulty.deadPorts then .refused (.emptyMask port) faulty
    else (PinDriver.arm faulty.pins port line armed).map id faulty.withPins
  set faulty pin := faulty.withPins (PinDriver.set faulty.pins pin)
  clear faulty pin := faulty.withPins (PinDriver.clear faulty.pins pin)
  toggle faulty pin := faulty.withPins (PinDriver.toggle faulty.pins pin)
  read faulty pin := PinDriver.read faulty.pins pin

instance : Stimulated FaultyPins where
  driveInput faulty pin high := (faulty.pins.driveInput pin high).map id faulty.withPins

end FaultyPins

end Instrument

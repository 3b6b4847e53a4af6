import Instrument.NosePoke.Boot

/-!
# Analog sampling

Every period the converter reads four inputs and the temperature sensor.  A frame
holds the four voltages, the temperature and an unused channel at zero; it exists
only if all five conversions succeed.  All arithmetic is in single precision, one
rounding for each operation.
-/

namespace Instrument.Firmware

/-- Milliseconds between two samples. -/
def samplePeriod : Nat := 10

/-- The results of five conversions: four inputs, then the temperature sensor; a
failed one has none. -/
abbrev Conversions := Vector (Option UInt16) 5

/-- A reading of the 12-bit converter in volts, by a reference of 3.3 volts. -/
def volts (reading : UInt16) : Rat :=
  Binary32.rounded
    (Binary32.rounded (reading.toNat * Binary32.rounded (mkRat 33 10)) / 4096)

/-- A reading of the temperature sensor in degrees Celsius: 0.706 volts at 27
degrees, and 1.721 millivolts less for each degree more. -/
def celsius (reading : UInt16) : Rat :=
  let above := Binary32.rounded (volts reading - Binary32.rounded (mkRat 706 1000))
  let degrees := Binary32.rounded (above / Binary32.rounded (mkRat 1721 1000000))
  Binary32.rounded (27 - degrees)

/-- The frame of five conversions, if all succeeded. -/
def frame? (conversions : Conversions) : Option (Vector Binary32 6) :=
  match conversions.toList with
  | [some first, some second, some third, some fourth, some temperature] =>
    some #v[.ofRat (volts first), .ofRat (volts second), .ofRat (volts third),
      .ofRat (volts fourth), .ofRat (celsius temperature), ⟨0⟩]
  | _ => none

/-- The signals after one sample period. -/
def sample (signals : Signals) (conversions : Conversions) : Signals :=
  match frame? conversions with
  | some frame => NosePoke.onAnalogFrame signals frame
  | none => signals

end Instrument.Firmware

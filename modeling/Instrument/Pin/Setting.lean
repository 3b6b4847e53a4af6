import Instrument.Text.Named

/-!
# Pin settings

How an input is pulled and what it senses, how an output is wired and whether it
can be read back, and the priority and line of a port interrupt.
-/

namespace Instrument

/-- How an input is held while nothing drives it. -/
inductive Pull where
  | up
  | down
  | floating
  | keeper
  deriving DecidableEq

instance : Inhabited Pull := ⟨.floating⟩

instance : Named Pull where
  all := [.up, .down, .floating, .keeper]
  name
    | .up => "PullUp"
    | .down => "PullDown"
    | .floating => "TriState"
    | .keeper => "BusHolder"

/-- How an output drives its pin: to both rails, or only to the dominant level of
a shared wire, with or without a pull to the other level. -/
inductive Wiring where
  | pushPull
  | wiredOr
  | wiredAnd
  | wiredOrPull
  | wiredAndPull
  deriving DecidableEq

instance : Inhabited Wiring := ⟨.pushPull⟩

instance : Named Wiring where
  all := [.pushPull, .wiredOr, .wiredAnd, .wiredOrPull, .wiredAndPull]
  name
    | .pushPull => "Digital"
    | .wiredOr => "WiredOr"
    | .wiredAnd => "WiredAnd"
    | .wiredOrPull => "WiredOrPull"
    | .wiredAndPull => "WiredAndPull"

/-- Whether the level of an output can be read back. -/
inductive Readback where
  | enabled
  | disabled
  deriving DecidableEq

instance : Inhabited Readback := ⟨.enabled⟩

instance : Named Readback where
  all := [.enabled, .disabled]
  name
    | .enabled => "Enabled"
    | .disabled => "Disabled"

/-- Priority of a port interrupt; `off` disables it. -/
inductive Priority where
  | off
  | low
  | medium
  | high
  deriving DecidableEq

instance : Inhabited Priority := ⟨.low⟩

instance : Named Priority where
  all := [.off, .low, .medium, .high]
  name
    | .off => "Off"
    | .low => "Low"
    | .medium => "Medium"
    | .high => "High"

/-- The two interrupt lines of a port. -/
inductive InterruptLine where
  | int0
  | int1
  deriving DecidableEq

instance : Inhabited InterruptLine := ⟨.int0⟩

instance : Named InterruptLine where
  all := [.int0, .int1]
  name
    | .int0 => "Int0"
    | .int1 => "Int1"

/-- An electrical condition on a pin that a chip can wait for. -/
inductive Trigger where
  | risingEdge
  | fallingEdge
  | anyEdge
  | low
  | high
  deriving DecidableEq

instance : Named Trigger where
  all := [.risingEdge, .fallingEdge, .anyEdge, .low, .high]
  name
    | .risingEdge => "RisingEdge"
    | .fallingEdge => "FallingEdge"
    | .anyEdge => "AnyEdge"
    | .low => "Low"
    | .high => "High"

/-- What the interrupt of an input reacts to, in the logic of the pin. -/
inductive Sense where
  | bothEdges
  | rising
  | falling
  | lowLevel
  deriving DecidableEq

instance : Inhabited Sense := ⟨.bothEdges⟩

instance : Named Sense where
  all := [.bothEdges, .rising, .falling, .lowLevel]
  name
    | .bothEdges => "BothEdges"
    | .rising => "Rising"
    | .falling => "Falling"
    | .lowLevel => "LowLevel"

namespace Sense

/-- Whether a step from logic level `was` to `now` sets the interrupt off. -/
def fires (sense : Sense) (was now : Bool) : Bool :=
  match sense with
  | .bothEdges => was != now
  | .rising => !was && now
  | .falling => was && !now
  | .lowLevel => !now

/-- The electrical condition to wait for; inverting the pin swaps the edges and
the level. -/
def trigger (sense : Sense) (inverted : Bool) : Trigger :=
  match sense, inverted with
  | .bothEdges, _ => .anyEdge
  | .rising, false => .risingEdge
  | .rising, true => .fallingEdge
  | .falling, false => .fallingEdge
  | .falling, true => .risingEdge
  | .lowLevel, false => .low
  | .lowLevel, true => .high

end Sense

end Instrument

import Instrument.Pin.Basic
import Instrument.Pin.Setting

/-!
# Port interrupts

Each port has two interrupt lines.  A line is armed with a priority, a mask of
pins and an inversion; of the lines that watch a pin, the first one counts.
-/

namespace Instrument

/-- What an interrupt line is armed with. -/
structure ArmedInterrupt where
  /-- The priority; `off` keeps the line from watching any pin. -/
  priority : Priority
  mask : BitVec 8
  /-- Whether the levels of the pins are inverted before sensing. -/
  inverted : Bool
  deriving DecidableEq

/-- Whether the interrupt is enabled and its mask selects the pin. -/
def ArmedInterrupt.watches (armed : ArmedInterrupt) (pin : Pin) : Bool :=
  armed.priority != .off && armed.mask &&& pin.mask != 0#8

/-- The interrupt lines of one port. -/
structure PortInterrupts where
  int0 : Option ArmedInterrupt := none
  int1 : Option ArmedInterrupt := none
  deriving DecidableEq, Inhabited

namespace PortInterrupts

def get (lines : PortInterrupts) : InterruptLine → Option ArmedInterrupt
  | .int0 => lines.int0
  | .int1 => lines.int1

/-- Arm a line. -/
def arm (lines : PortInterrupts) (line : InterruptLine) (armed : ArmedInterrupt) :
    PortInterrupts :=
  match line with
  | .int0 => { lines with int0 := some armed }
  | .int1 => { lines with int1 := some armed }

/-- The first line, with what it is armed with, for which the test holds. -/
def firstLine? (lines : PortInterrupts) (test : ArmedInterrupt → Bool) :
    Option (InterruptLine × ArmedInterrupt) :=
  [InterruptLine.int0, .int1].findSome? fun line =>
    ((lines.get line).filter test).map fun armed => (line, armed)

/-- The first line that watches the pin. -/
def watching? (lines : PortInterrupts) (pin : Pin) : Option (InterruptLine × ArmedInterrupt) :=
  lines.firstLine? fun armed => armed.watches pin

theorem get_arm (lines : PortInterrupts) (line other : InterruptLine) (armed : ArmedInterrupt) :
    (lines.arm line armed).get other = if other = line then some armed else lines.get other := by
  cases line <;> cases other <;> rfl

theorem ext_get {first second : PortInterrupts} (same : ∀ line, first.get line = second.get line) :
    first = second := by
  obtain ⟨first0, first1⟩ := first
  obtain ⟨second0, second1⟩ := second
  have int0 : first0 = second0 := same .int0
  have int1 : first1 = second1 := same .int1
  rw [int0, int1]

end PortInterrupts

/-- The interrupt lines of every port. -/
structure InterruptTable where
  ports : Vector PortInterrupts Port.count
  deriving DecidableEq

namespace InterruptTable

/-- No line of any port is armed. -/
def empty : InterruptTable := ⟨Vector.replicate _ {}⟩

def get (table : InterruptTable) (port : Port) : PortInterrupts := table.ports[port.index]

def arm (table : InterruptTable) (port : Port) (line : InterruptLine) (armed : ArmedInterrupt) :
    InterruptTable :=
  ⟨table.ports.set port.index ((table.get port).arm line armed)⟩

theorem get_arm (table : InterruptTable) (port other : Port) (line : InterruptLine)
    (armed : ArmedInterrupt) :
    (table.arm port line armed).get other =
      if other = port then (table.get port).arm line armed else table.get other := by
  by_cases same : other = port
  · subst same
    simp [arm, get]
  · have apart : (port.index : Nat) ≠ other.index := fun equal =>
      same (Port.index_injective (Fin.ext equal.symm))
    simp [arm, get, same, apart]

theorem ext_get {first second : InterruptTable}
    (same : ∀ port line, (first.get port).get line = (second.get port).get line) :
    first = second := by
  obtain ⟨firstPorts⟩ := first
  obtain ⟨secondPorts⟩ := second
  congr 1
  apply Vector.ext
  intro row inRange
  obtain ⟨port, rfl⟩ := Port.exists_index_eq inRange
  exact PortInterrupts.ext_get (same port)

end InterruptTable

end Instrument

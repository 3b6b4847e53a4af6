import Instrument.Pin.Basic
import Instrument.Register.Rule
import Instrument.Signals

/-!
# Register behaviours

Each register behaves in one of a fixed number of ways.  Its behaviour says where
a read gets the value from and what a write checks and sets in motion.
-/

namespace Instrument

/-- How a register reads and writes. -/
inductive Behaviour where
  /-- Bit `i` follows the level of the `i`-th pin; read only. -/
  | pins (inputs : List Pin)
  /-- A copy of a range of the latch; read only. -/
  | latch (window : LatchWindow)
  /-- Loaded once, never changed; read only. -/
  | constant
  /-- Stored as written, after the rule. -/
  | setting (rule : Rule)
  /-- Stored as written, after the rule; bit `i` drives the `i`-th line. -/
  | drive (rule : Rule) (lines : List OutputLine)
  /-- Stored as written, after the rule; the value is the length in milliseconds of
  a pulse on the line. -/
  | pulse (rule : Rule) (line : OutputLine)
  /-- A counter of the interrupt routines, which a write of zeros resets if it is
  resettable. -/
  | counter (index : Nat) (resettable : Bool)

namespace Behaviour

/-- Whether a write on the bus can ever succeed. -/
def acceptsWrites : Behaviour → Bool
  | .pins _ | .latch _ | .constant => false
  | .setting _ | .drive _ _ | .pulse _ _ => true
  | .counter _ resettable => resettable

/-- The lines that a write drives. -/
def lines : Behaviour → List OutputLine
  | .drive _ lines => lines
  | .pulse _ line => [line]
  | _ => []

end Behaviour

end Instrument

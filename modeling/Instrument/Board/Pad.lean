import Instrument.Pin.Setting

/-!
# Pads

A pad is the electrical side of one chip pin: an output driver with its latch, a
pull, and whatever the world outside applies to it.
-/

namespace Instrument.Board

/-- The pull of a pad. -/
inductive PadPull where
  | none
  | up
  | down
  deriving DecidableEq, Inhabited

instance : Named PadPull where
  all := [.none, .up, .down]
  name
    | .none => "None"
    | .up => "Up"
    | .down => "Down"

/-- The state of a pad.  After reset it is an input, its latch is low, and neither a
pull nor anything outside acts on it. -/
structure Pad where
  driving : Bool := false
  /-- The level the output driver drives, kept while it is off. -/
  latch : Bool := false
  pull : PadPull := .none
  external : Option Bool := .none
  deriving DecidableEq, Inhabited

namespace Pad

/-- The level of the pad: the latch while it drives, else the level applied from
outside, else the level it is pulled to, else low. -/
def level (pad : Pad) : Bool :=
  if pad.driving then pad.latch
  else pad.external.getD (pad.pull == .up)

/-- The text of a pad: direction, latch, pull and level. -/
def text (pad : Pad) : String :=
  String.intercalate " " [if pad.driving then "out" else "in", toString pad.latch.toNat,
    Named.name pad.pull, toString pad.level.toNat]

end Pad

end Instrument.Board

import Instrument.Element.Kind

/-!
# Register descriptions

What the bus knows of a register: its address, name, kind and number of elements,
and what may be done with it.
-/

namespace Instrument

/-- The operations that a register supports on the bus. -/
structure Access where
  read : Bool := false
  write : Bool := false
  /-- The register may be reported unasked. -/
  event : Bool := false
  deriving DecidableEq, Inhabited

namespace Access

/-- Everything that either of two allows. -/
def union (first second : Access) : Access where
  read := first.read || second.read
  write := first.write || second.write
  event := first.event || second.event

/-- Whether all that the second allows, the first allows too. -/
def includes (first second : Access) : Bool :=
  (first.read || !second.read) && (first.write || !second.write) &&
    (first.event || !second.event)

/-- The flags as bits: read, write and event from the lowest up. -/
def bits (access : Access) : Nat :=
  access.read.toNat + 2 * access.write.toNat + 4 * access.event.toNat

/-- The letters of the flags: `R`, `W` and `E`, in that order. -/
def letters (access : Access) : String :=
  (if access.read then "R" else "") ++ (if access.write then "W" else "") ++
    (if access.event then "E" else "")

/-- The access that some letters stand for; other letters are passed over. -/
def ofLetters (text : String) : Access where
  read := text.toList.contains 'R'
  write := text.toList.contains 'W'
  event := text.toList.contains 'E'

end Access

/-- The description of one register. -/
structure Descriptor where
  address : UInt8
  name : String
  kind : Element.Kind
  /-- The number of its elements, one for a scalar. -/
  count : Nat := 1
  access : Access
  deriving DecidableEq

namespace Descriptor

def size (descriptor : Descriptor) : Nat := descriptor.count * descriptor.kind.width

def isArray (descriptor : Descriptor) : Bool := decide (1 < descriptor.count)

end Descriptor

end Instrument

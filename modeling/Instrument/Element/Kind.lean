import Instrument.Binary32
import Instrument.Bytes
import Instrument.Text.Named

/-!
# Kinds of register elements

A register holds elements of one kind: an unsigned or signed integer of one, two,
four or eight bytes, or a single-precision number.  Elements are packed lowest
byte first.  Here a kind is read off bytes whose length need not match: missing
bytes count as zero, and bytes past the element are not looked at.
-/

namespace Instrument.Element

/-- How many bytes an integer element takes. -/
inductive Width where
  | one
  | two
  | four
  | eight
  deriving DecidableEq, Inhabited

def Width.bytes : Width → Nat
  | .one => 1
  | .two => 2
  | .four => 4
  | .eight => 8

/-- What the elements of a register are. -/
inductive Kind where
  | unsigned (width : Width)
  | signed (width : Width)
  | float
  deriving DecidableEq, Inhabited

namespace Kind

/-- Bytes in one element. -/
def width : Kind → Nat
  | .unsigned width => width.bytes
  | .signed width => width.bytes
  | .float => 4

theorem width_pos (kind : Kind) : 0 < kind.width := by
  rcases kind with (_ | _ | _ | _) | (_ | _ | _ | _) | _ <;> decide

theorem width_le_eight (kind : Kind) : kind.width ≤ 8 := by
  rcases kind with (_ | _ | _ | _) | (_ | _ | _ | _) | _ <;> decide

/-- Whether the elements are two's-complement integers. -/
def isSigned : Kind → Bool
  | .signed _ => true
  | _ => false

def isInteger : Kind → Bool
  | .float => false
  | _ => true

/-- The code of a kind on the bus: its width, with bit 7 set for signed integers
and bit 6 for single-precision numbers. -/
def code : Kind → UInt8
  | .unsigned width => UInt8.ofNat width.bytes
  | .signed width => UInt8.ofNat width.bytes ||| 0x80
  | .float => 4 ||| 0x40

/-- The kind that a code on the bus stands for. -/
def ofCode? (code : UInt8) : Option Kind :=
  match code.toNat with
  | 0x01 => some (.unsigned .one)
  | 0x02 => some (.unsigned .two)
  | 0x04 => some (.unsigned .four)
  | 0x08 => some (.unsigned .eight)
  | 0x81 => some (.signed .one)
  | 0x82 => some (.signed .two)
  | 0x84 => some (.signed .four)
  | 0x88 => some (.signed .eight)
  | 0x44 => some .float
  | _ => none

instance : Named Kind where
  all := [.unsigned .one, .unsigned .two, .unsigned .four, .unsigned .eight,
    .signed .one, .signed .two, .signed .four, .signed .eight, .float]
  name
    | .unsigned .one => "U8"
    | .unsigned .two => "U16"
    | .unsigned .four => "U32"
    | .unsigned .eight => "U64"
    | .signed .one => "I8"
    | .signed .two => "I16"
    | .signed .four => "I32"
    | .signed .eight => "I64"
    | .float => "Float"

/-- The bits of the first element, as a number. -/
def bits (kind : Kind) (bytes : Bytes) : Nat :=
  Bytes.ofLittleEndian (bytes.take kind.width)

/-- Replace the first element by the low bits of a number; the bytes after it
stay, and a buffer shorter than an element takes the low bytes it has room for. -/
def putBits (kind : Kind) (value : Nat) (buffer : Bytes) : Bytes :=
  Bytes.overwrite buffer 0 (Bytes.littleEndian kind.width value)

/-- The integer in the first element; a single-precision element holds none. -/
def integer? (kind : Kind) (bytes : Bytes) : Option Int :=
  match kind with
  | .unsigned _ => some (kind.bits bytes)
  | .signed _ => some (Int.bmod (kind.bits bytes) (1 <<< (8 * kind.width)))
  | .float => none

/-- The single-precision number in the first element; an integer element holds
none. -/
def float? (kind : Kind) (bytes : Bytes) : Option Binary32 :=
  match kind with
  | .float => some ⟨UInt32.ofNat (kind.bits bytes)⟩
  | _ => none

/-- The whole elements of a payload, in order; a trailing part of one is left out. -/
def elements (kind : Kind) (payload : Bytes) : List Bytes :=
  Bytes.blocks kind.width (payload.length / kind.width) payload

end Kind

end Instrument.Element

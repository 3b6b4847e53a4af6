import Instrument.Text.Named

/-!
# Pins

A pin is one bit of an input/output port.  A port has eight pins; a pin with a
higher bit position can be named but does not exist.
-/

namespace Instrument

/-- The input/output ports. -/
inductive Port where
  | a | b | c | d | e | f | h | j | k | q | r
  deriving DecidableEq, Inhabited

namespace Port

abbrev count : Nat := 11

abbrev pinCount : Nat := 8

/-- The place of a port in tables over all ports. -/
def index : Port → Fin count
  | .a => 0
  | .b => 1
  | .c => 2
  | .d => 3
  | .e => 4
  | .f => 5
  | .h => 6
  | .j => 7
  | .k => 8
  | .q => 9
  | .r => 10

instance : Named Port where
  all := [.a, .b, .c, .d, .e, .f, .h, .j, .k, .q, .r]
  name
    | .a => "A"
    | .b => "B"
    | .c => "C"
    | .d => "D"
    | .e => "E"
    | .f => "F"
    | .h => "H"
    | .j => "J"
    | .k => "K"
    | .q => "Q"
    | .r => "R"

def all : List Port := Named.all

theorem index_injective {first second : Port} (same : first.index = second.index) :
    first = second := by
  cases first <;> cases second <;> first | rfl | cases same

theorem exists_index_eq {row : Nat} (inRange : row < count) :
    ∃ port : Port, (port.index : Nat) = row := by
  match row, inRange with
  | 0, _ => exact ⟨.a, rfl⟩
  | 1, _ => exact ⟨.b, rfl⟩
  | 2, _ => exact ⟨.c, rfl⟩
  | 3, _ => exact ⟨.d, rfl⟩
  | 4, _ => exact ⟨.e, rfl⟩
  | 5, _ => exact ⟨.f, rfl⟩
  | 6, _ => exact ⟨.h, rfl⟩
  | 7, _ => exact ⟨.j, rfl⟩
  | 8, _ => exact ⟨.k, rfl⟩
  | 9, _ => exact ⟨.q, rfl⟩
  | 10, _ => exact ⟨.r, rfl⟩

end Port

/-- A pin: a port and a bit position on it. -/
structure Pin where
  port : Port
  /-- The bit position, `0` to `7` for a pin that exists. -/
  bit : Nat
  deriving DecidableEq, Inhabited

namespace Pin

/-- Whether the pin exists on its port. -/
def isReal (pin : Pin) : Bool := decide (pin.bit < Port.pinCount)

/-- The port mask that selects the pin. -/
def mask (pin : Pin) : BitVec 8 := BitVec.twoPow 8 (pin.bit % Port.pinCount)

def text (pin : Pin) : String := Named.name pin.port ++ toString pin.bit

/-- The pin that the characters of a name stand for; the bit position is a byte. -/
def ofCharacters? : List Char → Option Pin
  | [] => none
  | letter :: digits =>
    match (Named.ofName? letter.toString : Option Port), (String.ofList digits).toNat? with
    | some port, some bit => if bit < 256 then some ⟨port, bit⟩ else none
    | _, _ => none

def ofText? (text : String) : Option Pin := ofCharacters? text.toList

/-- Pins in table order: by port, then by bit position. -/
def comesBefore (first second : Pin) : Bool :=
  decide (first.port.index < second.port.index) ||
    (first.port == second.port && decide (first.bit ≤ second.bit))

/-- Sort pins into table order. -/
def sort (pins : List Pin) : List Pin := pins.mergeSort comesBefore

/-- Every pin that exists, in table order. -/
def all : List Pin :=
  Port.all.flatMap fun port => (List.range Port.pinCount).map fun bit => ⟨port, bit⟩

end Pin

/-- A pin driven as a logical output: active means high, or low when inverted. -/
structure OutputLine where
  pin : Pin
  /-- Whether the line is active when the pin is low. -/
  inverted : Bool := false
  deriving DecidableEq, Inhabited

namespace OutputLine

/-- The electrical level that makes a line active or inactive. -/
def level (line : OutputLine) (active : Bool) : Bool := active != line.inverted

def text (line : OutputLine) : String :=
  (if line.inverted then "!" else "") ++ line.pin.text

def ofText? (text : String) : Option OutputLine :=
  match text.toList with
  | '!' :: rest => (Pin.ofCharacters? rest).map fun pin => ⟨pin, true⟩
  | characters => (Pin.ofCharacters? characters).map fun pin => ⟨pin, false⟩

end OutputLine

end Instrument

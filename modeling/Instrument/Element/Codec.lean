import Instrument.Element.Kind

/-!
# Fixed-width element values

A value of a fixed-width type is stored as one machine word, lowest byte first.
`Element` ties such a type to its kind by a bijection with words of that width;
the codec reads and writes single values, and whole lists of them, through it.
Unlike the readings of `Kind`, the codec insists on enough bytes.
-/

namespace Instrument

/-- A type whose values are the words of one kind of element. -/
class Element (α : Type) where
  kind : Element.Kind
  /-- The value a word stands for. -/
  ofWord : BitVec (8 * kind.width) → α
  toWord : α → BitVec (8 * kind.width)
  /-- The value as a number: an integer itself, a single-precision number its
  pattern. -/
  toInt : α → Int
  /-- The value that a number stands for, taken modulo the word size. -/
  ofInt : Int → α
  ofWord_toWord : ∀ value, ofWord (toWord value) = value
  toWord_ofWord : ∀ word, toWord (ofWord word) = word

namespace Element

/-- Join bytes, lowest first, into a word; missing bytes count as zero. -/
def joinWord : (width : Nat) → Bytes → BitVec (8 * width)
  | 0, _ => 0#0
  | _ + 1, [] => 0#_
  | width + 1, byte :: rest => (joinWord width rest ++ byte.toBitVec : BitVec (8 * width + 8))

/-- Split a word into its bytes, lowest first. -/
def splitWord : (width : Nat) → BitVec (8 * width) → Bytes
  | 0, _ => []
  | width + 1, word =>
    UInt8.ofBitVec (word.setWidth 8) :: splitWord width (word.extractLsb' 8 (8 * width))

@[simp] theorem length_splitWord (width : Nat) (word : BitVec (8 * width)) :
    (splitWord width word).length = width := by
  induction width with
  | zero => rfl
  | succ width ih => simp [splitWord, ih]

variable {α : Type} [Element α]

def toBytes (value : α) : Bytes := splitWord (kind α).width (toWord value)

/-- The value that the leading bytes hold, if there are enough of them. -/
def read? (α : Type) [Element α] (bytes : Bytes) : Option α :=
  if (kind α).width ≤ bytes.length then
    some (ofWord (joinWord (kind α).width bytes))
  else
    none

/-- Write a value over the leading bytes of a buffer, if they are enough. -/
def write? (value : α) (buffer : Bytes) : Option Bytes :=
  if (kind α).width ≤ buffer.length then
    some (Bytes.overwrite buffer 0 (toBytes value))
  else
    none

/-- Number of positions in memory: a position is a 64-bit machine word. -/
abbrev positionCount : Nat := 0x10000000000000000

/-- Why an element cannot be looked for at all. -/
inductive PositionError where
  /-- The end of the element is not a position. -/
  | overflow
  deriving DecidableEq

/-- The element at an index of a view, if the view reaches as far as its end.  The
end has to be a position, also where the view is too short. -/
def decodeAt (α : Type) [Element α] (view : Bytes) (index : Nat) :
    Except PositionError (Option α) :=
  let start := index * (kind α).width
  let stop := (index + 1) * (kind α).width
  if stop < positionCount then .ok ((Bytes.slice? view start stop).bind (read? α))
  else .error .overflow

/-- Write values back to back over the start of a buffer, if it has room for all
of them; the answer is the number of bytes written and the buffer after. -/
def encode? (values : List α) (buffer : Bytes) : Option (Nat × Bytes) :=
  let size := values.length * (kind α).width
  if size ≤ buffer.length then
    some (size, Bytes.overwrite buffer 0 (values.flatMap toBytes))
  else
    none

instance : Element UInt8 where
  kind := .unsigned .one
  ofWord word := UInt8.ofBitVec word
  toWord value := value.toBitVec
  toInt value := value.toNat
  ofInt number := UInt8.ofBitVec (BitVec.ofInt 8 number)
  ofWord_toWord _ := rfl
  toWord_ofWord _ := rfl

instance : Element UInt16 where
  kind := .unsigned .two
  ofWord word := UInt16.ofBitVec word
  toWord value := value.toBitVec
  toInt value := value.toNat
  ofInt number := UInt16.ofBitVec (BitVec.ofInt 16 number)
  ofWord_toWord _ := rfl
  toWord_ofWord _ := rfl

instance : Element UInt32 where
  kind := .unsigned .four
  ofWord word := UInt32.ofBitVec word
  toWord value := value.toBitVec
  toInt value := value.toNat
  ofInt number := UInt32.ofBitVec (BitVec.ofInt 32 number)
  ofWord_toWord _ := rfl
  toWord_ofWord _ := rfl

instance : Element UInt64 where
  kind := .unsigned .eight
  ofWord word := UInt64.ofBitVec word
  toWord value := value.toBitVec
  toInt value := value.toNat
  ofInt number := UInt64.ofBitVec (BitVec.ofInt 64 number)
  ofWord_toWord _ := rfl
  toWord_ofWord _ := rfl

instance : Element Int8 where
  kind := .signed .one
  ofWord word := Int8.ofBitVec word
  toWord value := value.toBitVec
  toInt value := value.toInt
  ofInt number := Int8.ofBitVec (BitVec.ofInt 8 number)
  ofWord_toWord _ := rfl
  toWord_ofWord _ := rfl

instance : Element Int16 where
  kind := .signed .two
  ofWord word := Int16.ofBitVec word
  toWord value := value.toBitVec
  toInt value := value.toInt
  ofInt number := Int16.ofBitVec (BitVec.ofInt 16 number)
  ofWord_toWord _ := rfl
  toWord_ofWord _ := rfl

instance : Element Int32 where
  kind := .signed .four
  ofWord word := Int32.ofBitVec word
  toWord value := value.toBitVec
  toInt value := value.toInt
  ofInt number := Int32.ofBitVec (BitVec.ofInt 32 number)
  ofWord_toWord _ := rfl
  toWord_ofWord _ := rfl

instance : Element Int64 where
  kind := .signed .eight
  ofWord word := Int64.ofBitVec word
  toWord value := value.toBitVec
  toInt value := value.toInt
  ofInt number := Int64.ofBitVec (BitVec.ofInt 64 number)
  ofWord_toWord _ := rfl
  toWord_ofWord _ := rfl

instance : Element Binary32 where
  kind := .float
  ofWord word := ⟨UInt32.ofBitVec word⟩
  toWord value := value.pattern.toBitVec
  toInt value := value.pattern.toNat
  ofInt number := ⟨UInt32.ofBitVec (BitVec.ofInt 32 number)⟩
  ofWord_toWord _ := rfl
  toWord_ofWord _ := rfl

/-- Use the fixed-width type that holds the elements of a kind. -/
def Kind.withType {β : Type} (kind : Kind) (use : (α : Type) → [Element α] → β) : β :=
  match kind with
  | .unsigned .one => use UInt8
  | .unsigned .two => use UInt16
  | .unsigned .four => use UInt32
  | .unsigned .eight => use UInt64
  | .signed .one => use Int8
  | .signed .two => use Int16
  | .signed .four => use Int32
  | .signed .eight => use Int64
  | .float => use Binary32

end Element

end Instrument

import Instrument.Text.Hexadecimal
import Instrument.Text.Named

/-!
# Documents

A document is a value of an exchange format: nothing, a truth value, an integer,
some other number, a text, a list, or a record of named fields.  Settings are
written as documents and read back from them.  A record is read from its fields by
name, unknown ones ignored, or from a list that holds exactly its fields in order.
-/

namespace Instrument

/-- A value of the exchange format. -/
inductive Document where
  | nothing
  | truth (value : Bool)
  | integer (value : Int)
  /-- A number that is not written as an integer; no setting holds one. -/
  | fractional
  | text (value : String)
  | list (items : List Document)
  | record (fields : List (String × Document))
  deriving Inhabited

namespace Document

/-- The value of a field of a record. -/
def field? (fields : List (String × Document)) (name : String) : Option Document :=
  fields.lookup name

/-- The values of the named fields, in the order of the names, from a record or
from a list of just as many values. -/
def fields? (names : List String) : Document → Option (List Document)
  | .record fields => names.mapM (field? fields)
  | .list items => if items.length = names.length then some items else none
  | _ => none

def toTruth? : Document → Option Bool
  | .truth value => some value
  | _ => none

/-- An integer that fits one byte without a sign. -/
def toByte? : Document → Option Nat
  | .integer value => if 0 ≤ value ∧ value < 256 then some value.toNat else none
  | _ => none

/-- A value with a name: the name itself, or a record of that one name and
nothing. -/
def toNamed? {α : Type} [Named α] : Document → Option α
  | .text name => Named.ofName? name
  | .record [(name, .nothing)] => Named.ofName? name
  | _ => none

/-- The document of a value with a name. -/
def ofNamed {α : Type} [Named α] (value : α) : Document := .text (Named.name value)

def ofNat (value : Nat) : Document := .integer value

/-- The document of bytes: their text in hexadecimal. -/
def ofBytes (bytes : Bytes) : Document := .text bytes.hex

/-- The document of a value that may be missing. -/
def ofOption {α : Type} (toDocument : α → Document) : Option α → Document
  | some value => toDocument value
  | none => .nothing

/-- The document of a list, item by item. -/
def ofList {α : Type} (toDocument : α → Document) (items : List α) : Document :=
  .list (items.map toDocument)

end Document

end Instrument

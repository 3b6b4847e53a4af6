import Instrument.Element.Kind
import Instrument.Text.Escape

/-!
# Rules for payloads

Before a payload is stored it is checked against the rule of its register.  Most
rules look at each whole element by itself; a custom rule looks at the payload.
-/

namespace Instrument

/-- The bits of an element that carry meaning. -/
structure BitField where
  name : String
  bits : Nat
  deriving DecidableEq

/-- Whether a value sets no bit outside the field. -/
def BitField.covers (field : BitField) (value : Nat) : Bool := value &&& field.bits == value

/-- A field whose value must be one of a list. -/
structure FieldChoice where
  field : BitField
  /-- The values allowed, in their place in the field. -/
  values : List Nat
  deriving DecidableEq

/-- Whether a value lies in the field and is one of those allowed. -/
def FieldChoice.admits (choice : FieldChoice) (value : Nat) : Bool :=
  choice.field.covers value && choice.values.contains value

/-- A check on payloads. -/
inductive Rule where
  | any
  /-- Each element sets only bits of the field. -/
  | within (field : BitField)
  /-- Each element is one of the values of the choice. -/
  | oneOf (choice : FieldChoice)
  /-- Each element lies between two bounds, both included. -/
  | between (low high : Int)
  /-- The payload as a whole passes a check of its own. -/
  | custom (check : Bytes → Bool)

namespace Rule

/-- The rule that a payload starts with an even byte. -/
def evenStart : Rule := .custom fun payload => payload.head?.any fun first => first % 2 == 0

/-- Whether one element lies between two bounds.  For a single-precision element
both bounds are rounded to single precision before comparing. -/
def elementBetween (kind : Element.Kind) (low high : Int) (element : Bytes) : Bool :=
  match kind.integer? element with
  | some value => decide (low ≤ value ∧ value ≤ high)
  | none => (kind.float? element).any (·.liesBetween low high)

/-- Whether a payload for elements of a kind passes the rule.  Rules on bits pass
no single-precision payload, not even an empty one. -/
def accepts (rule : Rule) (kind : Element.Kind) (payload : Bytes) : Bool :=
  match rule with
  | .any => true
  | .within field =>
    kind.isInteger && (kind.elements payload).all fun element => field.covers (kind.bits element)
  | .oneOf choice =>
    kind.isInteger && (kind.elements payload).all fun element => choice.admits (kind.bits element)
  | .between low high => (kind.elements payload).all (elementBetween kind low high)
  | .custom check => check payload

/-- A record in one line: its name, then its fields in braces. -/
def recordText (name : String) (fields : List (String × String)) : String :=
  name ++ " \x7b " ++ String.intercalate ", " (fields.map fun (key, value) => key ++ ": " ++ value)
    ++ " \x7d"

def fieldText (field : BitField) : String :=
  recordText "BitMask" [("name", Text.quoted field.name), ("bits", toString field.bits)]

def choiceText (choice : FieldChoice) : String :=
  recordText "GroupMask" [("field", fieldText choice.field),
    ("values", "[" ++ String.intercalate ", " (choice.values.map toString) ++ "]")]

/-- The description of a rule, in one line. -/
def text : Rule → String
  | .any => "Any"
  | .within field => "Mask(" ++ fieldText field ++ ")"
  | .oneOf choice => "OneOf(" ++ choiceText choice ++ ")"
  | .between low high => recordText "Range" [("min", toString low), ("max", toString high)]
  | .custom _ => "Custom"

end Rule

end Instrument

/-!
# Types with named values

A setting is written by the name of its value.  A `Named` type lists its values
and gives each a name; `ofName?` finds the value a name stands for.
-/

namespace Instrument

/-- A type whose values are listed, each with a name of its own. -/
class Named (α : Type) where
  all : List α
  name : α → String

namespace Named

/-- The first value with the given name. -/
def ofName? {α : Type} [Named α] (text : String) : Option α :=
  (Named.all (α := α)).find? fun value => Named.name value == text

end Named

end Instrument

import Instrument.Text.Unprintable

/-!
# Quoted text

`quoted` writes text between quotation marks so that it stays on one line and every
character of it shows: a quotation mark, a backslash and the common control
characters are escaped by a backslash, and other characters that are not shown by
their hexadecimal code in braces.
-/

namespace Instrument.Text

/-- The hexadecimal digits of a number, in lower case. -/
def hexadecimal (number : Nat) : String := String.ofList (Nat.toDigits 16 number)

/-- A character as it stands in quoted text. -/
def escaped (character : Char) : String :=
  match character with
  | '"' => "\\\""
  | '\\' => "\\\\"
  | '\n' => "\\n"
  | '\r' => "\\r"
  | '\t' => "\\t"
  | '\x00' => "\\0"
  | _ =>
    if isUnprintable character then
      "\\u\x7b" ++ hexadecimal character.toNat ++ "\x7d"
    else
      character.toString

/-- Text between quotation marks, on one line. -/
def quoted (text : String) : String :=
  "\"" ++ String.join (text.toList.map escaped) ++ "\""

end Instrument.Text

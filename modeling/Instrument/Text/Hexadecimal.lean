import Instrument.Bytes

/-!
# Bytes in hexadecimal

A byte sequence is written as two digits for each byte, the high digit first and
letters in lower case.  Capital letters are read as well.
-/

namespace Instrument.Bytes

/-- The digit of a number below sixteen. -/
def hexDigit (value : Nat) : Char :=
  Char.ofNat (if value < 10 then '0'.toNat + value else 'a'.toNat + (value - 10))

/-- The number a digit stands for. -/
def ofHexDigit? (digit : Char) : Option Nat :=
  if '0' ≤ digit ∧ digit ≤ '9' then some (digit.toNat - '0'.toNat)
  else if 'a' ≤ digit ∧ digit ≤ 'f' then some (digit.toNat - 'a'.toNat + 10)
  else if 'A' ≤ digit ∧ digit ≤ 'F' then some (digit.toNat - 'A'.toNat + 10)
  else none

/-- The digits of bytes. -/
def hexDigits (bytes : Bytes) : List Char :=
  bytes.flatMap fun byte => [hexDigit (byte.toNat / 16), hexDigit (byte.toNat % 16)]

/-- The bytes that digits stand for, if they come in pairs. -/
def ofHexDigits? : List Char → Option Bytes
  | [] => some []
  | [_] => none
  | high :: low :: rest =>
    match ofHexDigit? high, ofHexDigit? low, ofHexDigits? rest with
    | some high, some low, some bytes => some (UInt8.ofNat (16 * high + low) :: bytes)
    | _, _, _ => none

def hex (bytes : Bytes) : String := String.ofList (hexDigits bytes)

/-- The bytes that a text in hexadecimal stands for. -/
def ofHex? (text : String) : Option Bytes := ofHexDigits? text.toList

end Instrument.Bytes

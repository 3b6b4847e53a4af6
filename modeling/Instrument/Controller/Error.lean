import Instrument.Pin.Driver

/-!
# Errors of the register controller

A request that cannot be served changes nothing and names its cause.  A layout
that does not fit its store, or a set-up that fails, keeps the device from
starting at all.
-/

namespace Instrument

/-- Why a read or a write was refused. -/
inductive RequestError where
  | invalidAddress (address : UInt8)
  | sizeMismatch (expected actual : Nat)
  | rejected
  deriving DecidableEq

def RequestError.message : RequestError → String
  | .invalidAddress address => "invalid address " ++ toString address.toNat
  | .sizeMismatch expected actual =>
    "size mismatch: expected " ++ toString expected ++ " bytes, got " ++ toString actual
  | .rejected => "rejected by handler"

/-- Why a layout cannot be bound to a store. -/
inductive BindError where
  | sizeMismatch (required provided : Nat)
  | tooManyRegisters (count : Nat)
  deriving DecidableEq

def BindError.message : BindError → String
  | .sizeMismatch required provided =>
    "register map needs " ++ toString required ++ " bytes, store has " ++ toString provided
  | .tooManyRegisters count => toString count ++ " registers exceed limit"

/-- Why a device did not start. -/
inductive BootError where
  | pins (cause : PinError)
  | layout (cause : BindError)
  | contents (cause : RequestError)
  deriving DecidableEq

/-- The text of a boot error, which ends in that of its cause. -/
def BootError.message : BootError → String
  | .pins cause => "pin configuration failed: " ++ cause.message
  | .layout cause => "register layout invalid: " ++ cause.message
  | .contents cause => "register default failed: " ++ cause.message

end Instrument

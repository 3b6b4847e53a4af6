import Instrument.Controller.Basic
import Instrument.Identity
import Instrument.Pin.Document

/-!
# Registers and errors as documents

The documents of identities, register descriptions and layouts, and of the errors
of the controller.  The document of an error names its kind, then its data, then the
whole message.
-/

namespace Instrument

def Version.toDocument (version : Version) : Document :=
  .record [("major", .ofNat version.major.toNat), ("minor", .ofNat version.minor.toNat)]

def Identity.toDocument (identity : Identity) : Document :=
  .record [("who_am_i", .ofNat identity.deviceType.toNat),
    ("hardware", identity.hardware.toDocument), ("firmware", identity.firmware.toDocument),
    ("assembly", .ofNat identity.assembly.toNat)]

/-- A register description as a record. -/
def Descriptor.toDocument (descriptor : Descriptor) : Document :=
  .record [("address", .ofNat descriptor.address.toNat), ("name", .text descriptor.name),
    ("ty", .ofNamed descriptor.kind), ("count", .ofNat descriptor.count),
    ("access", .text descriptor.access.letters), ("size_bytes", .ofNat descriptor.size),
    ("is_array", .truth descriptor.isArray)]

namespace Layout

/-- A register of a layout: its description, its place in the store, and whether it
accepts writes. -/
def registerDocument (layout : Layout) (index : Fin layout.size) : Document :=
  let register := layout.register index
  .list [register.descriptor.toDocument, .ofNat (layout.start index), .ofNat (layout.stop index),
    .truth register.behaviour.acceptsWrites]

/-- The address of a register and its place in the store. -/
def spanDocument (layout : Layout) (index : Fin layout.size) : Document :=
  .list [.ofNat (layout.addressOf index).toNat, .ofNat (layout.start index),
    .ofNat (layout.stop index)]

/-- The fields that sum up a layout. -/
def fields (layout : Layout) : List (String × Document) :=
  [("min", .ofNat layout.minAddress.toNat), ("max", .ofNat layout.maxAddress.toNat),
    ("len", .ofNat layout.size), ("empty", .truth layout.registers.isEmpty),
    ("total_bytes", .ofNat layout.totalBytes),
    ("spans", .ofList layout.spanDocument (List.finRange layout.size))]

end Layout

/-- The document of an error: its kind, its data and its message. -/
def errorDocument (kind : String) (data : List (String × Document)) (message : String) :
    Document :=
  .record (("error", .text kind) :: data ++ [("message", .text message)])

def PinError.toDocument (reason : PinError) : Document :=
  match reason with
  | .missingPin pin => errorDocument "InvalidPin" [("pin", .text pin.text)] reason.message
  | .emptyMask port => errorDocument "EmptyMask" [("port", .ofNamed port)] reason.message

def RequestError.toDocument (reason : RequestError) : Document :=
  match reason with
  | .invalidAddress address =>
    errorDocument "InvalidAddress" [("address", .ofNat address.toNat)] reason.message
  | .sizeMismatch expected actual =>
    errorDocument "SizeMismatch" [("expected", .ofNat expected), ("actual", .ofNat actual)]
      reason.message
  | .rejected => errorDocument "Rejected" [] reason.message

def BindError.toDocument (reason : BindError) : Document :=
  match reason with
  | .sizeMismatch required provided =>
    errorDocument "LayoutSizeMismatch"
      [("required", .ofNat required), ("provided", .ofNat provided)] reason.message
  | .tooManyRegisters count =>
    errorDocument "TooManyRegisters" [("count", .ofNat count)] reason.message

/-- A boot error as a record, with that of its cause. -/
def BootError.toDocument (reason : BootError) : Document :=
  match reason with
  | .pins cause => errorDocument "InitPin" [("cause", cause.toDocument)] reason.message
  | .layout cause => errorDocument "InitLayout" [("cause", cause.toDocument)] reason.message
  | .contents cause => errorDocument "InitDefault" [("cause", cause.toDocument)] reason.message

end Instrument

import Instrument.Bytes

/-!
# Device identity

A device names its type, its hardware and firmware versions and its assembly in
seven bytes, which stand at the start of its version register.
-/

namespace Instrument

/-- A version with a major and a minor number. -/
structure Version where
  major : UInt8 := 0
  minor : UInt8 := 0
  deriving DecidableEq, Inhabited

/-- What a device says it is. -/
structure Identity where
  deviceType : UInt16
  hardware : Version
  firmware : Version
  assembly : UInt8
  deriving DecidableEq, Inhabited

/-- The identity in seven bytes: the device type, lowest byte first, then both
versions and the assembly. -/
def Identity.toBytes (identity : Identity) : Bytes :=
  Bytes.littleEndian 2 identity.deviceType.toNat ++
    [identity.hardware.major, identity.hardware.minor, identity.firmware.major,
      identity.firmware.minor, identity.assembly]

def Identity.registerSize : Nat := 32

/-- The contents of a version register: the identity, then zeros. -/
def Identity.registerBytes (identity : Identity) : Bytes :=
  Bytes.overwrite (Bytes.zeros registerSize) 0 identity.toBytes

end Instrument

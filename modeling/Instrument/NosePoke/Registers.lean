import Instrument.Identity
import Instrument.NosePoke.Wiring
import Instrument.Register.Layout

/-!
# Registers of the nose-poke controller

Twelve registers at the addresses 32 to 43, 111 bytes in all.
-/

namespace Instrument.NosePoke

def digitalInputsAddress : UInt8 := 32

def analogAddress : UInt8 := 33

def complexConfigurationAddress : UInt8 := 34

def versionAddress : UInt8 := 35

/-- The latch range that holds the latest analog frame. -/
def analogWindow : LatchWindow := ⟨0, 24⟩

/-- The counter of the edges on the first beam. -/
def beamCounter : Nat := 0

/-- The selection of a pulse-width port: exactly one of three bits. -/
def pulseWidthPort : FieldChoice := ⟨⟨"MSK_PWM_PORT_SEL", 7⟩, [1, 2, 4]⟩

/-- The rule for the complex configuration: its first byte selects a pulse-width
port, the others are free. -/
def complexConfigurationRule : Rule :=
  .custom fun payload => payload.head?.any fun selection => pulseWidthPort.admits selection.toNat

/-- The rule for pulse lengths: any but zero. -/
def pulseRule : Rule := .between 1 65535

/-- A register that may be read and written. -/
def readWrite : Access := { read := true, write := true }

/-- A register that may be read, and reported unasked. -/
def readEvent : Access := { read := true, event := true }

/-- The registers. -/
def registers : List Register := [
  ⟨{ address := digitalInputsAddress, name := "REG_DIGITAL_INPUTS", kind := .unsigned .one,
     access := readEvent },
    .pins shownInputs⟩,
  ⟨{ address := analogAddress, name := "REG_ANALOG_DATA", kind := .float, count := 6,
     access := readEvent },
    .latch analogWindow⟩,
  ⟨{ address := complexConfigurationAddress, name := "REG_COMPLEX_CONFIGURATION",
     kind := .unsigned .one, count := 17, access := readWrite },
    .setting complexConfigurationRule⟩,
  ⟨{ address := versionAddress, name := "REG_VERSION", kind := .unsigned .one,
     count := Identity.registerSize, access := { read := true } },
    .constant⟩,
  ⟨{ address := 36, name := "REG_CUSTOM_PAYLOAD", kind := .unsigned .four, count := 3,
     access := readWrite },
    .setting .any⟩,
  ⟨{ address := 37, name := "REG_CUSTOM_RAW_PAYLOAD", kind := .unsigned .four, count := 3,
     access := readWrite },
    .setting .any⟩,
  ⟨{ address := 38, name := "REG_CUSTOM_MEMBER_CONVERTER", kind := .unsigned .one, count := 3,
     access := readWrite },
    .setting .any⟩,
  ⟨{ address := 39, name := "REG_BITMASK_SPLITTER", kind := .unsigned .one,
     access := readWrite },
    .setting .any⟩,
  ⟨{ address := 40, name := "REG_COUNTER0", kind := .signed .four, access := readWrite },
    .counter beamCounter true⟩,
  ⟨{ address := 41, name := "REG_PORT_DIO_SET", kind := .unsigned .one, access := readWrite },
    .drive (.within ⟨"MSK_DO_PORT", 15⟩) drivenLines⟩,
  ⟨{ address := 42, name := "REG_PULSE_DO_PORT0", kind := .unsigned .two, access := readWrite },
    .pulse pulseRule ⟨valve0, false⟩⟩,
  ⟨{ address := 43, name := "REG_PULSE_DO0", kind := .unsigned .two, access := readWrite },
    .pulse pulseRule ⟨output0, false⟩⟩]

/-- The layout of the controller. -/
def layout : Layout := ⟨registers, by decide⟩

/-- The size of the store in bytes. -/
def storeSize : Nat := 111

/-- The index of the digital inputs, which is also their event flag. -/
def digitalInputsIndex : Nat := (digitalInputsAddress - layout.minAddress).toNat

/-- The index of the analog frame, which is also its event flag. -/
def analogIndex : Nat := (analogAddress - layout.minAddress).toNat

/-- What the controller says it is. -/
def identity : Identity where
  deviceType := 0
  hardware := { major := 1, minor := 0 }
  firmware := { major := 0, minor := 1 }
  assembly := 0

/-- The complex configuration at boot: the first pulse-width port, and zeros. -/
def bootConfiguration : Bytes := 1 :: Bytes.zeros 16

end Instrument.NosePoke

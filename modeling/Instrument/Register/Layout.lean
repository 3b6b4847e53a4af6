import Instrument.Register.Access
import Instrument.Register.Behaviour

/-!
# Register layouts

A layout is a list of registers that meets a list of requirements: consecutive
addresses, access flags that agree with the behaviours, and behaviours that fit
the kind and size of their registers.  `ofRegisters?` checks them in order and
names the first that fails.  Registers are packed back to back, so the layout
also fixes the place of each register in the store.
-/

namespace Instrument

/-- A register: its description and its behaviour. -/
structure Register where
  descriptor : Descriptor
  behaviour : Behaviour

def Register.size (register : Register) : Nat := register.descriptor.size

/-- Bytes that registers take together. -/
def Register.totalSize : List Register → Nat
  | [] => 0
  | register :: rest => register.size + totalSize rest

/-- What is wrong with a list of registers. -/
inductive LayoutFault where
  | empty
  | tooManyRegisters
  | addressOverflow
  | addressGap
  | noElements
  | unreadable
  | writeFlagDisagrees
  | pinInputKind
  | tooManyPins
  | latchSize
  | latchBounds
  | counterKind
  | counterBounds
  | driveKind
  | tooManyLines
  | pulseKind
  | pulseArray
  deriving DecidableEq

def LayoutFault.message : LayoutFault → String
  | .empty => "register map is empty"
  | .tooManyRegisters => "too many registers"
  | .addressOverflow => "register addresses overflow"
  | .addressGap => "register addresses must be contiguous"
  | .noElements => "register holds no elements"
  | .unreadable => "register must be readable"
  | .writeFlagDisagrees => "write access flag disagrees with handler"
  | .pinInputKind => "pin input needs integer type"
  | .tooManyPins => "more pins than register bits"
  | .latchSize => "latch size differs from register"
  | .latchBounds => "latch out of bounds"
  | .counterKind => "counter needs integer type"
  | .counterBounds => "counter out of bounds"
  | .driveKind => "drive needs integer type"
  | .tooManyLines => "more lines than register bits"
  | .pulseKind => "pulse needs integer type"
  | .pulseArray => "pulse register must be scalar"

/-- A condition on a list of registers, with the fault of not meeting it. -/
structure Requirement where
  holds : Bool
  fault : LayoutFault

namespace Register

/-- What the behaviour of a register asks of its description. -/
def behaviourRequirements (register : Register) : List Requirement :=
  let kind := register.descriptor.kind
  let bits := 8 * kind.width
  match register.behaviour with
  | .pins inputs =>
    [⟨kind.isInteger, .pinInputKind⟩, ⟨decide (inputs.length ≤ bits), .tooManyPins⟩]
  | .latch window =>
    [⟨window.length == register.size, .latchSize⟩,
      ⟨decide (window.stop ≤ Signals.latchSize), .latchBounds⟩]
  | .counter index _ =>
    [⟨kind.isInteger, .counterKind⟩, ⟨decide (index < Signals.counterCount), .counterBounds⟩]
  | .drive _ lines =>
    [⟨kind.isInteger, .driveKind⟩, ⟨decide (lines.length ≤ bits), .tooManyLines⟩]
  | .pulse _ _ =>
    [⟨kind.isInteger, .pulseKind⟩, ⟨!register.descriptor.isArray, .pulseArray⟩]
  | .constant | .setting _ => []

/-- What is asked of a register that should have the given address. -/
def requirements (address : Nat) (register : Register) : List Requirement :=
  let descriptor := register.descriptor
  ⟨descriptor.address.toNat == address, .addressGap⟩ ::
    ⟨decide (0 < descriptor.count), .noElements⟩ ::
      ⟨descriptor.access.read, .unreadable⟩ ::
        ⟨descriptor.access.write == register.behaviour.acceptsWrites, .writeFlagDisagrees⟩ ::
          register.behaviourRequirements

end Register

namespace Layout

/-- The largest number of registers: one for each event flag. -/
abbrev maxRegisters : Nat := 32

/-- The address of the first register. -/
def baseOf (registers : List Register) : UInt8 :=
  (registers.head?.map (·.descriptor.address)).getD 0

/-- What is asked of registers that should have addresses from the given one on. -/
def requirementsFrom : (address : Nat) → List Register → List Requirement
  | _, [] => []
  | address, register :: rest =>
    register.requirements address ++ requirementsFrom (address + 1) rest

/-- What is asked of a list of registers, in the order it is checked. -/
def requirements (registers : List Register) : List Requirement :=
  let base := (baseOf registers).toNat
  ⟨!registers.isEmpty, .empty⟩ ::
    ⟨decide (registers.length ≤ maxRegisters), .tooManyRegisters⟩ ::
      ⟨decide (base + registers.length - 1 ≤ 255), .addressOverflow⟩ ::
        requirementsFrom base registers

end Layout

/-- A list of registers that meets every requirement. -/
structure Layout where
  /-- The registers, in address order. -/
  registers : List Register
  meets_requirements : (Layout.requirements registers).all (·.holds) = true

namespace Layout

/-- The layout of a list of registers, or the first requirement it fails. -/
def ofRegisters? (registers : List Register) : Except LayoutFault Layout :=
  match failed : (requirements registers).find? fun requirement => !requirement.holds with
  | some requirement => .error requirement.fault
  | none => .ok {
      registers := registers
      meets_requirements := by
        rw [List.all_eq_true]
        intro requirement member
        simpa using List.find?_eq_none.mp failed requirement member }

/-- Number of registers. -/
def size (layout : Layout) : Nat := layout.registers.length

def register (layout : Layout) (index : Fin layout.size) : Register :=
  layout.registers.get index

/-- The lowest address. -/
def minAddress (layout : Layout) : UInt8 := baseOf layout.registers

/-- The highest address. -/
def maxAddress (layout : Layout) : UInt8 := layout.minAddress + UInt8.ofNat (layout.size - 1)

/-- The address of the register at an index. -/
def addressOf (layout : Layout) (index : Fin layout.size) : UInt8 :=
  layout.minAddress + UInt8.ofNat index

/-- The index of the register at an address. -/
def indexOf? (layout : Layout) (address : UInt8) : Option (Fin layout.size) :=
  if below : layout.minAddress ≤ address ∧
      address.toNat - layout.minAddress.toNat < layout.size then
    some ⟨address.toNat - layout.minAddress.toNat, below.2⟩
  else
    none

/-- Bytes that all registers take together. -/
def totalBytes (layout : Layout) : Nat := Register.totalSize layout.registers

/-- The first byte of a register: after all registers before it. -/
def start (layout : Layout) (index : Fin layout.size) : Nat :=
  Register.totalSize (layout.registers.take index)

/-- One past the last byte of a register. -/
def stop (layout : Layout) (index : Fin layout.size) : Nat :=
  layout.start index + (layout.register index).size

theorem size_pos (layout : Layout) : 0 < layout.size := by
  have checked := layout.meets_requirements
  rw [requirements, List.all_cons, Bool.and_eq_true] at checked
  cases same : layout.registers with
  | nil => simp [same] at checked
  | cons register rest => simp [size, same]

theorem size_le (layout : Layout) : layout.size ≤ maxRegisters := by
  have checked := layout.meets_requirements
  rw [requirements, List.all_cons, List.all_cons, Bool.and_eq_true, Bool.and_eq_true] at checked
  exact of_decide_eq_true checked.2.1

end Layout

end Instrument

import Instrument.Bytes

/-!
# Byte stores

A store is a byte sequence of fixed size, zeroed at first.  Writing to it never
changes its size, so a store carries the proof that it still has it.
-/

namespace Instrument

/-- A byte store of the given size. -/
structure Store (size : Nat) where
  bytes : Bytes
  length_bytes : bytes.length = size
  deriving DecidableEq

namespace Store

variable {size : Nat}

/-- A store of zero bytes. -/
def zeroed : Store size := ⟨Bytes.zeros size, Bytes.length_zeros size⟩

instance : Inhabited (Store size) := ⟨zeroed⟩

/-- The bytes from `start` up to `stop`, if the store holds that range. -/
def slice? (store : Store size) (start stop : Nat) : Option Bytes :=
  Bytes.slice? store.bytes start stop

/-- The `length` bytes from `start` on, as far as the store holds them. -/
def view (store : Store size) (start length : Nat) : Bytes :=
  (store.bytes.drop start).take length

/-- Write bytes from `start` on, as far as the store has room. -/
def overwrite (store : Store size) (start : Nat) (data : Bytes) : Store size :=
  ⟨Bytes.overwrite store.bytes start data, by rw [Bytes.length_overwrite, store.length_bytes]⟩

/-- Write bytes over the range from `start` up to `stop`; there must be such a
range, and the bytes must fill it exactly. -/
def put? (store : Store size) (start stop : Nat) (data : Bytes) : Option (Store size) :=
  if start ≤ stop ∧ stop ≤ size ∧ data.length = stop - start then
    some (store.overwrite start data)
  else
    none

theorem ext_bytes {first second : Store size} (same : first.bytes = second.bytes) :
    first = second := by
  cases first
  cases second
  cases same
  rfl

@[simp] theorem bytes_overwrite (store : Store size) (start : Nat) (data : Bytes) :
    (store.overwrite start data).bytes = Bytes.overwrite store.bytes start data := rfl

theorem length_view (store : Store size) (start length : Nat) (fits : start + length ≤ size) :
    (store.view start length).length = length := by
  have whole := store.length_bytes
  simp only [view, List.length_take, List.length_drop]
  omega

end Store

end Instrument

import Instrument.Store

/-!
# Steps that can fault

On the machine an index or a range past the end, a copy between ranges of different
lengths, a shift by the whole width, a difference below zero, a sum past a byte and a
push onto a full list are faults: they stop the device or lose what they should keep.
`Checked` computations end in a fault wherever the machine would.
-/

namespace Instrument

/-- What the machine does not survive. -/
inductive Fault where
  | outOfRange
  | lengthsDiffer
  | shiftTooFar
  | underflow
  | addressOverflow
  | listFull
  | emptyChunks
  deriving DecidableEq

/-- A computation that may end in a fault. -/
abbrev Checked (α : Type) := Except Fault α

namespace Checked

variable {α β : Type}

@[simp] theorem ok_bind (value : α) (next : α → Checked β) :
    ((.ok value : Checked α) >>= next) = next value := rfl

@[simp] theorem pure_eq (value : α) : (pure value : Checked α) = .ok value := rfl

def item (items : List α) (position : Nat) : Checked α :=
  match items[position]? with
  | some found => .ok found
  | none => .error .outOfRange

def slice (bytes : Bytes) (start stop : Nat) : Checked Bytes :=
  match bytes.slice? start stop with
  | some part => .ok part
  | none => .error .outOfRange

/-- Copy bytes over a range of the same length. -/
def copy (bytes : Bytes) (start stop : Nat) (data : Bytes) : Checked Bytes :=
  if start ≤ stop ∧ stop ≤ bytes.length then
    if data.length = stop - start then .ok (bytes.overwrite start data)
    else .error .lengthsDiffer
  else .error .outOfRange

/-- Shift a word up. -/
def shiftUp {width : Nat} (word : BitVec width) (amount : Nat) : Checked (BitVec width) :=
  if amount < width then .ok (word <<< amount) else .error .shiftTooFar

/-- Shift a word down, filling it with zeros. -/
def shiftDown {width : Nat} (word : BitVec width) (amount : Nat) : Checked (BitVec width) :=
  if amount < width then .ok (word >>> amount) else .error .shiftTooFar

/-- Shift a word down, filling it with its sign. -/
def shiftDownSigned {width : Nat} (word : BitVec width) (amount : Nat) :
    Checked (BitVec width) :=
  if amount < width then .ok (word.sshiftRight amount) else .error .shiftTooFar

def subtract (first second : Nat) : Checked Nat :=
  if second ≤ first then .ok (first - second) else .error .underflow

/-- A number added to a byte. -/
def addByte (byte : UInt8) (number : Nat) : Checked UInt8 :=
  if byte.toNat + number ≤ 255 then .ok (byte + UInt8.ofNat number) else .error .addressOverflow

/-- Put an item at the end of a list with room for a number of them. -/
def push (capacity : Nat) (items : List α) (item : α) : Checked (List α) :=
  if items.length < capacity then .ok (items ++ [item]) else .error .listFull

/-- Cut a payload into whole chunks of a width. -/
def chunks (width : Nat) (payload : Bytes) : Checked (List Bytes) :=
  if 0 < width then .ok (Bytes.blocks width (payload.length / width) payload)
  else .error .emptyChunks

/-- Whether all items pass a check, up to the first that does not. -/
def all (check : α → Checked Bool) : List α → Checked Bool
  | [] => .ok true
  | item :: rest => do
    if ← check item then all check rest else pure false

theorem item_eq {items : List α} {position : Nat} (inside : position < items.length) :
    item items position = .ok (items.get ⟨position, inside⟩) := by
  rw [item, List.getElem?_eq_getElem inside]
  rfl

theorem slice_eq {bytes : Bytes} {start stop : Nat} (ordered : start ≤ stop)
    (inside : stop ≤ bytes.length) :
    slice bytes start stop = .ok ((bytes.drop start).take (stop - start)) := by
  rw [slice, Bytes.slice?, if_pos ⟨ordered, inside⟩]

theorem copy_eq {bytes : Bytes} {start stop : Nat} {data : Bytes} (ordered : start ≤ stop)
    (inside : stop ≤ bytes.length) (fills : data.length = stop - start) :
    copy bytes start stop data = .ok (bytes.overwrite start data) := by
  rw [copy, if_pos ⟨ordered, inside⟩, if_pos fills]

theorem all_eq {check : α → Checked Bool} {passes : α → Bool}
    (total : ∀ item, check item = .ok (passes item)) (items : List α) :
    all check items = .ok (items.all passes) := by
  induction items with
  | nil => rfl
  | cons item rest induction =>
      rw [all, total, ok_bind, induction, List.all_cons]
      cases passes item <;> rfl

end Checked

end Instrument

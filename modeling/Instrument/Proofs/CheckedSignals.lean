import Instrument.Proofs.Faults
import Instrument.Proofs.StoreWindows
import Instrument.Signals

/-!
# Signals on the machine

Flags are raised by shifting a one to their place, and the latch is copied in and out
through ranges cut to the shorter side.  Both guard their arguments, so no index, no
range and no sample makes them fault.
-/

namespace Instrument.Checked

def raise (signals : Signals) (index : Nat) : Checked Signals :=
  if index < Signals.flagCount then do
    let flag ← shiftUp 1#32 index
    pure { signals with flags := signals.flags ||| flag }
  else pure signals

/-- Copy bytes over the start of a buffer, as many as both have. -/
def copyStart (buffer data : Bytes) : Checked Bytes := do
  let length := min data.length buffer.length
  let part ← slice data 0 length
  copy buffer 0 length part

def latch (signals : Signals) (window : LatchWindow) (data : Bytes) : Checked Signals :=
  match signals.latched.slice? window.offset window.stop with
  | none => pure signals
  | some place => do
    let filled ← copyStart place data
    match signals.latched.put? window.offset window.stop filled with
    | some latched => pure { signals with latched }
    | none => .error .lengthsDiffer

def readLatch (signals : Signals) (window : LatchWindow) (buffer : Bytes) : Checked Bytes :=
  match signals.latched.slice? window.offset window.stop with
  | none => pure buffer
  | some source => copyStart buffer source

theorem raise_eq (signals : Signals) (index : Nat) :
    raise signals index = .ok (signals.raise index) := by
  rw [raise, Signals.raise]
  by_cases present : index < Signals.flagCount
  · rw [if_pos present, if_pos present, shiftUp, if_pos present]
    rfl
  · rw [if_neg present, if_neg present]
    rfl

theorem latched_slice? (signals : Signals) (window : LatchWindow) :
    signals.latched.slice? window.offset window.stop =
      if window.stop ≤ Signals.latchSize then
        some (signals.latched.view window.offset window.length)
      else none := by
  rw [Store.slice?, Bytes.slice?, signals.latched.length_bytes]
  have ordered : window.offset ≤ window.stop := Nat.le_add_right _ _
  have length : window.stop - window.offset = window.length := Nat.add_sub_cancel_left _ _
  by_cases inside : window.stop ≤ Signals.latchSize
  · rw [if_pos ⟨ordered, inside⟩, if_pos inside, length]
    rfl
  · rw [if_neg (fun both => inside both.2), if_neg inside]

theorem copyStart_eq (buffer data : Bytes) :
    copyStart buffer data = .ok (buffer.overwrite 0 data) := by
  rw [copyStart, slice_eq (Nat.zero_le _) (Nat.min_le_left _ _), ok_bind,
    copy_eq (Nat.zero_le _) (Nat.min_le_right _ _)]
  · congr 1
    apply List.ext_getElem?
    intro position
    rw [Bytes.getElem?_overwrite, Bytes.getElem?_overwrite]
    simp only [List.drop_zero, List.length_take, Nat.sub_zero]
    by_cases inside : position < data.length ∧ position < buffer.length
    · rw [if_pos (by omega), if_pos (by omega), List.getElem?_take_of_lt (by omega)]
    · rw [if_neg (by omega), if_neg (by omega)]
  · simp

/-- Writing over a window the window itself with its start replaced replaces the start. -/
theorem overwrite_overwrite_view {size : Nat} (store : Store size) {start length : Nat}
    (fits : start + length ≤ size) (data : Bytes) :
    store.overwrite start ((store.view start length).overwrite 0 data) =
      store.overwrite start (data.take length) := by
  have whole := store.length_bytes
  have viewed := store.length_view start length fits
  apply Store.ext_bytes
  apply List.ext_getElem?
  intro position
  simp only [Store.bytes_overwrite, Bytes.getElem?_overwrite, Bytes.length_overwrite, viewed,
    Store.getElem?_view, List.length_take]
  by_cases inside : start ≤ position ∧ position < start + length
  · rw [if_pos (by omega)]
    by_cases sampled : position - start < data.length
    · rw [if_pos (by omega), if_pos (by omega), List.getElem?_take_of_lt (by omega), Nat.sub_zero]
    · rw [if_neg (by omega), if_pos (by omega), if_neg (by omega)]
      congr 1
      omega
  · rw [if_neg (by omega), if_neg (by omega)]

theorem latch_eq (signals : Signals) (window : LatchWindow) (data : Bytes) :
    latch signals window data = .ok (signals.latch window data) := by
  rw [latch, latched_slice?, Signals.latch]
  by_cases inside : window.stop ≤ Signals.latchSize
  · have fits : window.offset + window.length ≤ 64 := inside
    have viewed := signals.latched.length_view window.offset window.length fits
    rw [if_pos inside, if_pos inside]
    simp only [copyStart_eq, ok_bind]
    rw [Store.put?, if_pos, overwrite_overwrite_view signals.latched fits]
    · rfl
    · refine ⟨Nat.le_add_right _ _, inside, ?_⟩
      rw [Bytes.length_overwrite, viewed]
      exact (Nat.add_sub_cancel_left _ _).symm
  · rw [if_neg inside, if_neg inside]
    rfl

theorem readLatch_eq (signals : Signals) (window : LatchWindow) (buffer : Bytes) :
    readLatch signals window buffer = .ok (signals.readLatch window buffer) := by
  rw [readLatch, latched_slice?, Signals.readLatch]
  by_cases inside : window.stop ≤ Signals.latchSize
  · rw [if_pos inside, if_pos inside]
    exact copyStart_eq _ _
  · rw [if_neg inside, if_neg inside]
    rfl

end Instrument.Checked

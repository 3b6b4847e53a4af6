import Instrument.Store

/-!
# Signals from interrupt routines

Interrupt routines leave what happened in a few shared cells: counters that wrap
around, one event flag for each register, and a latch of sampled bytes.  Reads and
writes on the bus look at the cells later.
-/

namespace Instrument

/-- A range of the latch. -/
structure LatchWindow where
  offset : Nat
  length : Nat
  deriving DecidableEq, Inhabited

/-- One past the last byte of the range. -/
def LatchWindow.stop (window : LatchWindow) : Nat := window.offset + window.length

/-- What interrupt routines leave for the rest of the program. -/
structure Signals where
  counters : Vector UInt32 8
  /-- The event flags, by register index. -/
  flags : BitVec 32
  latched : Store 64
  deriving DecidableEq

namespace Signals

/-- Number of counters. -/
abbrev counterCount : Nat := 8

abbrev flagCount : Nat := 32

/-- Size of the latch in bytes. -/
abbrev latchSize : Nat := 64

/-- Nothing counted, flagged or sampled. -/
def clear : Signals where
  counters := Vector.replicate 8 0
  flags := 0
  latched := .zeroed

instance : Inhabited Signals := ⟨clear⟩

/-- The value of a counter; one that does not exist stands at zero. -/
def count (signals : Signals) (counter : Nat) : UInt32 :=
  signals.counters[counter]?.getD 0

/-- Put a counter to a value, if it exists. -/
def setCounter (signals : Signals) (counter : Nat) (value : UInt32) : Signals :=
  { signals with counters := signals.counters.setIfInBounds counter value }

/-- Add a number of events to a counter, which wraps around. -/
def incrementBy (signals : Signals) (counter events : Nat) : Signals :=
  signals.setCounter counter (signals.count counter + UInt32.ofNat events)

def increment (signals : Signals) (counter : Nat) : Signals :=
  signals.incrementBy counter 1

/-- Put a counter back to zero. -/
def reset (signals : Signals) (counter : Nat) : Signals :=
  signals.setCounter counter 0

/-- Flag a register as having something to report; an index without a flag is
ignored. -/
def raise (signals : Signals) (index : Nat) : Signals :=
  if index < flagCount then { signals with flags := signals.flags ||| BitVec.twoPow 32 index }
  else signals

/-- The flags raised, all of them lowered again. -/
def takeFlags (signals : Signals) : BitVec 32 × Signals :=
  (signals.flags, { signals with flags := 0 })

/-- Sample bytes into a range of the latch.  Bytes past the range are dropped, and
a short sample leaves the rest of the range; a range that reaches past the latch
takes nothing. -/
def latch (signals : Signals) (window : LatchWindow) (data : Bytes) : Signals :=
  if window.stop ≤ latchSize then
    { signals with
      latched := signals.latched.overwrite window.offset (data.take window.length) }
  else
    signals

/-- Copy a range of the latch over the start of a buffer, as far as both reach; a
range that reaches past the latch copies nothing. -/
def readLatch (signals : Signals) (window : LatchWindow) (buffer : Bytes) : Bytes :=
  if window.stop ≤ latchSize then
    Bytes.overwrite buffer 0 (signals.latched.view window.offset window.length)
  else
    buffer

/-- Setting a counter shows at that counter, if it exists, and nowhere else. -/
theorem count_setCounter (signals : Signals) (counter other : Nat) (value : UInt32) :
    (signals.setCounter counter value).count other =
      if other = counter ∧ counter < counterCount then value else signals.count other := by
  by_cases same : other = counter
  · subst same
    by_cases present : other < counterCount <;> simp [setCounter, count, present]
  · simp [setCounter, count, same, Ne.symm same]

/-- Raising a flag sets that flag, if it exists, and keeps all others. -/
theorem getLsbD_flags_raise (signals : Signals) (index flag : Nat) :
    (signals.raise index).flags.getLsbD flag =
      (signals.flags.getLsbD flag || decide (flag = index ∧ index < flagCount)) := by
  by_cases present : index < flagCount
  · by_cases same : flag = index
    · subst same
      simp [raise, present]
    · simp [raise, present, same, Ne.symm same]
  · simp [raise, present]

end Signals

end Instrument

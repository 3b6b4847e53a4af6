import Instrument.Pin.Basic

/-!
# Pulse timers

A pulse holds an output line active for a number of milliseconds.  At most one
pulse runs on a pin and at most eight run at once; both are part of the type.
-/

namespace Instrument

/-- A pulse that is running. -/
structure Pulse where
  line : OutputLine
  /-- Milliseconds until the line is released. -/
  remaining : Nat
  deriving DecidableEq

namespace Pulse

def isOn (pulse : Pulse) (pin : Pin) : Bool := pulse.line.pin == pin

end Pulse

/-- The running pulses, in the order their pins were armed. -/
structure Pulses where
  running : List Pulse := []
  length_running : running.length ≤ 8 := by decide
  pins_distinct : (running.map (·.line.pin)).Nodup := by decide
  deriving DecidableEq

namespace Pulses

/-- How many pulses can run at once. -/
abbrev capacity : Nat := 8

/-- No pulse runs. -/
def none : Pulses := {}

instance : Inhabited Pulses := ⟨none⟩

def size (pulses : Pulses) : Nat := pulses.running.length

/-- The pulse on a pin. -/
def find? (pulses : Pulses) (pin : Pin) : Option Pulse :=
  pulses.running.find? (·.isOn pin)

/-- Milliseconds left on the pulse of a pin, if one runs. -/
def remaining? (pulses : Pulses) (pin : Pin) : Option Nat :=
  (pulses.find? pin).map (·.remaining)

/-- Whether a pulse can be started on a line: a timer is free, or one already runs
on the line's pin. -/
def canArm (pulses : Pulses) (line : OutputLine) : Bool :=
  decide (pulses.size < capacity) || pulses.running.any (·.isOn line.pin)

/-- Give the pulse on the pin of a line, if there is one, that line and time. -/
def rearmed (running : List Pulse) (line : OutputLine) (duration : Nat) : List Pulse :=
  running.map fun pulse => if pulse.isOn line.pin then ⟨line, duration⟩ else pulse

theorem pins_rearmed (running : List Pulse) (line : OutputLine) (duration : Nat) :
    (rearmed running line duration).map (·.line.pin) = running.map (·.line.pin) := by
  rw [rearmed, List.map_map]
  apply List.map_congr_left
  intro pulse _
  by_cases same : pulse.isOn line.pin = true
  · have pins : pulse.line.pin = line.pin := eq_of_beq same
    rw [Function.comp, if_pos same, pins]
  · rw [Function.comp, if_neg same]

/-- Start a pulse, or start the one on the line's pin anew in its place; there is
no answer when every timer is busy. -/
def arm? (pulses : Pulses) (line : OutputLine) (duration : Nat) : Option Pulses :=
  if running : pulses.running.any (·.isOn line.pin) then
    some {
      running := rearmed pulses.running line duration
      length_running := by
        rw [rearmed, List.length_map]
        exact pulses.length_running
      pins_distinct := by
        rw [pins_rearmed]
        exact pulses.pins_distinct }
  else if free : pulses.running.length < capacity then
    some {
      running := pulses.running ++ [⟨line, duration⟩]
      length_running := by
        rw [List.length_append]
        exact free
      pins_distinct := by
        rw [List.map_append, List.map_singleton, List.nodup_append]
        refine ⟨pulses.pins_distinct, by simp, ?_⟩
        intro pin member other isLine
        obtain ⟨pulse, isRunning, rfl⟩ := List.mem_map.mp member
        rw [List.mem_singleton.mp isLine]
        intro same
        exact running (List.any_eq_true.mpr ⟨pulse, isRunning, by simp [Pulse.isOn, same]⟩) }
  else
    Option.none

/-- Keep only some of the pulses. -/
def filter (pulses : Pulses) (keep : Pulse → Bool) : Pulses where
  running := pulses.running.filter keep
  length_running := Nat.le_trans (List.length_filter_le _ _) pulses.length_running
  pins_distinct := pulses.pins_distinct.sublist (List.filter_sublist.map _)

/-- Drop the pulse on a pin, leaving the line as it is; the answer says whether
there was one. -/
def cancel (pulses : Pulses) (pin : Pin) : Bool × Pulses :=
  (pulses.running.any (·.isOn pin), pulses.filter fun pulse => !pulse.isOn pin)

/-- Take time off every pulse. -/
def elapse (pulses : Pulses) (elapsed : Nat) : Pulses where
  running := pulses.running.map fun pulse => { pulse with remaining := pulse.remaining - elapsed }
  length_running := by
    rw [List.length_map]
    exact pulses.length_running
  pins_distinct := by
    rw [List.map_map]
    exact pulses.pins_distinct

/-- Let time pass.  The answer lists the lines whose pulse ended, in the order
their pins were armed; the other pulses have that much less time left. -/
def advance (pulses : Pulses) (elapsed : Nat) : List OutputLine × Pulses :=
  ((pulses.running.filter fun pulse => decide (pulse.remaining ≤ elapsed)).map (·.line),
    (pulses.filter fun pulse => decide (elapsed < pulse.remaining)).elapse elapsed)

end Pulses

end Instrument

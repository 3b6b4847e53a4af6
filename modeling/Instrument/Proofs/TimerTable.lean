import Instrument.Proofs.PulseTable

/-!
# Timers without their proofs

A timer table is a plain list of lines with the words of milliseconds left on them.  Nothing in
it keeps two timers from having one pin: starting looks for the first timer on a pin, giving up
counts what is left, and lines that end are put into a list of their own that may be full.  From
an empty table on, its operations are nevertheless those of `Pulses`.
-/

namespace Instrument

/-- A line with the milliseconds left on it. -/
structure Timer where
  line : OutputLine
  left : UInt32
  deriving DecidableEq

namespace Timer

def isOn (timer : Timer) (pin : Pin) : Bool := timer.line.pin == pin

/-- The pulse that a timer times. -/
def pulse (timer : Timer) : Pulse := ⟨timer.line, timer.left.toNat⟩

end Timer

structure TimerTable where
  timers : List Timer := []
  deriving DecidableEq

namespace TimerTable

/-- Put an item at the end of a list, or drop it if the list is full. -/
def push {α : Type} (items : List α) (item : α) : List α :=
  if items.length < Pulses.capacity then items ++ [item] else items

def canArm (table : TimerTable) (line : OutputLine) : Bool :=
  decide (table.timers.length < Pulses.capacity) || table.timers.any (·.isOn line.pin)

/-- Give the first timer on the pin of a line that line and time. -/
def rearmFirst? (line : OutputLine) (duration : UInt32) : List Timer → Option (List Timer)
  | [] => none
  | timer :: rest =>
    if timer.isOn line.pin then some (⟨line, duration⟩ :: rest)
    else (rearmFirst? line duration rest).map (timer :: ·)

def arm (table : TimerTable) (line : OutputLine) (duration : UInt32) : Bool × TimerTable :=
  match rearmFirst? line duration table.timers with
  | some timers => (true, ⟨timers⟩)
  | none =>
    (decide (table.timers.length < Pulses.capacity), ⟨push table.timers ⟨line, duration⟩⟩)

/-- Drop all timers on a pin; the answer says whether that made the table shorter. -/
def cancel (table : TimerTable) (pin : Pin) : Bool × TimerTable :=
  let kept := table.timers.filter fun timer => !timer.isOn pin
  (decide (kept.length ≠ table.timers.length), ⟨kept⟩)

/-- Take time off timers and collect the lines of those that end. -/
def expire (elapsed : UInt32) :
    (ended : List OutputLine) → List Timer → List OutputLine × List Timer
  | ended, [] => (ended, [])
  | ended, timer :: rest =>
    if timer.left ≤ elapsed then expire elapsed (push ended timer.line) rest
    else
      let (ended, kept) := expire elapsed ended rest
      (ended, { timer with left := timer.left - elapsed } :: kept)

def advance (table : TimerTable) (elapsed : UInt32) : List OutputLine × TimerTable :=
  let (ended, kept) := expire elapsed [] table.timers
  (ended, ⟨kept⟩)

def remaining? (table : TimerTable) (pin : Pin) : Option UInt32 :=
  (table.timers.find? (·.isOn pin)).map (·.left)

/-- The timers time these pulses, in this order. -/
def Times (table : TimerTable) (pulses : Pulses) : Prop :=
  table.timers.map Timer.pulse = pulses.running

theorem Times.any_isOn {table : TimerTable} {pulses : Pulses} (times : table.Times pulses)
    (pin : Pin) : pulses.running.any (·.isOn pin) = table.timers.any (·.isOn pin) := by
  rw [← times, List.any_map]
  rfl

theorem Times.length_timers {table : TimerTable} {pulses : Pulses} (times : table.Times pulses) :
    table.timers.length = pulses.size := by
  rw [Pulses.size, ← times, List.length_map]

theorem rearmed_of_absent {running : List Pulse} {line : OutputLine}
    (absent : line.pin ∉ running.map (·.line.pin)) (duration : Nat) :
    Pulses.rearmed running line duration = running := by
  rw [Pulses.rearmed]
  apply (List.map_congr_left _).trans (List.map_id _)
  intro pulse runs
  apply if_neg
  intro onPin
  exact absent (List.mem_map.mpr ⟨pulse, runs, Pulse.isOn_iff.mp onPin⟩)

/-- As no later timer is on the pin, changing the first one on it changes all of them. -/
theorem rearmFirst?_eq (line : OutputLine) (duration : UInt32) {timers : List Timer}
    (distinct : ((timers.map Timer.pulse).map (·.line.pin)).Nodup) :
    (rearmFirst? line duration timers).map (·.map Timer.pulse) =
      if timers.any (·.isOn line.pin) then
        some (Pulses.rearmed (timers.map Timer.pulse) line duration.toNat)
      else none := by
  induction timers with
  | nil => rfl
  | cons timer rest induction =>
      rw [List.map_cons, List.map_cons, List.nodup_cons] at distinct
      have same : timer.pulse.isOn line.pin = timer.isOn line.pin := rfl
      rw [rearmFirst?, List.any_cons, List.map_cons, Pulses.rearmed, List.map_cons, same]
      by_cases here : timer.isOn line.pin = true
      · have onPin : timer.pulse.line.pin = line.pin := Pulse.isOn_iff.mp here
        rw [onPin] at distinct
        have later := rearmed_of_absent distinct.1 duration.toNat
        rw [Pulses.rearmed] at later
        rw [if_pos here, if_pos here, here, later]
        rfl
      · have later := induction distinct.2
        rw [if_neg here, if_neg here, Bool.eq_false_iff.mpr here, Bool.false_or]
        rw [Option.map_map]
        cases found : rearmFirst? line duration rest with
        | none =>
            rw [found] at later
            split at later
            · cases later
            · rename_i absent
              rw [if_neg absent]
              rfl
        | some timers =>
            rw [found] at later
            split at later
            · rename_i present
              rw [if_pos present]
              rw [Option.map_some, Option.some.injEq] at later ⊢
              exact congrArg (timer.pulse :: ·) later
            · cases later

theorem Times.arm {table : TimerTable} {pulses : Pulses} (times : table.Times pulses)
    (line : OutputLine) (duration : UInt32) :
    (table.arm line duration).1 = (pulses.arm? line duration.toNat).isSome ∧
      (table.arm line duration).2.Times ((pulses.arm? line duration.toNat).getD pulses) := by
  have distinct := pulses.pins_distinct
  rw [← times] at distinct
  have renewed := rearmFirst?_eq line duration distinct
  rw [← times.any_isOn, times] at renewed
  rw [TimerTable.arm, Times]
  rcases pulses.arm?_cases line duration.toNat with
    ⟨present, armed, success, running⟩ | ⟨absent, free, armed, success, running⟩ |
      ⟨absent, busy, failure⟩
  · rw [present, if_pos rfl, Option.map_eq_some_iff] at renewed
    obtain ⟨timers, found, same⟩ := renewed
    rw [found, success]
    exact ⟨rfl, same.trans running.symm⟩
  · rw [absent, if_neg Bool.false_ne_true, Option.map_eq_none_iff] at renewed
    rw [← times.length_timers] at free
    rw [renewed, success, push, if_pos free]
    refine ⟨decide_eq_true free, ?_⟩
    rw [List.map_append, times]
    exact running.symm
  · rw [absent, if_neg Bool.false_ne_true, Option.map_eq_none_iff] at renewed
    rw [← times.length_timers] at busy
    rw [renewed, failure, push, if_neg busy]
    exact ⟨decide_eq_false busy, times⟩

theorem Times.canArm {table : TimerTable} {pulses : Pulses} (times : table.Times pulses)
    (line : OutputLine) : table.canArm line = pulses.canArm line := by
  rw [TimerTable.canArm, Pulses.canArm, times.length_timers, times.any_isOn]

theorem Times.cancel {table : TimerTable} {pulses : Pulses} (times : table.Times pulses)
    (pin : Pin) :
    (table.cancel pin).1 = (pulses.cancel pin).1 ∧
      (table.cancel pin).2.Times (pulses.cancel pin).2 := by
  constructor
  · rw [TimerTable.cancel, Pulses.cancel, times.any_isOn, Bool.eq_iff_iff]
    simp only [decide_eq_true_eq, List.any_eq_true]
    rw [ne_eq, List.length_filter_eq_length_iff]
    simp
  · change (table.timers.filter _).map Timer.pulse = pulses.running.filter _
    rw [← times, List.filter_map]
    rfl

/-- What has ended and what is left to look at fit the list, so no line is dropped. -/
theorem map_pulse_expire (elapsed : UInt32) {ended : List OutputLine} {timers : List Timer}
    (room : ended.length + timers.length ≤ Pulses.capacity) :
    (expire elapsed ended timers).1 = ended ++
        ((timers.map Timer.pulse).filter fun pulse =>
          decide (pulse.remaining ≤ elapsed.toNat)).map (·.line) ∧
      (expire elapsed ended timers).2.map Timer.pulse =
        ((timers.map Timer.pulse).filter fun pulse =>
          decide (elapsed.toNat < pulse.remaining)).map fun pulse =>
            { pulse with remaining := pulse.remaining - elapsed.toNat } := by
  induction timers generalizing ended with
  | nil => exact ⟨(List.append_nil _).symm, rfl⟩
  | cons timer rest induction =>
      rw [List.length_cons] at room
      have spent_iff : timer.left ≤ elapsed ↔ timer.pulse.remaining ≤ elapsed.toNat :=
        UInt32.le_iff_toNat_le
      rw [expire, List.map_cons]
      by_cases spent : timer.left ≤ elapsed
      · have reached := spent_iff.mp spent
        have later := @induction (ended ++ [timer.line]) (by simp; omega)
        rw [List.append_assoc] at later
        rw [if_pos spent, push, if_pos (by omega), List.filter_cons_of_pos (by simpa using reached),
          List.filter_cons_of_neg (by simpa using reached)]
        exact later
      · have running := Nat.lt_of_not_le (mt spent_iff.mpr spent)
        have taken : (timer.left - elapsed).toNat = timer.left.toNat - elapsed.toNat :=
          UInt32.toNat_sub_of_le _ _ (UInt32.le_iff_toNat_le.mpr (Nat.le_of_lt running))
        have later := @induction ended (by omega)
        rw [if_neg spent, List.filter_cons_of_neg (by simpa using running),
          List.filter_cons_of_pos (by simpa using running)]
        refine ⟨later.1, ?_⟩
        rw [List.map_cons, List.map_cons, later.2, Timer.pulse, taken]
        rfl

theorem Times.advance {table : TimerTable} {pulses : Pulses} (times : table.Times pulses)
    (elapsed : UInt32) :
    (table.advance elapsed).1 = (pulses.advance elapsed.toNat).1 ∧
      (table.advance elapsed).2.Times (pulses.advance elapsed.toNat).2 := by
  have room : ([] : List OutputLine).length + table.timers.length ≤ Pulses.capacity := by
    rw [times.length_timers, List.length_nil, Nat.zero_add]
    exact pulses.length_running
  have expired := map_pulse_expire elapsed room
  rw [times] at expired
  exact expired

theorem Times.remaining? {table : TimerTable} {pulses : Pulses} (times : table.Times pulses)
    (pin : Pin) : (table.remaining? pin).map UInt32.toNat = pulses.remaining? pin := by
  rw [TimerTable.remaining?, Pulses.remaining?, Pulses.find?, ← times, List.find?_map]
  rw [Option.map_map, Option.map_map]
  rfl

end TimerTable

end Instrument

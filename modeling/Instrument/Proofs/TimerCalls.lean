import Mathlib.Data.List.Induction
import Instrument.Proofs.TimerTable

/-!
# Timers after any calls

The running pulses after some calls are a table from pins to pulses.  They are listed
by the calls that started them: the call that started the pulse on a pin is the one
from which on a pulse has run there without a break.
-/

namespace Instrument

inductive TimerCall where
  | arm (line : OutputLine) (duration : UInt32)
  | cancel (pin : Pin)
  | advance (elapsed : UInt32)
  deriving DecidableEq

inductive TimerAnswer where
  | flag (yes : Bool)
  | ended (lines : List OutputLine)
  deriving DecidableEq

def Pulses.perform (pulses : Pulses) : TimerCall → TimerAnswer × Pulses
  | .arm line duration =>
    let armed := pulses.arm? line duration.toNat
    (.flag armed.isSome, armed.getD pulses)
  | .cancel pin => (.flag (pulses.cancel pin).1, (pulses.cancel pin).2)
  | .advance elapsed =>
    (.ended (pulses.advance elapsed.toNat).1, (pulses.advance elapsed.toNat).2)

def TimerTable.perform (table : TimerTable) : TimerCall → TimerAnswer × TimerTable
  | .arm line duration => (.flag (table.arm line duration).1, (table.arm line duration).2)
  | .cancel pin => (.flag (table.cancel pin).1, (table.cancel pin).2)
  | .advance elapsed => (.ended (table.advance elapsed).1, (table.advance elapsed).2)

/-- The pulses that run after some calls, starting with none. -/
def Pulses.afterCalls (calls : List TimerCall) : Pulses :=
  calls.foldl (fun pulses call => (pulses.perform call).2) Pulses.none

/-- The timers after some calls, starting with none. -/
def TimerTable.afterCalls (calls : List TimerCall) : TimerTable :=
  calls.foldl (fun table call => (table.perform call).2) {}

theorem TimerTable.Times.perform {table : TimerTable} {pulses : Pulses}
    (times : table.Times pulses) (call : TimerCall) :
    (table.perform call).1 = (pulses.perform call).1 ∧
      (table.perform call).2.Times (pulses.perform call).2 := by
  cases call with
  | arm line duration =>
      have armed := times.arm line duration
      exact ⟨congrArg TimerAnswer.flag armed.1, armed.2⟩
  | cancel pin =>
      have cancelled := times.cancel pin
      exact ⟨congrArg TimerAnswer.flag cancelled.1, cancelled.2⟩
  | advance elapsed =>
      have advanced := times.advance elapsed
      exact ⟨congrArg TimerAnswer.ended advanced.1, advanced.2⟩

theorem TimerTable.times_afterCalls (calls : List TimerCall) :
    (TimerTable.afterCalls calls).Times (Pulses.afterCalls calls) := by
  induction calls using List.reverseRecOn with
  | nil => rfl
  | append_singleton calls call induction =>
      rw [TimerTable.afterCalls, Pulses.afterCalls, List.foldl_append, List.foldl_append]
      exact (induction.perform call).2

namespace Pulses

theorem afterCalls_concat (calls : List TimerCall) (call : TimerCall) :
    afterCalls (calls ++ [call]) = ((afterCalls calls).perform call).2 := by
  rw [afterCalls, List.foldl_append]
  rfl

/-- The pins with a running pulse, in the order of the pulses. -/
def pins (pulses : Pulses) : List Pin := pulses.running.map (·.line.pin)

theorem mem_pins_iff {pulses : Pulses} {pin : Pin} :
    pin ∈ pulses.pins ↔ pulses.find? pin ≠ Option.none := by
  rw [pins, List.mem_map, Option.ne_none_iff_exists']
  constructor
  · intro runs
    obtain ⟨pulse, member, onPin⟩ := runs
    exact ⟨pulse, find?_eq_some_iff.mpr ⟨member, onPin⟩⟩
  · intro runs
    obtain ⟨pulse, found⟩ := runs
    exact ⟨pulse, find?_eq_some_iff.mp found⟩

/-- A call keeps the order of the pins that stay and puts a new one behind them. -/
theorem pins_perform (pulses : Pulses) (call : TimerCall) :
    (pulses.perform call).2.pins.Sublist pulses.pins ∨
      ∃ line duration, call = .arm line duration ∧
        pulses.find? line.pin = Option.none ∧
          (pulses.perform call).2.pins = pulses.pins ++ [line.pin] := by
  cases call with
  | arm line duration =>
      rw [perform]
      rcases pulses.arm?_cases line duration.toNat with
        ⟨_, armed, success, running⟩ | ⟨absent, _, armed, success, running⟩ | ⟨_, _, failure⟩
      · have kept : armed.pins = pulses.pins := by
          rw [pins, running, pins_rearmed, pins]
        rw [success, Option.getD_some, kept]
        exact .inl (List.Sublist.refl _)
      · have added : armed.pins = pulses.pins ++ [line.pin] := by
          rw [pins, running, List.map_append, pins]
          rfl
        rw [success]
        exact .inr ⟨line, duration, rfl, any_isOn_eq_false_iff.mp absent, added⟩
      · rw [failure]
        exact .inl (List.Sublist.refl _)
  | cancel pin => exact .inl (List.filter_sublist.map _)
  | advance elapsed =>
      apply Or.inl
      rw [perform, pins, Pulses.advance, elapse, List.map_map]
      exact List.filter_sublist.map _

/-- The pulse on a pin was started by the call at a position. -/
structure StartedAt (calls : List TimerCall) (pin : Pin) (position : Nat) : Prop where
  armed : ∃ line duration, calls[position]? = some (.arm line duration) ∧ line.pin = pin
  idle : (afterCalls (calls.take position)).find? pin = Option.none
  runs : ∀ later, position < later → later ≤ calls.length →
    (afterCalls (calls.take later)).find? pin ≠ Option.none

namespace StartedAt

variable {calls : List TimerCall} {pin : Pin} {position : Nat}

theorem lt_length (started : StartedAt calls pin position) : position < calls.length := by
  obtain ⟨_, _, found, _⟩ := started.armed
  exact (List.getElem?_eq_some_iff.mp found).1

theorem unique {other : Nat} (first : StartedAt calls pin position)
    (second : StartedAt calls pin other) : position = other := by
  rcases Nat.lt_trichotomy position other with before | same | behind
  · exact (first.runs other before (Nat.le_of_lt second.lt_length) second.idle).elim
  · exact same
  · exact (second.runs position behind (Nat.le_of_lt first.lt_length) first.idle).elim

theorem concat (started : StartedAt calls pin position) {call : TimerCall}
    (still : pin ∈ (afterCalls (calls ++ [call])).pins) :
    StartedAt (calls ++ [call]) pin position where
  armed := by
    rw [List.getElem?_append_left started.lt_length]
    exact started.armed
  idle := by
    rw [List.take_append_of_le_length (Nat.le_of_lt started.lt_length)]
    exact started.idle
  runs := by
    intro later after within
    rw [List.length_append, List.length_singleton] at within
    rcases Nat.lt_or_eq_of_le within with earlier | last
    · have known := Nat.le_of_lt_succ earlier
      rw [List.take_append_of_le_length known]
      exact started.runs later after known
    · rw [last, List.take_of_length_le (by simp)]
      exact mem_pins_iff.mp still

theorem of_concat {line : OutputLine} {duration : UInt32}
    (absent : (afterCalls calls).find? line.pin = Option.none)
    (runs : line.pin ∈ (afterCalls (calls ++ [.arm line duration])).pins) :
    StartedAt (calls ++ [.arm line duration]) line.pin calls.length where
  armed := ⟨line, duration, List.getElem?_concat_length, rfl⟩
  idle := by
    rw [List.take_left]
    exact absent
  runs := by
    intro later after within
    rw [List.take_of_length_le (by simp; omega)]
    exact mem_pins_iff.mp runs

end StartedAt

/-- The pulse on one pin was started before that on another. -/
def StartedBefore (calls : List TimerCall) (first second : Pin) : Prop :=
  ∃ earlier later, StartedAt calls first earlier ∧ StartedAt calls second later ∧ earlier < later

theorem StartedBefore.concat {calls : List TimerCall} {call : TimerCall} {first second : Pin}
    (before : StartedBefore calls first second)
    (firstRuns : first ∈ (afterCalls (calls ++ [call])).pins)
    (secondRuns : second ∈ (afterCalls (calls ++ [call])).pins) :
    StartedBefore (calls ++ [call]) first second := by
  obtain ⟨earlier, later, firstStarted, secondStarted, less⟩ := before
  exact ⟨earlier, later, firstStarted.concat firstRuns, secondStarted.concat secondRuns, less⟩

/-- Each running pulse has a call that started it, and the pulses follow these calls. -/
structure FollowsCalls (calls : List TimerCall) : Prop where
  started : ∀ pin ∈ (afterCalls calls).pins, ∃ position, StartedAt calls pin position
  ordered : (afterCalls calls).pins.Pairwise (StartedBefore calls)

namespace FollowsCalls

variable {calls : List TimerCall}

theorem of_sublist (follows : FollowsCalls calls) {call : TimerCall}
    (kept : (afterCalls (calls ++ [call])).pins.Sublist (afterCalls calls).pins) :
    FollowsCalls (calls ++ [call]) := by
  constructor
  · intro pin member
    obtain ⟨position, found⟩ := follows.started pin (kept.subset member)
    exact ⟨position, found.concat member⟩
  · apply (follows.ordered.sublist kept).imp_of_mem
    intro first second firstRuns secondRuns before
    exact before.concat firstRuns secondRuns

/-- The last call is behind all that started the other pulses. -/
theorem of_append (follows : FollowsCalls calls) {line : OutputLine} {duration : UInt32}
    (absent : (afterCalls calls).find? line.pin = Option.none)
    (added : (afterCalls (calls ++ [.arm line duration])).pins =
      (afterCalls calls).pins ++ [line.pin]) :
    FollowsCalls (calls ++ [.arm line duration]) := by
  have old : ∀ pin ∈ (afterCalls calls).pins,
      pin ∈ (afterCalls (calls ++ [.arm line duration])).pins := by
    intro pin member
    rw [added]
    exact List.mem_append_left _ member
  have new : StartedAt (calls ++ [.arm line duration]) line.pin calls.length := by
    apply StartedAt.of_concat absent
    rw [added]
    exact List.mem_append_right _ (List.mem_singleton_self _)
  constructor
  · intro pin member
    rw [added, List.mem_append, List.mem_singleton] at member
    rcases member with earlier | rfl
    · obtain ⟨position, found⟩ := follows.started pin earlier
      exact ⟨position, found.concat (old pin earlier)⟩
    · exact ⟨calls.length, new⟩
  · rw [added]
    apply List.pairwise_append.mpr
    refine ⟨?_, List.pairwise_singleton _ _, ?_⟩
    · apply follows.ordered.imp_of_mem
      intro first second firstRuns secondRuns before
      exact before.concat (old first firstRuns) (old second secondRuns)
    · intro pin member last isLine
      rw [List.mem_singleton.mp isLine]
      obtain ⟨position, found⟩ := follows.started pin member
      exact ⟨position, calls.length, found.concat (old pin member), new, found.lt_length⟩

end FollowsCalls

theorem followsCalls (calls : List TimerCall) : FollowsCalls calls := by
  induction calls using List.reverseRecOn with
  | nil =>
      constructor
      · intro pin member
        cases member
      · exact List.Pairwise.nil
  | append_singleton calls call induction =>
      have next := afterCalls_concat calls call
      rcases (afterCalls calls).pins_perform call with kept | ⟨line, duration, rfl, absent, added⟩
      · rw [← next] at kept
        exact induction.of_sublist kept
      · rw [← next] at added
        exact induction.of_append absent added

/-- What starting a pulse answers and changes. -/
structure ArmLaw (pulses : Pulses) (line : OutputLine) (duration : UInt32) (taken : Bool)
    (after : Pulses) : Prop where
  foreseen : taken = pulses.canArm line
  taken_iff : taken = true ↔ pulses.size < capacity ∨ pulses.find? line.pin ≠ Option.none
  left : taken = true → after.remaining? line.pin = some duration.toNat
  held : taken = true → ∀ pin,
    after.find? pin = if pin = line.pin then some ⟨line, duration.toNat⟩ else pulses.find? pin
  refused : taken = false → after = pulses

/-- What giving up a pulse answers and changes. -/
structure CancelLaw (pulses : Pulses) (pin : Pin) (was : Bool) (after : Pulses) : Prop where
  was_iff : was = true ↔ pulses.find? pin ≠ Option.none
  held : ∀ other,
    after.find? other = if other = pin then Option.none else pulses.find? other

/-- Which lines are released when time passes, and what becomes of each pulse. -/
structure AdvanceLaw (calls : List TimerCall) (pulses : Pulses) (elapsed : UInt32)
    (ended : List OutputLine) (after : Pulses) : Prop where
  mem_ended : ∀ line, line ∈ ended ↔
    ∃ pulse, pulses.find? line.pin = some pulse ∧ pulse.line = line ∧
      pulse.remaining ≤ elapsed.toNat
  once : (ended.map (·.pin)).Nodup
  ordered : (ended.map (·.pin)).Pairwise (StartedBefore calls)
  idle : ∀ pin, pulses.find? pin = Option.none → after.find? pin = Option.none
  eitherWay : ∀ pin pulse, pulses.find? pin = some pulse →
    (pulse.remaining ≤ elapsed.toNat ∧ pulse.line ∈ ended ∧ after.find? pin = Option.none) ∨
      (elapsed.toNat < pulse.remaining ∧ pin ∉ ended.map (·.pin) ∧
        after.find? pin = some { pulse with remaining := pulse.remaining - elapsed.toNat })

/-- What a call answers and changes. -/
def Lawful (calls : List TimerCall) (pulses : Pulses) : TimerCall → TimerAnswer × Pulses → Prop
  | .arm line duration, (answer, after) =>
    ∃ taken, answer = .flag taken ∧ ArmLaw pulses line duration taken after
  | .cancel pin, (answer, after) => ∃ was, answer = .flag was ∧ CancelLaw pulses pin was after
  | .advance elapsed, (answer, after) =>
    ∃ ended, answer = .ended ended ∧ AdvanceLaw calls pulses elapsed ended after

theorem armLaw_perform (pulses : Pulses) (line : OutputLine) (duration : UInt32) :
    ArmLaw pulses line duration (pulses.arm? line duration.toNat).isSome
      ((pulses.arm? line duration.toNat).getD pulses) := by
  have startable := pulses.exists_arm?_iff line duration.toNat
  rw [← Option.isSome_iff_exists, ← any_isOn_iff] at startable
  have onPin : pulses.running.any (·.isOn line.pin) = true ↔
      pulses.find? line.pin ≠ Option.none := by
    rw [ne_eq, ← any_isOn_eq_false_iff, Bool.not_eq_false]
  constructor
  · rw [Bool.eq_iff_iff, startable, canArm, Bool.or_eq_true, decide_eq_true_eq]
  · rw [startable, onPin]
  · intro taken
    obtain ⟨armed, success⟩ := Option.isSome_iff_exists.mp taken
    rw [success, Option.getD_some, remaining?, find?_arm? success, if_pos rfl]
    rfl
  · intro taken pin
    obtain ⟨armed, success⟩ := Option.isSome_iff_exists.mp taken
    rw [success, Option.getD_some]
    exact find?_arm? success pin
  · intro refused
    rw [Option.isSome_eq_false_iff, Option.isNone_iff_eq_none] at refused
    rw [refused, Option.getD_none]

theorem cancelLaw_perform (pulses : Pulses) (pin : Pin) :
    CancelLaw pulses pin (pulses.cancel pin).1 (pulses.cancel pin).2 where
  was_iff := by
    rw [cancel, ne_eq, ← any_isOn_eq_false_iff, Bool.not_eq_false]
  held := pulses.find?_cancel pin

theorem advanceLaw_perform (calls : List TimerCall) (elapsed : UInt32) :
    AdvanceLaw calls (afterCalls calls) elapsed
      ((afterCalls calls).advance elapsed.toNat).1
      ((afterCalls calls).advance elapsed.toNat).2 where
  mem_ended := fun _ => mem_ended_iff
  once := pins_ended_nodup _ _
  ordered := by
    have within : (((afterCalls calls).advance elapsed.toNat).1.map (·.pin)).Sublist
        (afterCalls calls).pins := by
      rw [advance, List.map_map]
      exact List.filter_sublist.map _
    exact (followsCalls calls).ordered.sublist within
  idle := by
    intro pin absent
    rw [find?_advance, absent]
    rfl
  eitherWay := by
    intro pin pulse found
    obtain ⟨_, rfl⟩ := find?_eq_some_iff.mp found
    have after := (afterCalls calls).find?_advance elapsed.toNat pulse.line.pin
    rw [found, Option.bind_some] at after
    by_cases reached : pulse.remaining ≤ elapsed.toNat
    · rw [if_pos reached] at after
      exact .inl ⟨reached, mem_ended_iff.mpr ⟨pulse, found, rfl, reached⟩, after⟩
    · rw [if_neg reached] at after
      refine .inr ⟨Nat.lt_of_not_le reached, ?_, after⟩
      intro released
      obtain ⟨line, ended, samePin⟩ := List.mem_map.mp released
      obtain ⟨other, otherFound, _, otherReached⟩ := mem_ended_iff.mp ended
      rw [samePin, found] at otherFound
      cases otherFound
      exact reached otherReached

theorem lawful_perform (calls : List TimerCall) (call : TimerCall) :
    Lawful calls (afterCalls calls) call ((afterCalls calls).perform call) := by
  cases call with
  | arm line duration => exact ⟨_, rfl, armLaw_perform _ line duration⟩
  | cancel pin => exact ⟨_, rfl, cancelLaw_perform _ pin⟩
  | advance elapsed => exact ⟨_, rfl, advanceLaw_perform calls elapsed⟩

/-- After some calls, timers are a table over at most eight pins, and so they stay. -/
structure TimersFormMap (calls : List TimerCall) (pulses : Pulses) (table : TimerTable) :
    Prop where
  distinct : pulses.pins.Nodup
  bounded : pulses.size ≤ capacity
  placed : ∀ pin ∈ pulses.pins, ∃! position, StartedAt calls pin position
  lawful : ∀ call, Lawful calls pulses call (pulses.perform call)
  times : table.Times pulses
  distinctTimers : (table.timers.map (·.line.pin)).Nodup
  boundedTimers : table.timers.length ≤ capacity
  sameAnswer : ∀ call, (table.perform call).1 = (pulses.perform call).1
  sameForeseen : ∀ line, table.canArm line = pulses.canArm line
  sameRemaining : ∀ pin, (table.remaining? pin).map UInt32.toNat = pulses.remaining? pin

theorem timers_form_map (calls : List TimerCall) :
    TimersFormMap calls (afterCalls calls) (TimerTable.afterCalls calls) := by
  have times := TimerTable.times_afterCalls calls
  have samePins : (TimerTable.afterCalls calls).timers.map (·.line.pin) =
      (afterCalls calls).pins := by
    rw [pins, ← times, List.map_map]
    rfl
  constructor
  · exact (afterCalls calls).pins_distinct
  · exact (afterCalls calls).length_running
  · intro pin member
    obtain ⟨position, started⟩ := (followsCalls calls).started pin member
    exact ⟨position, started, fun other again => again.unique started⟩
  · exact lawful_perform calls
  · exact times
  · rw [samePins]
    exact (afterCalls calls).pins_distinct
  · rw [times.length_timers]
    exact (afterCalls calls).length_running
  · intro call
    exact (times.perform call).1
  · exact times.canArm
  · exact times.remaining?

/-- A pulse that is started anew keeps its place before one that was started later. -/
example :
    ((afterCalls [.arm ⟨⟨.a, 0⟩, false⟩ 9, .arm ⟨⟨.a, 1⟩, false⟩ 4, .arm ⟨⟨.a, 0⟩, true⟩ 2]).advance
      4).1 = [⟨⟨.a, 0⟩, true⟩, ⟨⟨.a, 1⟩, false⟩] := by
  decide

end Pulses

end Instrument

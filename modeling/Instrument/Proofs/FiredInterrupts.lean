import Instrument.Board.EdgeWait
import Instrument.Pin.Simulation

/-!
# Interrupts fired by a moved input

A simulated input sets off the first line of its port that watches it and senses
the step.  The chip commits to the first line that watches the pin and then waits
for the trigger of that line alone.  Sensing a step in the logic of a line is the
same as meeting its trigger, so the two differ only where the second line overtakes
the first: both watch the pin, but only the trigger of the second is met.
-/

namespace Instrument

/-- Whether a step from one level to another brings the condition about: an edge by
the step itself, a level by where the step ends. -/
def Trigger.isMet (trigger : Trigger) (was now : Bool) : Bool :=
  match trigger with
  | .risingEdge => !was && now
  | .fallingEdge => was && !now
  | .anyEdge => was != now
  | .low => !now
  | .high => now

theorem Sense.fires_eq_isMet (sense : Sense) (was now inverted : Bool) :
    sense.fires (was != inverted) (now != inverted) =
      (sense.trigger inverted).isMet was now := by
  cases sense <;> cases inverted <;> cases was <;> cases now <;> rfl

namespace PortInterrupts

/-- The line that a wait for one step of a pin ends with: the first that watches the
pin, if the step meets the trigger of that line. -/
def awaited? (lines : PortInterrupts) (pin : Pin) (sense : Sense) (was now : Bool) :
    Option InterruptLine :=
  match lines.watching? pin with
  | some (line, armed) =>
    if (sense.trigger armed.inverted).isMet was now then some line else none
  | none => none

/-- Both lines watch a pin, and a step meets the trigger of the second alone. -/
structure Overtaken (lines : PortInterrupts) (pin : Pin) (sense : Sense)
    (was now : Bool) (first second : ArmedInterrupt) : Prop where
  first_armed : lines.int0 = some first
  second_armed : lines.int1 = some second
  first_watches : first.watches pin = true
  second_watches : second.watches pin = true
  first_unmet : (sense.trigger first.inverted).isMet was now = false
  second_met : (sense.trigger second.inverted).isMet was now = true

theorem firstLine?_eq (lines : PortInterrupts) (test : ArmedInterrupt → Bool) :
    lines.firstLine? test =
      ((lines.int0.filter test).map fun armed => (InterruptLine.int0, armed)).or
        ((lines.int1.filter test).map fun armed => (InterruptLine.int1, armed)) := by
  rw [firstLine?, List.findSome?_cons, List.findSome?_cons, List.findSome?_nil]
  simp only [get]
  cases lines.int0.filter test with
  | some armed => rfl
  | none => cases lines.int1.filter test <;> rfl

/-- The line that a step of a pin sets off: the first that watches the pin and whose
trigger the step meets. -/
def sensed? (lines : PortInterrupts) (pin : Pin) (sense : Sense) (was now : Bool) :
    Option InterruptLine :=
  (lines.firstLine? fun armed =>
    armed.watches pin && (sense.trigger armed.inverted).isMet was now).map Prod.fst

variable {lines : PortInterrupts} {pin : Pin} {sense : Sense} {was now : Bool}

theorem Overtaken.inverted_ne {first second : ArmedInterrupt}
    (overtaken : lines.Overtaken pin sense was now first second) :
    first.inverted ≠ second.inverted := by
  intro same
  have unmet := overtaken.first_unmet
  rw [same, overtaken.second_met] at unmet
  cases unmet

theorem sensed?_eq (lines : PortInterrupts) (pin : Pin) (sense : Sense) (was now : Bool) :
    lines.sensed? pin sense was now =
      (((lines.int0.filter (·.watches pin)).filter fun armed =>
          (sense.trigger armed.inverted).isMet was now).map fun _ =>
            InterruptLine.int0).or
        (((lines.int1.filter (·.watches pin)).filter fun armed =>
          (sense.trigger armed.inverted).isMet was now).map fun _ =>
            InterruptLine.int1) := by
  simp only [sensed?, firstLine?_eq, Option.filter_filter, Option.map_or, Option.map_map,
    Function.comp_def]

theorem awaited?_eq (lines : PortInterrupts) (pin : Pin) (sense : Sense) (was now : Bool) :
    lines.awaited? pin sense was now =
      match lines.int0.filter (·.watches pin), lines.int1.filter (·.watches pin) with
      | some first, _ =>
        if (sense.trigger first.inverted).isMet was now then some .int0 else none
      | none, some second =>
        if (sense.trigger second.inverted).isMet was now then some .int1 else none
      | none, none => none := by
  rw [awaited?, watching?, firstLine?_eq]
  cases lines.int0.filter (·.watches pin) with
  | some first => rfl
  | none => cases lines.int1.filter (·.watches pin) <;> rfl

/-- Where the second line overtakes the first, it is set off, but no wait ends. -/
theorem Overtaken.sensed {first second : ArmedInterrupt}
    (overtaken : lines.Overtaken pin sense was now first second) :
    lines.sensed? pin sense was now = some .int1 ∧
      lines.awaited? pin sense was now = none := by
  obtain ⟨firstArmed, secondArmed, firstWatches, secondWatches, unmet, met⟩ := overtaken
  have firstWatching : lines.int0.filter (·.watches pin) = some first := by
    rw [firstArmed, Option.filter_some, if_pos firstWatches]
  have secondWatching : lines.int1.filter (·.watches pin) = some second := by
    rw [secondArmed, Option.filter_some, if_pos secondWatches]
  rw [sensed?_eq, awaited?_eq, firstWatching, secondWatching]
  constructor
  · simp [Option.filter, unmet, met]
  · simp [unmet]

/-- Unless the second line overtakes the first, the line set off is the one that a
wait ends with. -/
theorem sensed?_eq_awaited?
    (inOrder : ∀ first second, ¬ lines.Overtaken pin sense was now first second) :
    lines.sensed? pin sense was now = lines.awaited? pin sense was now := by
  rw [sensed?_eq, awaited?_eq]
  cases firstWatching : lines.int0.filter (·.watches pin) with
  | none =>
      cases lines.int1.filter (·.watches pin) with
      | none => rfl
      | some second =>
          cases met : (sense.trigger second.inverted).isMet was now <;>
            simp [Option.filter, met]
  | some first =>
      cases met : (sense.trigger first.inverted).isMet was now with
      | true => simp [Option.filter, met]
      | false =>
          cases secondWatching : lines.int1.filter (·.watches pin) with
          | none => simp [Option.filter, met]
          | some second =>
              obtain ⟨firstArmed, firstWatches⟩ := Option.filter_eq_some_iff.mp firstWatching
              obtain ⟨secondArmed, secondWatches⟩ :=
                Option.filter_eq_some_iff.mp secondWatching
              have silent : (sense.trigger second.inverted).isMet was now = false := by
                rw [← Bool.not_eq_true]
                intro secondMet
                exact inOrder first second
                  ⟨firstArmed, secondArmed, firstWatches, secondWatches, met, secondMet⟩
              simp [Option.filter, met, silent]

end PortInterrupts

namespace SimulatedPins

theorem fst_driveInput {pins : SimulatedPins} {pin : Pin} {pull : Pull} {sense : Sense}
    (input : (pins.pin pin).role = .input pull sense) (high : Bool) :
    (pins.driveInput pin high).1 =
      (pins.interrupts.get pin.port).sensed? pin sense (pins.pin pin).level high := by
  simp only [driveInput, input, Sense.fires_eq_isMet, PortInterrupts.sensed?]

end SimulatedPins

namespace Board

variable (before after : ChipPins) (pad : Fin 21)

theorem EdgeWait.seen_observe_begun :
    (EdgeWait.begun.observe before after).seen.get pad =
      { rising := !(before.pins.get pad).pad.level && (after.pins.get pad).pad.level
        falling := (before.pins.get pad).pad.level && !(after.pins.get pad).pad.level } := by
  have unseen : EdgeWait.begun.seen.get pad = {} := Vector.getElem_replicate _
  have noticed : (EdgeWait.begun.observe before after).seen.get pad = _ :=
    Vector.getElem_ofFn _
  rw [noticed]
  simp only [Fin.eta, unseen, Bool.false_or]

theorem EdgeWait.triggered_observe_begun (trigger : Trigger) :
    (EdgeWait.begun.observe before after).triggered after pad trigger =
      trigger.isMet (before.pins.get pad).pad.level (after.pins.get pad).pad.level := by
  have seen := EdgeWait.seen_observe_begun before after pad
  cases trigger with
  | risingEdge => exact congrArg (·.rising) seen
  | fallingEdge => exact congrArg (·.falling) seen
  | low | high => rfl
  | anyEdge =>
      simp only [EdgeWait.triggered, seen, Trigger.isMet]
      cases (before.pins.get pad).pad.level <;> cases (after.pins.get pad).pad.level <;> rfl

/-- A wait that has seen one step of an input ends with the line awaited for it. -/
theorem EdgeWait.fired?_observe_begun {sense : Sense}
    (input : (after.pins.get pad).role = .input sense) :
    (EdgeWait.begun.observe before after).fired? after pad =
      ((after.interrupts.get (wiredPins.get pad).port).awaited? (wiredPins.get pad) sense
          (before.pins.get pad).pad.level (after.pins.get pad).pad.level).map
        fun line => ((wiredPins.get pad).port, line) := by
  simp only [EdgeWait.fired?, input, PortInterrupts.awaited?, triggered_observe_begun]
  cases (after.interrupts.get (wiredPins.get pad).port).watching? (wiredPins.get pad) with
  | none => rfl
  | some watching =>
      dsimp only
      split <;> rfl

end Board

namespace SimulatedPins

/-- A moved input sets off the line that a wait for the same step ends with, unless
the second line of the port overtakes the first.  Then the second line is set off, its
inversion is not that of the first, and no wait ends. -/
theorem driveInput_fires {pins : SimulatedPins} {pin : Pin} {pull : Pull} {sense : Sense}
    (input : (pins.pin pin).role = .input pull sense) (high : Bool) :
    ((∃ first second, (pins.interrupts.get pin.port).Overtaken pin sense
          (pins.pin pin).level high first second) ↔
        (pins.driveInput pin high).1 ≠
          (pins.interrupts.get pin.port).awaited? pin sense (pins.pin pin).level high) ∧
      (∀ line, (pins.interrupts.get pin.port).awaited? pin sense (pins.pin pin).level high =
        some line → (pins.driveInput pin high).1 = some line) ∧
      (∀ first second, (pins.interrupts.get pin.port).Overtaken pin sense
          (pins.pin pin).level high first second →
        (pins.driveInput pin high).1 = some .int1 ∧
          (pins.interrupts.get pin.port).awaited? pin sense (pins.pin pin).level high =
            none ∧
          first.inverted ≠ second.inverted) ∧
      ∀ (before after : Board.ChipPins) (pad : Fin 21), Board.wiredPins.get pad = pin →
        (after.pins.get pad).role = .input sense →
        after.interrupts.get pin.port = pins.interrupts.get pin.port →
        (before.pins.get pad).pad.level = (pins.pin pin).level →
        (after.pins.get pad).pad.level = high →
        (Board.EdgeWait.begun.observe before after).fired? after pad =
          ((pins.interrupts.get pin.port).awaited? pin sense (pins.pin pin).level high).map
            fun line => (pin.port, line) := by
  rw [fst_driveInput input]
  generalize pins.interrupts.get pin.port = lines
  generalize (pins.pin pin).level = was
  refine ⟨?_, ?_, ?_, ?_⟩
  · constructor
    · intro overtaken
      obtain ⟨first, second, overtaken⟩ := overtaken
      rw [overtaken.sensed.1, overtaken.sensed.2]
      exact Option.some_ne_none _
    · intro different
      apply Classical.byContradiction
      intro inOrder
      simp only [not_exists] at inOrder
      exact different (PortInterrupts.sensed?_eq_awaited? inOrder)
  · intro line awaited
    by_cases overtaken : ∃ first second, lines.Overtaken pin sense was high first second
    · obtain ⟨first, second, overtaken⟩ := overtaken
      rw [overtaken.sensed.2] at awaited
      cases awaited
    · simp only [not_exists] at overtaken
      rw [PortInterrupts.sensed?_eq_awaited? overtaken, awaited]
  · intro first second overtaken
    exact ⟨overtaken.sensed.1, overtaken.sensed.2, overtaken.inverted_ne⟩
  · intro before after pad wired role sameLines startLevel endLevel
    subst wired startLevel endLevel
    rw [Board.EdgeWait.fired?_observe_begun before after pad role, sameLines]

/-- The beam of the first poke port is high, and both interrupt lines watch it, the second
one in inverted logic. -/
def crossedBeam : SimulatedPins :=
  let input := (PinDriver.configureInput fresh NosePoke.beam0 .floating .rising).2
  let first := (PinDriver.arm input .d .int0 ⟨.low, NosePoke.beam0.mask, false⟩).2
  let both := (PinDriver.arm first .d .int1 ⟨.low, NosePoke.beam0.mask, true⟩).2
  (both.driveInput NosePoke.beam0 true).2

/-- The chip with the same interrupt lines and every pad an input at one level. -/
def crossedChip (level : Bool) : Board.ChipPins where
  pins := Vector.replicate 21 { pad := { external := some level }, role := .input .rising }
  interrupts := crossedBeam.interrupts

/-- When the beam falls, the inverted second line is set off, while the first line, which
a wait commits to, awaits a rise. -/
theorem driveInput_disagrees_crossed :
    ¬ ∀ (pins : SimulatedPins) (pin : Pin) (pull : Pull) (sense : Sense) (high : Bool),
      (pins.pin pin).role = .input pull sense →
        (pins.driveInput pin high).1 =
          (pins.interrupts.get pin.port).awaited? pin sense (pins.pin pin).level high := by
  intro agree
  have claimed := agree crossedBeam NosePoke.beam0 .floating .rising false rfl
  have fired : (crossedBeam.driveInput NosePoke.beam0 false).1 = some .int1 := rfl
  have awaited : (crossedBeam.interrupts.get NosePoke.beam0.port).awaited?
      NosePoke.beam0 .rising (crossedBeam.pin NosePoke.beam0).level false = none := rfl
  rw [fired, awaited] at claimed
  cases claimed

/-- A fall of the crossed beam sets off the second line, and the wait of the chip does
not end with it. -/
theorem driveInput_fires_crossed :
    (crossedBeam.driveInput NosePoke.beam0 false).1 = some .int1 ∧
      (Board.EdgeWait.begun.observe (crossedChip true) (crossedChip false)).fired?
        (crossedChip false) 0 = none := by
  have falls := @driveInput_fires crossedBeam NosePoke.beam0 .floating .rising rfl false
  have overtaken : (crossedBeam.interrupts.get NosePoke.beam0.port).Overtaken
      NosePoke.beam0 .rising (crossedBeam.pin NosePoke.beam0).level false
      ⟨.low, NosePoke.beam0.mask, false⟩ ⟨.low, NosePoke.beam0.mask, true⟩ :=
    ⟨rfl, rfl, rfl, rfl, rfl, rfl⟩
  have fired := falls.2.2.1 _ _ overtaken
  refine ⟨fired.1, ?_⟩
  rw [falls.2.2.2 (crossedChip true) (crossedChip false) 0 rfl rfl rfl rfl rfl, fired.2.1]
  rfl

end SimulatedPins

end Instrument

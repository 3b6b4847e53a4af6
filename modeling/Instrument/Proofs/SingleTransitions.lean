import Instrument.Proofs.PinCommands
import Instrument.Proofs.RequestEquations

/-!
# One transition for a write

A write to a register of output lines brings each of their pins to its new level at once.
The pin counts one transition if it was at the other level and none if it was there already,
even if a pulse on it ran out of turn.  While nothing but the controller moves the pins, a
running pulse holds its line active, so starting it anew counts nothing.
-/

namespace Instrument

/-- The pin goes to a level straight from the one it has. -/
structure SimulatedPin.MovesTo (before after : SimulatedPin) (high : Bool) : Prop where
  level : after.level = high
  transitions : after.transitions = before.transitions + if before.level = high then 0 else 1

theorem SimulatedPin.movesTo_drive {pin : SimulatedPin} (output : pin.IsOutput) (high : Bool) :
    pin.MovesTo (pin.drive high) high := by
  refine ⟨level_drive output high, ?_⟩
  obtain ⟨wiring, readback, role⟩ := output
  simp only [drive, role, moveTo]
  split
  · exact (UInt32.add_zero _).symm
  · rfl

namespace Controller

/-- Since its start nothing but the controller has moved the pins. -/
def Undisturbed (controller : Controller SimulatedPins) : Prop :=
  ∃ layout pins contents start operations,
    Started layout pins contents start ∧
      (∀ operation ∈ operations, operation.leavesPins = true) ∧
        start.run operations = controller

theorem role_run (controller : Controller SimulatedPins)
    {operations : List (Operation SimulatedPins)}
    (own : ∀ operation ∈ operations, operation.leavesPins = true) (pin : Pin) :
    ((controller.run operations).pins.pin pin).role = (controller.pins.pin pin).role := by
  apply controller.role_run_of_keepsRoles
  intro operation member
  exact Operation.keepsRoles_of_leavesPins (own operation member)

theorem Undisturbed.level_of_running {controller : Controller SimulatedPins}
    (undisturbed : controller.Undisturbed) {pin : Pin} {pulse : Pulse}
    (runs : controller.pulses.find? pin = some pulse)
    (output : (controller.pins.pin pin).IsOutput) :
    (controller.pins.pin pin).level = pulse.line.level true := by
  obtain ⟨layout, pins, contents, start, operations, started, own, rfl⟩ := undisturbed
  rw [SimulatedPin.IsOutput, start.role_run own] at output
  rcases start.untouched_or_lastCommand operations pin with
    untouched | ⟨command, elapsed, last⟩
  · obtain ⟨signals, loads⟩ := started.loads
    have initially : start.Obeys pin 0 (.level (start.pins.pin pin).level) :=
      ⟨rfl, by rw [(loadAll_keeps loads).2]; rfl⟩
    have idle := (initially.run output own untouched).2
    rw [idle] at runs
    cases runs
  · have obeys := last.obeys output own
    cases command with
    | level high =>
        rw [obeys.2] at runs
        cases runs
    | pulse line duration =>
        rw [Obeys] at obeys
        split at obeys
        · rw [obeys.2] at runs
          cases runs
          exact obeys.1
        · rw [obeys.2] at runs
          cases runs

/-- What a write to a driving register makes of its pins. -/
structure DrivesOnce (controller after : Controller SimulatedPins) (address : UInt8)
    (payload : Bytes) (value : Nat) (lines : List OutputLine) : Prop where
  moves : ∀ (position : Nat) (line : OutputLine), lines[position]? = some line →
    (controller.pins.pin line.pin).MovesTo (after.pins.pin line.pin)
      (line.level (value.testBit position))
  idle : ∀ line ∈ lines, after.pulses.find? line.pin = none
  acceptedAgain : (after.write address payload).1 = .ok ()
  unmovedAgain : (after.write address payload).2.pins = after.pins

/-- What a write to a pulse register makes of its pin. -/
structure PulsesOnce (controller after : Controller SimulatedPins) (line : OutputLine) :
    Prop where
  moves : (controller.pins.pin line.pin).MovesTo (after.pins.pin line.pin) (line.level true)
  rearmed : controller.Undisturbed →
    ∀ pulse, controller.pulses.find? line.pin = some pulse → pulse.line = line →
      after.pins.pin line.pin = controller.pins.pin line.pin

section Written

variable (controller : Controller SimulatedPins) (index : Fin controller.layout.size)
  {payload : Bytes}

theorem drivesOnce_carriedOut {rule : Rule} {lines : List OutputLine}
    (behaviour : (controller.layout.register index).behaviour = .drive rule lines)
    (sized : payload.length = (controller.layout.register index).size)
    (acceptable : Acceptable controller.pulses (controller.layout.register index) payload)
    (distinct : (lines.map (·.pin)).Nodup)
    (outputs : ∀ line ∈ lines, (controller.pins.pin line.pin).IsOutput) :
    DrivesOnce controller (controller.carriedOut index payload)
      (controller.layout.addressOf index) payload
      ((controller.layout.register index).descriptor.kind.bits payload) lines := by
  let commands := (controller.layout.register index).commands payload
  have areBits : commands =
      bitCommands ((controller.layout.register index).descriptor.kind.bits payload) lines := by
    simp only [commands, Register.commands, behaviour]
  have once : (commands.map (·.1.pin)).Nodup := by
    rw [areBits, pins_bitCommands]
    exact distinct
  have stillAcceptable : Acceptable (controller.carriedOut index payload).pulses
      (controller.layout.register index) payload := by
    simpa only [Acceptable, behaviour] using acceptable
  have again : (controller.carriedOut index payload).write
      (controller.layout.addressOf index) payload = _ :=
    (controller.carriedOut index payload).write_acceptable index sized stillAcceptable
  constructor
  · intro position line found
    have member : (line, Nat.testBit
        ((controller.layout.register index).descriptor.kind.bits payload) position) ∈ commands := by
      apply List.mem_of_getElem?
      rw [areBits, getElem?_bitCommands, found, Option.map_some]
    have moved := controller.pins.pin_driveEach_of_nodup once member
    rw [carriedOut, moved]
    exact SimulatedPin.movesTo_drive (outputs line (List.mem_of_getElem? found)) _
  · intro line member
    rw [carriedOut, Register.pulsesAfter, behaviour]
    simp only [Pulses.find?_cancelEach]
    exact if_pos (List.mem_map_of_mem member)
  · rw [again]
    rfl
  · rw [again]
    exact controller.pins.driveEach_driveEach once

theorem pulsesOnce_carriedOut {rule : Rule} {line : OutputLine}
    (behaviour : (controller.layout.register index).behaviour = .pulse rule line)
    (output : (controller.pins.pin line.pin).IsOutput) :
    PulsesOnce controller (controller.carriedOut index payload) line := by
  have driven : (controller.carriedOut index payload).pins.pin line.pin =
      (controller.pins.pin line.pin).drive (line.level true) := by
    rw [carriedOut, Register.commands, behaviour]
    exact (controller.pins.pin_drive line true line.pin).trans (if_pos rfl)
  constructor
  · rw [driven]
    exact SimulatedPin.movesTo_drive output _
  · intro undisturbed pulse runs sameLine
    have active := undisturbed.level_of_running runs output
    rw [sameLine] at active
    rw [driven, SimulatedPin.drive_of_settled active]

end Written

/-- What a write to a register of output lines makes of the pins. -/
structure WritesOnce (controller after : Controller SimulatedPins)
    (index : Fin controller.layout.size) (payload : Bytes) : Prop where
  drive : ∀ rule lines,
    (controller.layout.register index).behaviour = .drive rule lines →
      (lines.map (·.pin)).Nodup →
        DrivesOnce controller after (controller.layout.addressOf index) payload
          ((controller.layout.register index).descriptor.kind.bits payload) lines
  pulse : ∀ rule line,
    (controller.layout.register index).behaviour = .pulse rule line →
      PulsesOnce controller after line
  others : ∀ pin, pin ∉ (controller.layout.register index).behaviour.lines.map (·.pin) →
    after.pins.pin pin = controller.pins.pin pin

/-- Whatever state the controller is in, a write that it accepts moves each output it names
at most once, and no other pin. -/
theorem write_moves_once (controller : Controller SimulatedPins)
    (index : Fin controller.layout.size) {payload : Bytes}
    (accepted : (controller.write (controller.layout.addressOf index) payload).1 = .ok ())
    (outputs : ∀ line ∈ (controller.layout.register index).behaviour.lines,
      (controller.pins.pin line.pin).IsOutput) :
    WritesOnce controller (controller.write (controller.layout.addressOf index) payload).2
      index payload := by
  obtain ⟨taker, samePlace, sized, takes⟩ := controller.write_taken accepted
  rw [controller.layout.addressOf_injective samePlace] at sized takes
  have free := @takes.pin_of_free
  have written := controller.write_acceptable index sized takes.acceptable
  rw [written] at free ⊢
  constructor
  · intro rule lines behaviour distinct
    rw [behaviour] at outputs
    exact controller.drivesOnce_carriedOut index behaviour sized takes.acceptable distinct outputs
  · intro rule line behaviour
    rw [behaviour] at outputs
    exact controller.pulsesOnce_carriedOut index behaviour
      (outputs line (List.mem_singleton_self line))
  · intro pin unnamed
    exact free unnamed

/-- A pulse holds the first output of the nose-poke controller high when a write takes that
output down and the others up. -/
theorem write_moves_once_nosePoke :
    let configured := NosePoke.drivenLines.foldl (fun pins line =>
      (PinDriver.configureOutput pins line.pin .pushPull .enabled).2) SimulatedPins.fresh
    let controller : Controller SimulatedPins :=
      { layout := NosePoke.layout, store := .zeroed
        pins := PinDriver.drive configured ⟨NosePoke.output0, false⟩ true
        signals := .clear, pulses := { running := [⟨⟨NosePoke.output0, false⟩, 5⟩] } }
    (controller.write 41 [14]).1 = .ok () ∧
      (∀ line ∈ NosePoke.drivenLines, (controller.pins.pin line.pin).IsOutput) ∧
        WritesOnce controller (controller.write 41 [14]).2 ⟨9, by decide⟩ [14] := by
  intro configured controller
  have member : controller.layout.register ⟨9, by decide⟩ ∈ controller.layout.registers :=
    List.get_mem _ _
  have passes : (Rule.within ⟨"MSK_DO_PORT", 15⟩).accepts (.unsigned .one) [14] = true := by decide
  have accepted : (controller.write 41 [14]).1 = .ok () :=
    ((controller.write_answered 41 [14]).ok _ member rfl rfl).mpr passes
  have outputs : ∀ line ∈ NosePoke.drivenLines, (controller.pins.pin line.pin).IsOutput := by
    intro line driven
    refine ⟨.pushPull, .enabled, ?_⟩
    revert line
    decide +kernel
  exact ⟨accepted, outputs, controller.write_moves_once ⟨9, by decide⟩ accepted outputs⟩

end Controller

end Instrument

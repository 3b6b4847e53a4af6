import Instrument.Proofs.PadDiscipline
import Instrument.Proofs.PinCommands
import Instrument.Proofs.TaskCalls

/-!
# Pulses of the chip

Between boot and the end of its power every output of the chip drives its pad, whatever is
applied from outside.  A write that starts a pulse drives the pad active; each tick takes a
millisecond off the pulse, and the one that takes the last drives the pad inactive.  Nothing
but another accepted write to the pin changes this.
-/

namespace Instrument

open Board NosePoke

theorem named_of_commands {register : Register} {payload : Bytes} {pin : Pin}
    {command : Command} (commands : Commands register payload pin command) :
    pin ∈ register.behaviour.lines.map (·.pin) := by
  cases behaviour : register.behaviour with
  | drive =>
      simp only [Commands, behaviour] at commands
      obtain ⟨_, line, found, onPin, _⟩ := commands
      exact List.mem_map.mpr ⟨line, List.mem_of_getElem? found, onPin⟩
  | pulse =>
      simp only [Commands, behaviour] at commands
      exact List.mem_singleton.mpr commands.1.symm
  | _ => simp only [Commands, behaviour] at commands

namespace Board.ChipPins

/-- A pin is a push-pull output, and its pad drives a level. -/
def Drives (chip : ChipPins) (pin : Pin) (high : Bool) : Prop :=
  ∃ cell readback, chip.get? pin = some cell ∧ cell.role = .output .pushPull readback ∧
    cell.Stands high cell.role

namespace Drives

variable {chip : ChipPins} {pin : Pin} {high : Bool}

theorem padLevel (drives : chip.Drives pin high) : chip.padLevel pin = high := by
  obtain ⟨cell, readback, found, role, stands⟩ := drives
  rw [role] at stands
  simp [ChipPins.padLevel, found, Pad.level, stands.driving, stands.latch]

theorem drive (drives : chip.Drives pin high) (line : OutputLine) (active : Bool) :
    (PinDriver.drive chip line active).Drives pin
      (if pin = line.pin then line.level active else high) := by
  obtain ⟨cell, readback, found, role, stands⟩ := drives
  rw [ChipPins.drive_eq_modify, Drives, get?_modify, found]
  split
  · refine ⟨_, readback, rfl, (cell.role_command _).trans role, ?_⟩
    rw [cell.role_command]
    exact stands.command _
  · exact ⟨cell, readback, rfl, role, stands⟩

theorem applyExternal (drives : chip.Drives pin high) (moved : Pin) (level : Option Bool) :
    (chip.applyExternal moved level).Drives pin high := by
  obtain ⟨cell, readback, found, role, stands⟩ := drives
  rw [ChipPins.applyExternal, Drives, get?_modify, found]
  split
  · exact ⟨_, readback, rfl, role, stands.applyExternal level⟩
  · exact ⟨cell, readback, rfl, role, stands⟩

theorem driveEach (drives : chip.Drives pin high) (commands : List (OutputLine × Bool)) :
    ∃ level, (PinDriver.driveEach chip commands).Drives pin level := by
  induction commands generalizing chip high with
  | nil => exact ⟨high, drives⟩
  | cons command rest induction => exact induction (drives.drive command.1 command.2)

theorem driveEach_of_agree (drives : chip.Drives pin high)
    {commands : List (OutputLine × Bool)} {level : Bool}
    (agree : ∀ command ∈ commands, command.1.pin = pin → command.1.level command.2 = level) :
    (PinDriver.driveEach chip commands).Drives pin
      (if pin ∈ commands.map (·.1.pin) then level else high) := by
  induction commands generalizing chip high with
  | nil => exact drives
  | cons command rest induction =>
      rw [List.forall_mem_cons] at agree
      have later := induction (drives.drive command.1 command.2) agree.2
      rw [PinDriver.driveEach_cons]
      simp only [List.map_cons, List.mem_cons]
      by_cases named : pin ∈ rest.map (·.1.pin)
      · rw [if_pos named] at later
        rw [if_pos (.inr named)]
        exact later
      · rw [if_neg named] at later
        by_cases here : pin = command.1.pin
        · rw [if_pos here, agree.1 here.symm] at later
          rw [if_pos (.inl here)]
          exact later
        · rw [if_neg here] at later
          rw [if_neg (not_or.mpr ⟨here, named⟩)]
          exact later

theorem driveEach_of_notMem (drives : chip.Drives pin high)
    {commands : List (OutputLine × Bool)} (free : pin ∉ commands.map (·.1.pin)) :
    (PinDriver.driveEach chip commands).Drives pin high := by
  have agree : ∀ command ∈ commands, command.1.pin = pin → command.1.level command.2 = high := by
    intro command member onPin
    exact absurd (List.mem_map.mpr ⟨command, member, onPin⟩) free
  have driven := drives.driveEach_of_agree agree
  rw [if_neg free] at driven
  exact driven

end Drives

end Board.ChipPins

namespace NosePoke

/-- Every output drives its pad. -/
def OutputsDrive (chip : ChipPins) : Prop :=
  ∀ output ∈ outputs, ∃ high, chip.Drives output.pin high

theorem outputsDrive_booted {chip after : ChipPins} (board : BootedBoard chip after) :
    OutputsDrive after := by
  intro output listed
  have pushPull : ∀ output ∈ outputs, output.wiring = .pushPull := by decide
  obtain ⟨cell, found⟩ := chip.exists_cell (output_wired listed)
  have driven := board.driven output listed
  rw [found, pushPull output listed] at driven
  have stands := cell.stands_becomeOutput .pushPull output.readback
  exact ⟨_, _, output.readback, driven, rfl, stands.command _⟩

theorem named_output {register : Register} (member : register ∈ layout.registers) {pin : Pin}
    (named : pin ∈ register.behaviour.lines.map (·.pin)) :
    ∃ output ∈ outputs, output.pin = pin := by
  have all : ∀ register ∈ layout.registers, ∀ pin ∈ register.behaviour.lines.map (·.pin),
      ∃ output ∈ outputs, output.pin = pin := by decide
  exact all register member pin named

end NosePoke

namespace Controller

/-- A pulse some milliseconds after it was started: it runs and drives its pad active until
its time is over, and then the pad is driven inactive. -/
def Pulsing (controller : Controller ChipPins) (line : OutputLine) (duration elapsed : Nat) :
    Prop :=
  if elapsed < duration then
    controller.pins.Drives line.pin (line.level true) ∧
      controller.pulses.find? line.pin = some ⟨line, duration - elapsed⟩
  else
    controller.pins.Drives line.pin (line.level false) ∧
      controller.pulses.find? line.pin = none

section

variable {controller : Controller ChipPins} {pin : Pin} {high : Bool}

/-- A tick changes the level of a pin only where it ends its pulse. -/
theorem drives_tick (drives : controller.pins.Drives pin high) (elapsed : Nat) :
    (controller.tick elapsed).pins.Drives pin
      (match controller.pulses.find? pin with
      | some pulse => if pulse.remaining ≤ elapsed then pulse.line.level false else high
      | none => high) := by
  -- Whatever the tick releases on the pin is the line of the one pulse that the pin has.
  have released : ∀ command ∈ (controller.pulses.advance elapsed).1.map (·, false),
      command.1.pin = pin → ∃ pulse, controller.pulses.find? pin = some pulse ∧
        command = (pulse.line, false) ∧ pulse.remaining ≤ elapsed := by
    intro command member onPin
    obtain ⟨line, ended, rfl⟩ := List.mem_map.mp member
    obtain ⟨pulse, runs, rfl, reached⟩ := Pulses.mem_ended_iff.mp ended
    have onPin : pulse.line.pin = pin := onPin
    rw [onPin] at runs
    exact ⟨pulse, runs, rfl, reached⟩
  rw [pins_tick]
  by_cases ends : ∃ pulse, controller.pulses.find? pin = some pulse ∧ pulse.remaining ≤ elapsed
  · obtain ⟨pulse, runs, reached⟩ := ends
    have onPin := (Pulses.find?_eq_some_iff.mp runs).2
    have agree : ∀ command ∈ (controller.pulses.advance elapsed).1.map (·, false),
        command.1.pin = pin → command.1.level command.2 = pulse.line.level false := by
      intro command member onPin
      obtain ⟨other, otherRuns, rfl, _⟩ := released command member onPin
      rw [runs, Option.some.injEq] at otherRuns
      rw [otherRuns]
    have driven := drives.driveEach_of_agree agree
    subst onPin
    have ended := Pulses.mem_ended_iff.mpr ⟨pulse, runs, rfl, reached⟩
    rw [if_pos (List.mem_map_of_mem (List.mem_map_of_mem ended))] at driven
    simp only [runs, if_pos reached]
    exact driven
  · have driven := drives.driveEach_of_notMem fun named => by
      obtain ⟨command, member, onPin⟩ := List.mem_map.mp named
      obtain ⟨pulse, runs, _, reached⟩ := released command member onPin
      exact ends ⟨pulse, runs, reached⟩
    cases runs : controller.pulses.find? pin with
    | none => exact driven
    | some pulse =>
        have running : ¬ pulse.remaining ≤ elapsed := fun reached => ends ⟨pulse, runs, reached⟩
        simp only [if_neg running]
        exact driven

theorem Takes.drives_of_free {register : Register} {payload : Bytes} {pins : ChipPins}
    {signals : Signals} {pulses : Pulses}
    (takes : Takes controller register payload pins signals pulses)
    (drives : controller.pins.Drives pin high)
    (free : pin ∉ register.behaviour.lines.map (·.pin)) : pins.Drives pin high := by
  cases takes with
  | setting | counter => exact drives
  | drive behaviour =>
      rw [behaviour] at free
      apply drives.driveEach_of_notMem
      rw [pins_bitCommands]
      exact free
  | @pulse rule line _ _ behaviour =>
      rw [behaviour] at free
      have driven := drives.drive line true
      rw [if_neg (fun same => free (List.mem_singleton.mpr same))] at driven
      exact driven

theorem Takes.exists_drives {register : Register} {payload : Bytes} {pins : ChipPins}
    {signals : Signals} {pulses : Pulses}
    (takes : Takes controller register payload pins signals pulses)
    (drives : controller.pins.Drives pin high) : ∃ level, pins.Drives pin level := by
  cases takes with
  | setting | counter => exact ⟨high, drives⟩
  | drive => exact drives.driveEach _
  | pulse => exact ⟨_, drives.drive _ true⟩

variable {after : Controller ChipPins} {line : OutputLine} {duration since : Nat}

/-- What keeps the pulse of a pin and the level of its pad keeps the pulse as it stands. -/
theorem Pulsing.of_kept (pulsing : controller.Pulsing line duration since)
    (pads : ∀ high, controller.pins.Drives line.pin high → after.pins.Drives line.pin high)
    (left : after.pulses.find? line.pin = controller.pulses.find? line.pin) :
    after.Pulsing line duration since := by
  rw [Pulsing] at pulsing ⊢
  rw [left]
  by_cases active : since < duration
  · rw [if_pos active] at pulsing ⊢
    exact ⟨pads _ pulsing.1, pulsing.2⟩
  · rw [if_neg active] at pulsing ⊢
    exact ⟨pads _ pulsing.1, pulsing.2⟩

/-- A write that starts a pulse drives the line active for the whole time of it. -/
theorem Takes.pulsing {register : Register} {payload : Bytes} {signals : Signals}
    (takes : Takes controller register payload after.pins signals after.pulses)
    (commands : Commands register payload line.pin (.pulse line duration))
    (drives : controller.pins.Drives line.pin high) : after.Pulsing line duration 0 := by
  generalize leftPins : after.pins = pins at takes
  generalize leftPulses : after.pulses = pulses at takes
  cases takes with
  | setting behaviour | counter behaviour => simp only [Commands, behaviour] at commands
  | drive behaviour =>
      simp only [Commands, behaviour] at commands
      obtain ⟨_, _, _, _, _, other⟩ := commands
      cases other
  | pulse behaviour _ length started =>
      simp only [Commands, behaviour] at commands
      obtain ⟨_, asked, integer, same⟩ := commands
      cases same
      obtain ⟨agreed, positive, _⟩ := pulseDuration?_eq_some_iff.mp length
      rw [integer, Option.some.injEq, Int.ofNat_inj] at agreed
      subst agreed
      have running : 0 < duration := positive
      have driven := drives.drive line true
      rw [if_pos rfl] at driven
      rw [Pulsing, if_pos running, leftPins, leftPulses, Pulses.find?_arm? started, if_pos rfl]
      exact ⟨driven, rfl⟩

theorem Pulsing.tick (pulsing : controller.Pulsing line duration since) (elapsed : Nat) :
    (controller.tick elapsed).Pulsing line duration (since + elapsed) := by
  have left : (controller.tick elapsed).pulses.find? line.pin = _ :=
    controller.pulses.find?_advance elapsed line.pin
  rw [Pulsing] at pulsing ⊢
  by_cases active : since < duration
  · rw [if_pos active] at pulsing
    have driven := drives_tick pulsing.1 elapsed
    rw [pulsing.2, Option.bind_some] at left
    simp only [pulsing.2] at driven
    by_cases reached : duration - since ≤ elapsed
    · rw [if_pos reached] at driven left
      rw [if_neg (by omega)]
      exact ⟨driven, left⟩
    · rw [if_neg reached] at driven left
      rw [if_pos (by omega), left, Nat.sub_sub]
      exact ⟨driven, rfl⟩
  · rw [if_neg active] at pulsing
    have driven := drives_tick pulsing.1 elapsed
    rw [pulsing.2, Option.bind_none] at left
    simp only [pulsing.2] at driven
    rw [if_neg (by omega)]
    exact ⟨driven, left⟩

/-- A write that does not name the pin leaves its pulse alone. -/
theorem Pulsing.write (pulsing : controller.Pulsing line duration since) {address : UInt8}
    {payload : Bytes}
    (quiet : (controller.write address payload).1 = .ok () →
      ¬ controller.layout.Names address line.pin) :
    (controller.write address payload).2.Pulsing line duration since := by
  cases answer : (controller.write address payload).1 with
  | error reason =>
      rw [controller.write_refused answer]
      exact pulsing
  | ok =>
      obtain ⟨index, place, _, takes⟩ := controller.write_taken answer
      have free : line.pin ∉ (controller.layout.register index).behaviour.lines.map (·.pin) :=
        fun named => quiet answer ⟨index, place, named⟩
      exact pulsing.of_kept (fun _ drives => takes.drives_of_free drives free)
        (takes.find?_of_free free)

end

end Controller

namespace Firmware

open Controller

namespace Call

/-- What a call does besides reading registers and calling on the signals. -/
def moving (controller : Controller ChipPins) : Call → Controller ChipPins
  | .serve (.write address payload) => (controller.write address payload.bytes).2
  | .tick => controller.tick 1
  | .external pin level => { controller with pins := controller.pins.applyExternal pin level }
  | .serve (.read _) | .interrupt _ _ | .sample _ => controller

theorem moved_after (controller : Controller ChipPins) (call : Call) :
    (call.after controller).pins = (call.moving controller).pins ∧
      (call.after controller).pulses = (call.moving controller).pulses := by
  cases call with
  | serve request =>
      rw [after_eq_run]
      cases request with
      | read address => exact (kept_reads controller [address]).2
      | write address payload =>
          rw [operations, run_cons]
          cases (controller.write address payload.bytes).1 with
          | error => exact ⟨rfl, rfl⟩
          | ok => exact (kept_reads _ [address]).2
  | tick =>
      rw [after_eq_run]
      exact (kept_reads _ _).2
  | interrupt | sample | external => exact ⟨rfl, rfl⟩

/-- The address that an accepted write goes to. -/
def written (controller : Controller ChipPins) : Call → List UInt8
  | .serve (.write address payload) =>
    match (controller.write address payload.bytes).1 with
    | .ok () => [address]
    | .error _ => []
  | _ => []

def isTick : Call → Bool
  | .tick => true
  | _ => false

theorem outputsDrive_after {controller : Controller ChipPins}
    (drive : OutputsDrive controller.pins) (call : Call) :
    OutputsDrive (call.after controller).pins := by
  intro output listed
  obtain ⟨high, drives⟩ := drive output listed
  rw [(call.moved_after controller).1]
  cases call with
  | serve request =>
      cases request with
      | read => exact ⟨high, drives⟩
      | write address payload =>
          rw [moving]
          cases answer : (controller.write address payload.bytes).1 with
          | error =>
              rw [controller.write_refused answer]
              exact ⟨high, drives⟩
          | ok =>
              obtain ⟨_, _, _, takes⟩ := controller.write_taken answer
              exact takes.exists_drives drives
  | tick => exact ⟨_, drives_tick drives 1⟩
  | external pin level => exact ⟨high, drives.applyExternal pin level⟩
  | interrupt | sample => exact ⟨high, drives⟩

theorem outputsDrive_afterAll {controller : Controller ChipPins}
    (drive : OutputsDrive controller.pins) (calls : List Call) :
    OutputsDrive (afterAll controller calls).pins := by
  induction calls generalizing controller with
  | nil => exact drive
  | cons call rest induction => exact induction (outputsDrive_after drive call)

variable {controller : Controller ChipPins} {line : OutputLine} {duration since : Nat}

theorem pulsing_after (pulsing : controller.Pulsing line duration since) {call : Call}
    (quiet : ∀ address ∈ call.written controller, ¬ controller.layout.Names address line.pin) :
    (call.after controller).Pulsing line duration (since + if call.isTick then 1 else 0) := by
  rw [Pulsing, (call.moved_after controller).1, (call.moved_after controller).2]
  cases call with
  | serve request =>
      cases request with
      | read => exact pulsing
      | write address payload =>
          apply pulsing.write
          intro accepted
          apply quiet
          simp only [written, accepted, List.mem_singleton]
  | tick => exact pulsing.tick 1
  | external pin level =>
      exact pulsing.of_kept (fun _ drives => drives.applyExternal pin level) rfl
  | interrupt | sample => exact pulsing

/-- Without another accepted write to its pin a pulse only loses time, a millisecond with
each tick. -/
theorem pulsing_afterAll (pulsing : controller.Pulsing line duration since) {calls : List Call}
    (quiet : ∀ address ∈ along written controller calls,
      ¬ controller.layout.Names address line.pin) :
    (afterAll controller calls).Pulsing line duration (since + calls.countP isTick) := by
  induction calls generalizing controller since with
  | nil => exact pulsing
  | cons call rest induction =>
      rw [along] at quiet
      have next := pulsing_after pulsing fun address member =>
        quiet address (List.mem_append_left _ member)
      have later := induction next fun address member => by
        rw [call.layout_after]
        exact quiet address (List.mem_append_right _ member)
      rw [List.countP_cons, Nat.add_comm (rest.countP _), ← Nat.add_assoc]
      exact later

/-- A call is an accepted write that starts a pulse. -/
def StartsPulse (controller : Controller ChipPins) (line : OutputLine) (duration : Nat) :
    Call → Prop
  | .serve (.write address payload) =>
    (controller.write address payload.bytes).1 = .ok () ∧
      ∃ register ∈ controller.layout.registers, register.descriptor.address = address ∧
        Commands register payload.bytes line.pin (.pulse line duration)
  | _ => False

/-- A pulse stands at the number of ticks since the write that started it, as long as no
accepted write names its pin. -/
theorem pulsing_of_startsPulse (same : controller.layout = NosePoke.layout)
    (drive : OutputsDrive controller.pins) {call : Call}
    (starts : call.StartsPulse controller line duration) {calls : List Call}
    (quiet : ∀ address ∈ along written (call.after controller) calls,
      ¬ controller.layout.Names address line.pin) :
    (afterAll controller (call :: calls)).Pulsing line duration (calls.countP isTick) := by
  cases call with
  | serve request =>
      cases request with
      | read => exact starts.elim
      | write address payload =>
          obtain ⟨accepted, register, member, own, commands⟩ := starts
          obtain ⟨index, place, _, takes⟩ := controller.write_taken accepted
          rw [controller.layout.register_eq_of_address member (own.trans place.symm)] at takes
          have listed := member
          rw [same] at listed
          obtain ⟨output, listed, onPin⟩ := named_output listed (named_of_commands commands)
          obtain ⟨high, drives⟩ := drive output listed
          rw [onPin] at drives
          have written := takes.pulsing commands drives
          have started : ((Call.serve (.write address payload)).after controller).Pulsing line
              duration 0 := by
            rw [Pulsing, (moved_after controller _).1, (moved_after controller _).2]
            exact written
          have later := pulsing_afterAll started fun address member => by
            rw [layout_after]
            exact quiet address member
          rw [Nat.zero_add] at later
          exact later
  | _ => exact starts.elim

end Call

end Firmware

end Instrument

import Instrument.Controller.Request
import Instrument.Controller.Tick
import Instrument.Pin.Simulation
import Instrument.Proofs.PulseTable

/-!
# Lines driven one after the other

A write to a driving register and a tick both drive a list of lines.  `driveEach`
is what they share.  On simulated pins it keeps every role, leaves a pin alone
that no line is on, and brings an output to the level of the last line on it.
-/

namespace Instrument

namespace PinDriver

variable {β : Type} [PinDriver β]

/-- Make each line active or inactive, in order. -/
def driveEach (pins : β) (commands : List (OutputLine × Bool)) : β :=
  commands.foldl (fun pins command => drive pins command.1 command.2) pins

@[simp] theorem driveEach_cons (pins : β) (command : OutputLine × Bool)
    (rest : List (OutputLine × Bool)) :
    driveEach pins (command :: rest) =
      driveEach (drive pins command.1 command.2) rest := rfl

theorem driveEach_append (pins : β) (front back : List (OutputLine × Bool)) :
    driveEach pins (front ++ back) = driveEach (driveEach pins front) back :=
  List.foldl_append

end PinDriver

/-- Each line with the bit that drives it, the first line with the lowest bit. -/
def bitCommands : (value : Nat) → List OutputLine → List (OutputLine × Bool)
  | _, [] => []
  | value, line :: rest => (line, value % 2 == 1) :: bitCommands (value / 2) rest

theorem getElem?_bitCommands (value : Nat) (lines : List OutputLine)
    (position : Nat) :
    (bitCommands value lines)[position]? =
      lines[position]?.map fun line => (line, value.testBit position) := by
  induction lines generalizing value position with
  | nil => simp [bitCommands]
  | cons line rest induction =>
      cases position with
      | zero =>
          simp only [bitCommands, List.getElem?_cons_zero, Option.map_some,
            Nat.testBit_zero, Option.some.injEq, Prod.mk.injEq, true_and]
          rcases Nat.mod_two_eq_zero_or_one value with even | odd
          · rw [even]
            rfl
          · rw [odd]
            rfl
      | succ position =>
          simp only [bitCommands, List.getElem?_cons_succ, Nat.testBit_succ]
          exact induction (value / 2) position

theorem pins_bitCommands (value : Nat) (lines : List OutputLine) :
    (bitCommands value lines).map (·.1.pin) = lines.map (·.pin) := by
  induction lines generalizing value with
  | nil => rfl
  | cons line rest induction =>
      rw [bitCommands, List.map_cons, List.map_cons, induction]

namespace SimulatedPin

/-- The pin is configured as an output. -/
def IsOutput (pin : SimulatedPin) : Prop :=
  ∃ wiring readback, pin.role = .output wiring readback

/-- The pin is configured as an input. -/
def IsInput (pin : SimulatedPin) : Prop := ∃ pull sense, pin.role = .input pull sense

@[simp] theorem role_moveTo (pin : SimulatedPin) (high : Bool) :
    (pin.moveTo high).role = pin.role := by
  rw [moveTo]
  split <;> rfl

@[simp] theorem level_moveTo (pin : SimulatedPin) (high : Bool) :
    (pin.moveTo high).level = high := by
  rw [moveTo]
  split
  · assumption
  · rfl

@[simp] theorem role_becomeInput (pin : SimulatedPin) (pull : Pull) (sense : Sense) :
    (pin.becomeInput pull sense).role = .input pull sense := by
  cases pull with
  | up | down => exact role_moveTo _ _
  | floating | keeper => rfl

@[simp] theorem role_drive (pin : SimulatedPin) (high : Bool) :
    (pin.drive high).role = pin.role := by
  rw [drive]
  split
  · exact pin.role_moveTo high
  · rfl

theorem level_drive {pin : SimulatedPin} (output : pin.IsOutput) (high : Bool) :
    (pin.drive high).level = high := by
  obtain ⟨wiring, readback, role⟩ := output
  simp only [drive, role, level_moveTo]

theorem drive_of_settled {cell : SimulatedPin} {high : Bool} (level : cell.level = high) :
    cell.drive high = cell := by
  have unmoved : cell.moveTo high = cell := if_pos level
  rw [drive, unmoved]
  split <;> rfl

theorem drive_drive (pin : SimulatedPin) (high : Bool) :
    (pin.drive high).drive high = pin.drive high := by
  by_cases output : pin.IsOutput
  · exact drive_of_settled (level_drive output high)
  · have idle : pin.drive high = pin := by
      rw [drive]
      split
      · rename_i wiring readback role
        exact (output ⟨wiring, readback, role⟩).elim
      · rfl
    rw [idle, idle]

end SimulatedPin

namespace SimulatedPins

open PinDriver

/-- A change that keeps an unconfigured pin shows at its own pin and nowhere else. -/
theorem pin_modify (pins : SimulatedPins) (pin other : Pin)
    {change : SimulatedPin → SimulatedPin} (keeps : change {} = {}) :
    (pins.modify pin change).pin other =
      if other = pin then change (pins.pin other) else pins.pin other := by
  rw [SimulatedPins.pin, modify, PinTable.get?_modify]
  split
  · rename_i same
    subst same
    rw [SimulatedPins.pin]
    cases pins.cells.get? other with
    | none => exact keeps.symm
    | some cell => rfl
  · rfl

theorem get?_cells (pins : SimulatedPins) (pin : Pin) :
    pins.cells.get? pin = if pin.isReal then some (pins.pin pin) else none := by
  rw [SimulatedPins.pin, PinTable.get?, Pin.isReal]
  by_cases real : pin.bit < Port.pinCount
  · simp [real]
  · simp [real]

theorem ext_pin {first second : SimulatedPins}
    (same : ∀ pin, first.pin pin = second.pin pin)
    (sameLines : first.interrupts = second.interrupts) : first = second := by
  have cells : first.cells = second.cells := by
    apply PinTable.ext_get?
    intro pin
    rw [get?_cells, get?_cells, same]
  cases first
  cases second
  cases cells
  cases sameLines
  rfl

theorem isReal_of_role {pins : SimulatedPins} {pin : Pin}
    (configured : (pins.pin pin).role ≠ .unconfigured) : pin.isReal = true := by
  apply Classical.byContradiction
  intro unreal
  apply configured
  rw [SimulatedPins.pin, get?_cells, if_neg unreal]
  rfl

theorem pin_modify_of_isReal (pins : SimulatedPins) {pin : Pin} (real : pin.isReal = true)
    (other : Pin) (change : SimulatedPin → SimulatedPin) :
    (pins.modify pin change).pin other =
      if other = pin then change (pins.pin other) else pins.pin other := by
  rw [SimulatedPins.pin, modify, PinTable.get?_modify]
  split
  · rename_i same
    rw [same, get?_cells, if_pos real]
    rfl
  · rfl

theorem drive_eq_modify (pins : SimulatedPins) (line : OutputLine) (active : Bool) :
    PinDriver.drive pins line active =
      pins.modify line.pin (·.drive (line.level active)) := by
  rw [PinDriver.drive, PinDriver.write]
  cases line.level active <;> rfl

theorem pin_drive (pins : SimulatedPins) (line : OutputLine) (active : Bool)
    (pin : Pin) :
    (PinDriver.drive pins line active).pin pin =
      if pin = line.pin then (pins.pin pin).drive (line.level active)
      else pins.pin pin := by
  rw [drive_eq_modify]
  exact pins.pin_modify line.pin pin rfl

@[simp] theorem interrupts_drive (pins : SimulatedPins) (line : OutputLine)
    (active : Bool) :
    (PinDriver.drive pins line active).interrupts = pins.interrupts := by
  rw [drive_eq_modify]
  rfl

@[simp] theorem role_pin_drive (pins : SimulatedPins) (line : OutputLine)
    (active : Bool) (pin : Pin) :
    ((PinDriver.drive pins line active).pin pin).role = (pins.pin pin).role := by
  rw [pin_drive]
  split
  · exact SimulatedPin.role_drive _ _
  · rfl

@[simp] theorem interrupts_driveEach (pins : SimulatedPins)
    (commands : List (OutputLine × Bool)) :
    (driveEach pins commands).interrupts = pins.interrupts := by
  induction commands generalizing pins with
  | nil => rfl
  | cons command rest induction =>
      rw [driveEach_cons, induction, interrupts_drive]

@[simp] theorem role_pin_driveEach (pins : SimulatedPins)
    (commands : List (OutputLine × Bool)) (pin : Pin) :
    ((driveEach pins commands).pin pin).role = (pins.pin pin).role := by
  induction commands generalizing pins with
  | nil => rfl
  | cons command rest induction =>
      rw [driveEach_cons, induction, role_pin_drive]

/-- A pin that no line is on stays as it is. -/
theorem pin_driveEach_of_notMem (pins : SimulatedPins)
    {commands : List (OutputLine × Bool)} {pin : Pin}
    (free : pin ∉ commands.map (·.1.pin)) :
    (driveEach pins commands).pin pin = pins.pin pin := by
  induction commands generalizing pins with
  | nil => rfl
  | cons command rest induction =>
      rw [List.map_cons, List.mem_cons, not_or] at free
      rw [driveEach_cons, induction _ free.2, pin_drive, if_neg free.1]

theorem pin_driveEach_congr {first second : SimulatedPins} {pin : Pin}
    (same : second.pin pin = first.pin pin) (commands : List (OutputLine × Bool)) :
    (PinDriver.driveEach second commands).pin pin =
      (PinDriver.driveEach first commands).pin pin := by
  induction commands generalizing first second with
  | nil => exact same
  | cons command rest induction =>
      apply induction
      rw [pin_drive, pin_drive, same]

/-- The last command on an output decides its level. -/
theorem level_driveEach (pins : SimulatedPins)
    (before later : List (OutputLine × Bool)) (line : OutputLine) (active : Bool)
    (output : (pins.pin line.pin).IsOutput)
    (last : line.pin ∉ later.map (·.1.pin)) :
    ((driveEach pins (before ++ (line, active) :: later)).pin line.pin).level =
      line.level active := by
  have stillOutput : ((driveEach pins before).pin line.pin).IsOutput := by
    obtain ⟨wiring, readback, role⟩ := output
    exact ⟨wiring, readback, by rw [role_pin_driveEach, role]⟩
  rw [driveEach_append, driveEach_cons, pin_driveEach_of_notMem _ last, pin_drive,
    if_pos rfl, SimulatedPin.level_drive stillOutput]

theorem pin_driveEach_of_nodup (pins : SimulatedPins)
    {commands : List (OutputLine × Bool)}
    (distinct : (commands.map (·.1.pin)).Nodup)
    {line : OutputLine} {active : Bool} (member : (line, active) ∈ commands) :
    (driveEach pins commands).pin line.pin =
      (pins.pin line.pin).drive (line.level active) := by
  obtain ⟨before, later, rfl⟩ := List.append_of_mem member
  rw [List.map_append, List.map_cons, List.nodup_append] at distinct
  have free := (List.nodup_cons.mp distinct.2.1).1
  have early : line.pin ∉ before.map (·.1.pin) := by
    intro again
    exact distinct.2.2 _ again _ List.mem_cons_self rfl
  rw [driveEach_append, driveEach_cons, pin_driveEach_of_notMem _ free, pin_drive,
    if_pos rfl, pin_driveEach_of_notMem _ early]

theorem level_driveEach_of_nodup (pins : SimulatedPins)
    {commands : List (OutputLine × Bool)}
    (distinct : (commands.map (·.1.pin)).Nodup)
    {line : OutputLine} {active : Bool} (member : (line, active) ∈ commands)
    (output : (pins.pin line.pin).IsOutput) :
    ((driveEach pins commands).pin line.pin).level = line.level active := by
  rw [pins.pin_driveEach_of_nodup distinct member, SimulatedPin.level_drive output]

theorem driveEach_driveEach (pins : SimulatedPins) {commands : List (OutputLine × Bool)}
    (distinct : (commands.map (·.1.pin)).Nodup) :
    driveEach (driveEach pins commands) commands = driveEach pins commands := by
  apply ext_pin
  · intro pin
    by_cases named : pin ∈ commands.map (·.1.pin)
    · obtain ⟨⟨line, active⟩, member, rfl⟩ := List.mem_map.mp named
      rw [pin_driveEach_of_nodup _ distinct member, pin_driveEach_of_nodup _ distinct member,
        SimulatedPin.drive_drive]
    · rw [pin_driveEach_of_notMem _ named]
  · rw [interrupts_driveEach]

/-- The last line on an output decides its level, by the bit of its place. -/
theorem level_bitCommands (pins : SimulatedPins) (value : Nat)
    {lines : List OutputLine} {position : Nat} {line : OutputLine}
    (found : lines[position]? = some line)
    (last : ∀ later other, position < later → lines[later]? = some other →
      other.pin ≠ line.pin)
    (output : (pins.pin line.pin).IsOutput) :
    ((driveEach pins (bitCommands value lines)).pin line.pin).level =
      line.level (value.testBit position) := by
  have place : (bitCommands value lines)[position]? =
      some (line, value.testBit position) := by
    rw [getElem?_bitCommands, found, Option.map_some]
  obtain ⟨bound, here⟩ := List.getElem?_eq_some_iff.mp place
  rw [← List.take_append_drop position (bitCommands value lines),
    List.drop_eq_getElem_cons bound, here]
  apply level_driveEach pins _ _ line _ output
  intro member
  obtain ⟨⟨other, active⟩, otherMember, samePin⟩ := List.mem_map.mp member
  obtain ⟨offset, otherFound⟩ := List.mem_iff_getElem?.mp otherMember
  rw [List.getElem?_drop, getElem?_bitCommands, Option.map_eq_some_iff] at otherFound
  obtain ⟨actual, actualFound, pairs⟩ := otherFound
  cases pairs
  exact last _ other (by omega) actualFound samePin

/-- Moving an input from outside shows at that pin and nowhere else; other pins cannot
be moved. -/
theorem pin_driveInput (pins : SimulatedPins) (pin other : Pin) (high : Bool) :
    ((pins.pin pin).IsInput ∧ other = pin ∧
        (pins.driveInput pin high).2.pin other = (pins.pin other).moveTo high) ∨
      (¬ ((pins.pin pin).IsInput ∧ other = pin) ∧
        (pins.driveInput pin high).2.pin other = pins.pin other) := by
  rw [driveInput]
  cases role : (pins.pin pin).role with
  | input pull sense =>
      have real : pin.isReal = true := isReal_of_role (by rw [role]; exact nofun)
      have moved := pins.pin_modify_of_isReal real other (·.moveTo high)
      by_cases same : other = pin
      · rw [if_pos same] at moved
        exact .inl ⟨⟨pull, sense, role⟩, same, moved⟩
      · rw [if_neg same] at moved
        exact .inr ⟨fun both => same both.2, moved⟩
  | unconfigured | output =>
      refine .inr ⟨?_, rfl⟩
      intro both
      obtain ⟨pull, sense, input⟩ := both.1
      rw [role] at input
      cases input

theorem role_pin_driveInput (pins : SimulatedPins) (pin other : Pin) (high : Bool) :
    ((pins.driveInput pin high).2.pin other).role = (pins.pin other).role := by
  rcases pins.pin_driveInput pin other high with ⟨_, _, moved⟩ | ⟨_, kept⟩
  · rw [moved, SimulatedPin.role_moveTo]
  · rw [kept]

theorem interrupts_driveInput (pins : SimulatedPins) (pin : Pin) (high : Bool) :
    (pins.driveInput pin high).2.interrupts = pins.interrupts := by
  rw [driveInput]
  cases (pins.pin pin).role <;> rfl

end SimulatedPins

namespace Controller

variable {β : Type} [PinDriver β]

theorem pins_tick (controller : Controller β) (elapsed : Nat) :
    (controller.tick elapsed).pins =
      PinDriver.driveEach controller.pins
        ((controller.pulses.advance elapsed).1.map (·, false)) := by
  rw [PinDriver.driveEach, List.foldl_map]
  rfl

/-- Driving lines gives up the pulses on their pins and touches the pins alone. -/
theorem driveLines_eq (controller : Controller β) (value : Nat)
    (lines : List OutputLine) :
    controller.driveLines value lines = {
      controller with
      pulses := controller.pulses.cancelEach lines
      pins := PinDriver.driveEach controller.pins (bitCommands value lines) } := by
  induction lines generalizing controller value with
  | nil => rfl
  | cons line rest induction =>
      rw [driveLines, induction]
      rfl

end Controller

end Instrument

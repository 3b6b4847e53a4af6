import Instrument.Pin.Record
import Instrument.Proofs.PackedLevels

/-!
# Pins are independent

Whatever is called on simulated pins, in whatever order, a pin ends up as if the calls on it
had been the only ones.  Calls on a pin that does not exist are answered and do nothing more,
and the count of a pin counts the changes of its level.  The same holds where the levels of a
port share a byte, because such pins show the same after every call.
-/

namespace Instrument

namespace PinCall

/-- The pin that a call is made on; an interrupt is armed on a port. -/
def pin? : PinCall → Option Pin
  | .input pin _ _ | .output pin _ _ | .set pin | .clear pin | .toggle pin => some pin
  | .arm _ _ _ => none

/-- What a call makes of its pin. -/
def change : PinCall → SimulatedPin → SimulatedPin
  | .input _ pull sense, cell => cell.becomeInput pull sense
  | .output _ wiring readback, cell => cell.becomeOutput wiring readback
  | .arm _ _ _, cell => cell
  | .set _, cell => cell.drive true
  | .clear _, cell => cell.drive false
  | .toggle _, cell => cell.drive (!cell.level)

def make {β : Type} [PinDriver β] (pins : β) : PinCall → Attempt PinError β
  | .input pin pull sense => PinDriver.configureInput pins pin pull sense
  | .output pin wiring readback => PinDriver.configureOutput pins pin wiring readback
  | .arm port line armed => PinDriver.arm pins port line armed
  | .set pin => .accepted (PinDriver.set pins pin)
  | .clear pin => .accepted (PinDriver.clear pins pin)
  | .toggle pin => .accepted (PinDriver.toggle pins pin)

end PinCall

/-- A call on pins that can also be moved from outside. -/
inductive SimulationCall where
  | program (call : PinCall)
  | write (pin : Pin) (high : Bool)
  | drive (line : OutputLine) (active : Bool)
  | stimulus (pin : Pin) (high : Bool)

namespace SimulationCall

def pin? : SimulationCall → Option Pin
  | .program call => call.pin?
  | .write pin _ | .stimulus pin _ => some pin
  | .drive line _ => some line.pin

def isOn (pin : Pin) (call : SimulationCall) : Bool := call.pin? == some pin

def change : SimulationCall → SimulatedPin → SimulatedPin
  | .program call, cell => call.change cell
  | .write _ high, cell => cell.drive high
  | .drive line active, cell => cell.drive (line.level active)
  | .stimulus _ high, cell => cell.stimulate high

/-- The answer to a call on a pin that does not exist. -/
def missed : SimulationCall → Except PinError (Option InterruptLine)
  | .program (.input pin _ _) | .program (.output pin _ _) => .error (.missingPin pin)
  | _ => .ok none

section Runs

variable {β : Type} [PinDriver β] [Stimulated β]

/-- The answer to a call, with the line that a move from outside sets off, and the pins
after it. -/
def take (pins : β) : SimulationCall → Except PinError (Option InterruptLine) × β
  | .program call => (call.make pins).map (·.map fun _ => none) id
  | .write pin high => (.ok none, PinDriver.write pins pin high)
  | .drive line active => (.ok none, PinDriver.drive pins line active)
  | .stimulus pin high => (Stimulated.driveInput pins pin high).map .ok id

def afterAll (pins : β) (calls : List SimulationCall) : β :=
  calls.foldl (fun pins call => (call.take pins).2) pins

def answers (pins : β) : List SimulationCall → List (Except PinError (Option InterruptLine))
  | [] => []
  | call :: rest => (call.take pins).1 :: answers (call.take pins).2 rest

end Runs

/-- How many of some calls change the level of a pin. -/
def levelChanges (pin : Pin) (pins : SimulatedPins) : List SimulationCall → Nat
  | [] => 0
  | call :: rest =>
    let after := (call.take pins).2
    (if (after.pin pin).level = (pins.pin pin).level then 0 else 1) + levelChanges pin after rest

end SimulationCall

namespace SimulatedPins

theorem modify_of_missing (pins : SimulatedPins) {pin : Pin} (missing : ¬ pin.isReal = true)
    (change : SimulatedPin → SimulatedPin) : pins.modify pin change = pins := by
  have outOfRange : ¬ pin.bit < Port.pinCount := fun inRange => missing (decide_eq_true inRange)
  have cells : pins.cells.modify pin change = pins.cells := dif_neg outOfRange
  rw [modify, cells]

theorem pin_of_missing (pins : SimulatedPins) {pin : Pin} (missing : ¬ pin.isReal = true) :
    pins.pin pin = {} := by
  rw [SimulatedPins.pin, get?_cells, if_neg missing]
  rfl

theorem snd_configure (pins : SimulatedPins) (pin : Pin) (change : SimulatedPin → SimulatedPin) :
    (pins.configure pin change).2 = pins.modify pin change := by
  rw [configure]
  split
  · rfl
  · rename_i missing
    exact (pins.modify_of_missing missing change).symm

theorem cell?_eq_some_iff {pins : SimulatedPins} {pin : Pin} {cell : SimulatedPin} :
    cellView.cell? pins pin = some cell ↔ pin.isReal = true ∧ pins.pin pin = cell := by
  simp [cellView, get?_cells]

theorem changed_driveInput (pins : SimulatedPins) (pin : Pin) (high : Bool) :
    cellView.Changed pins (pins.driveInput pin high).2 pin (·.stimulate high) := by
  rw [driveInput]
  split
  · rename_i role
    apply (pins.changed_modify pin (·.moveTo high)).congr
    intro cell present
    obtain ⟨_, rfl⟩ := cell?_eq_some_iff.mp present
    exact (SimulatedPin.stimulate_of_input role high).symm
  · rename_i other
    apply CellView.changed_of_fixed
    intro cell present
    obtain ⟨_, rfl⟩ := cell?_eq_some_iff.mp present
    exact SimulatedPin.stimulate_of_not_input other high

/-- A call changes the cell of the pin it is made on, and nothing else. -/
theorem changed_take (pins : SimulatedPins) {call : SimulationCall} {pin : Pin}
    (own : call.pin? = some pin) :
    cellView.Changed pins (call.take pins).2 pin call.change := by
  have modified : (call.take pins).2 = pins.modify pin call.change →
      cellView.Changed pins (call.take pins).2 pin call.change := by
    intro after
    rw [after]
    exact pins.changed_modify pin call.change
  cases call with
  | program call =>
      cases call with
      | arm => cases own
      | input | output =>
          cases own
          exact modified (pins.snd_configure pin _)
      | set | clear | toggle =>
          cases own
          exact modified rfl
  | write _ high =>
      cases own
      cases high <;> exact modified rfl
  | drive line active =>
      cases own
      exact modified (pins.drive_eq_modify line active)
  | stimulus _ high =>
      cases own
      exact pins.changed_driveInput pin high

theorem take_of_missing (pins : SimulatedPins) {call : SimulationCall} {pin : Pin}
    (own : call.pin? = some pin) (missing : ¬ pin.isReal = true) :
    call.take pins = (call.missed, pins) := by
  have kept := fun change => pins.modify_of_missing missing change
  cases call with
  | program call =>
      cases call with
      | arm => cases own
      | input | output =>
          cases own
          have refused : ∀ change, pins.configure pin change = .refused (.missingPin pin) pins :=
            fun _ => if_neg missing
          simp only [SimulationCall.take, PinCall.make, PinDriver.configureInput,
            PinDriver.configureOutput, refused]
          rfl
      | set | clear | toggle =>
          cases own
          exact congrArg (Prod.mk _) (kept _)
  | write _ high =>
      cases own
      cases high <;> exact congrArg (Prod.mk _) (kept _)
  | drive line active =>
      cases own
      exact congrArg (Prod.mk _) ((pins.drive_eq_modify line active).trans (kept _))
  | stimulus _ high =>
      cases own
      have unconfigured : (pins.pin pin).role = .unconfigured := by
        rw [pins.pin_of_missing missing]
      have unmoved : pins.driveInput pin high = (none, pins) := by
        simp only [driveInput, unconfigured]
      exact congrArg (Prod.map Except.ok id) unmoved

theorem pin_take (pins : SimulatedPins) (call : SimulationCall) {pin : Pin}
    (real : pin.isReal = true) :
    (call.take pins).2.pin pin =
      if call.isOn pin then call.change (pins.pin pin) else pins.pin pin := by
  have shown : ∀ (bank : SimulatedPins) cell,
      cellView.cell? bank pin = some cell ↔ bank.pin pin = cell :=
    fun _ _ => cell?_eq_some_iff.trans (and_iff_right real)
  have present := (shown pins _).mpr rfl
  rw [← shown]
  cases addressed : call.pin? with
  | none =>
      have arming : ∃ port line armed, call = .program (.arm port line armed) := by
        cases call with
        | program call => cases call <;> simp_all [SimulationCall.pin?, PinCall.pin?]
        | write | drive | stimulus => cases addressed
      obtain ⟨port, line, armed, rfl⟩ := arming
      refine Eq.trans ?_ present
      simp only [SimulationCall.take, PinCall.make, PinDriver.arm]
      split <;> rfl
  | some own =>
      rw [(pins.changed_take addressed).cells, present]
      by_cases same : pin = own
      · simp [SimulationCall.isOn, addressed, same]
      · simp [SimulationCall.isOn, addressed, same, Ne.symm same]

/-- What calls make of a pin depends on that pin alone and on the calls made on it. -/
theorem pin_afterAll (pins : SimulatedPins) (calls : List SimulationCall) {pin : Pin}
    (real : pin.isReal = true) :
    (SimulationCall.afterAll pins calls).pin pin =
      (calls.filter (·.isOn pin)).foldl (fun cell call => call.change cell) (pins.pin pin) := by
  rw [List.foldl_filter]
  induction calls generalizing pins with
  | nil => rfl
  | cons call rest induction =>
      have later := induction (call.take pins).2
      rw [pins.pin_take call real] at later
      exact later

theorem pin_afterAll_filter (pins : SimulatedPins) (calls : List SimulationCall) (pin : Pin) :
    (SimulationCall.afterAll pins calls).pin pin =
      (SimulationCall.afterAll pins (calls.filter (·.isOn pin))).pin pin := by
  by_cases real : pin.isReal = true
  · rw [pins.pin_afterAll _ real, pins.pin_afterAll _ real, List.filter_filter]
    simp only [Bool.and_self]
  · rw [pin_of_missing _ real, pin_of_missing _ real]

end SimulatedPins

namespace SimulatedPin

/-- Between two states of a pin its level changed so many times. -/
structure Counts (before after : SimulatedPin) (changes : Nat) : Prop where
  transitions : after.transitions = before.transitions + .ofNat changes
  level : after.level = (before.level ^^ decide (changes % 2 = 1))

theorem Counts.refl (pin : SimulatedPin) : pin.Counts pin 0 := ⟨by simp, by simp⟩

theorem Counts.trans {first second third : SimulatedPin} {some more : Nat}
    (counts : first.Counts second some) (again : second.Counts third more) :
    first.Counts third (some + more) where
  transitions := by
    rw [again.transitions, counts.transitions, UInt32.ofNat_add, UInt32.add_assoc]
  level := by
    have parity : decide ((some + more) % 2 = 1) =
        (decide (some % 2 = 1) ^^ decide (more % 2 = 1)) := by
      rcases Nat.mod_two_eq_zero_or_one some with even | odd
      · simp [Nat.add_mod, even]
      · rcases Nat.mod_two_eq_zero_or_one more with even | alsoOdd
        · simp [Nat.add_mod, odd, even]
        · simp [Nat.add_mod, odd, alsoOdd]
    rw [again.level, counts.level, parity, Bool.xor_assoc]

/-- A single step of a pin, in which its level changes or not. -/
def Steps (before after : SimulatedPin) : Prop :=
  before.Counts after (if after.level = before.level then 0 else 1)

theorem steps_of_same {before after : SimulatedPin} (level : after.level = before.level)
    (transitions : after.transitions = before.transitions) : before.Steps after := by
  rw [Steps, if_pos level]
  exact ⟨by simp [transitions], by simp [level]⟩

theorem steps_moveTo (pin : SimulatedPin) (high : Bool) : pin.Steps (pin.moveTo high) := by
  rw [moveTo]
  split
  · exact steps_of_same rfl rfl
  · rename_i moves
    rw [Steps, if_neg (Ne.symm moves)]
    refine ⟨rfl, ?_⟩
    revert moves
    cases pin.level <;> cases high <;> simp

theorem steps_drive (pin : SimulatedPin) (high : Bool) : pin.Steps (pin.drive high) := by
  rw [drive]
  split
  · exact pin.steps_moveTo high
  · exact steps_of_same rfl rfl

theorem steps_change (pin : SimulatedPin) (call : SimulationCall) :
    pin.Steps (call.change pin) := by
  cases call with
  | program call =>
      cases call with
      | input _ pull sense =>
          -- The pull moves a pin that already has its new role.
          have moved : ∀ high, pin.Steps (({ pin with role := .input pull sense } :
              SimulatedPin).moveTo high) := by
            intro high
            have steps := steps_moveTo { pin with role := .input pull sense } high
            exact ⟨steps.transitions, steps.level⟩
          cases pull with
          | up | down => exact moved _
          | floating | keeper => exact steps_of_same rfl rfl
      | output | arm => exact steps_of_same rfl rfl
      | set | clear | toggle => exact pin.steps_drive _
  | write | drive => exact pin.steps_drive _
  | stimulus _ high =>
      change pin.Steps (pin.stimulate high)
      rw [stimulate]
      split
      · exact pin.steps_moveTo high
      · exact steps_of_same rfl rfl

end SimulatedPin

namespace SimulatedPins

theorem steps_take (pins : SimulatedPins) (call : SimulationCall) (pin : Pin) :
    (pins.pin pin).Steps ((call.take pins).2.pin pin) := by
  by_cases real : pin.isReal = true
  · rw [pins.pin_take call real]
    split
    · exact (pins.pin pin).steps_change call
    · exact SimulatedPin.steps_of_same rfl rfl
  · rw [pin_of_missing _ real, pin_of_missing _ real]
    exact SimulatedPin.steps_of_same rfl rfl

theorem counts_afterAll (pins : SimulatedPins) (calls : List SimulationCall) (pin : Pin) :
    (pins.pin pin).Counts ((SimulationCall.afterAll pins calls).pin pin)
      (SimulationCall.levelChanges pin pins calls) := by
  induction calls generalizing pins with
  | nil => exact .refl _
  | cons call rest induction => exact (pins.steps_take call pin).trans (induction _)

end SimulatedPins

namespace PackedPins

theorem changed_settle (pins : PackedPins) (pin : Pin) (pull : Pull) (sense : Sense) :
    cellView.Changed pins ((pins.withRole pin (.input pull sense)).settle pin pull) pin
      (·.becomeInput pull sense) := by
  have given := pins.changed_withRole pin (.input pull sense)
  cases pull with
  | up | down => exact given.trans (changed_moveTo _ pin _)
  | floating | keeper => exact given

theorem changed_drive (pins : PackedPins) (pin : Pin) (high : Bool) :
    cellView.Changed pins (pins.drive pin high) pin (·.drive high) := by
  rw [drive]
  split
  · rename_i role
    exact changed_congr (pins.changed_moveTo pin high)
      (SimulatedPin.drive_of_output role high).symm
  · rename_i other
    exact changed_of_fixed (SimulatedPin.drive_of_not_output other high)

theorem changed_driveInput (pins : PackedPins) (pin : Pin) (high : Bool) :
    cellView.Changed pins (Stimulated.driveInput pins pin high).2 pin (·.stimulate high) := by
  simp only [Stimulated.driveInput]
  split
  · rename_i role
    exact changed_congr (pins.changed_moveTo pin high)
      (SimulatedPin.stimulate_of_input role high).symm
  · rename_i other
    exact changed_of_fixed (SimulatedPin.stimulate_of_not_input other high)

theorem changed_write (pins : PackedPins) (pin : Pin) (high : Bool) :
    cellView.Changed pins (PinDriver.write pins pin high) pin (·.drive high) := by
  cases high <;> exact pins.changed_drive pin _

theorem changed_configure {pins configured : PackedPins} {pin : Pin}
    {change : SimulatedPin → SimulatedPin}
    (changed : cellView.Changed pins configured pin change) :
    cellView.Changed pins (pins.configure pin configured).2 pin change := by
  rw [configure]
  split
  · exact changed
  · rename_i missing
    apply CellView.changed_of_fixed
    intro cell present
    exact absurd (cell?_eq_some_iff.mp present).1 missing

theorem changed_take (pins : PackedPins) {call : SimulationCall} {pin : Pin}
    (own : call.pin? = some pin) :
    cellView.Changed pins (call.take pins).2 pin call.change := by
  cases call with
  | program call =>
      cases call with
      | arm => cases own
      | input _ pull sense =>
          cases own
          exact changed_configure (pins.changed_settle pin pull sense)
      | output =>
          cases own
          exact changed_configure (pins.changed_withRole pin _)
      | set | clear =>
          cases own
          exact pins.changed_drive pin _
      | toggle =>
          cases own
          exact changed_congr (pins.changed_drive pin (!pins.level pin)) rfl
  | write _ high =>
      cases own
      exact pins.changed_write pin high
  | drive line active =>
      cases own
      exact pins.changed_write line.pin (line.level active)
  | stimulus _ high =>
      cases own
      exact pins.changed_driveInput pin high

/-- Packed pins show the same as pins that have a cell each. -/
abbrev Shows (packed : PackedPins) (pins : SimulatedPins) : Prop :=
  CellView.Alike cellView SimulatedPins.cellView packed pins

theorem Shows.cell {packed : PackedPins} {pins : SimulatedPins} (shows : packed.Shows pins)
    (pin : Pin) : packed.cell pin = pins.pin pin := by
  by_cases real : pin.isReal = true
  · have same := shows.cells pin
    rw [packed.cell?_of_isReal real] at same
    exact ((SimulatedPins.cell?_eq_some_iff.mp same.symm).2).symm
  · have noRole : packed.roles.get? pin = none := by
      simpa [PinTable.get?, Pin.isReal] using real
    have noCount : packed.transitions.get? pin = none := by
      simpa [PinTable.get?, Pin.isReal] using real
    have unreal : pin.isReal = false := Bool.not_eq_true _ ▸ real
    rw [pins.pin_of_missing real, PackedPins.cell, role, level, count, noRole, noCount, unreal]
    rfl

theorem Shows.read {packed : PackedPins} {pins : SimulatedPins} (shows : packed.Shows pins)
    (pin : Pin) : PinDriver.read packed pin = PinDriver.read pins pin := by
  have own : PinDriver.read packed pin = (packed.cell pin).read := rfl
  rw [own, shows.cell]
  rfl

theorem Shows.fst_take {packed : PackedPins} {pins : SimulatedPins} (shows : packed.Shows pins)
    (call : SimulationCall) : (call.take packed).1 = (call.take pins).1 := by
  cases call with
  | program call =>
      cases call with
      | input pin | output pin =>
          simp only [SimulationCall.take, PinCall.make, PinDriver.configureInput,
            PinDriver.configureOutput, configure, SimulatedPins.configure]
          split <;> rfl
      | arm port line armed =>
          simp only [SimulationCall.take, PinCall.make, PinDriver.arm]
          split <;> rfl
      | set | clear | toggle => rfl
  | write | drive => rfl
  | stimulus pin high =>
      have same := shows.cell pin
      have role : packed.role pin = (pins.pin pin).role := congrArg SimulatedPin.role same
      have level : packed.level pin = (pins.pin pin).level := congrArg SimulatedPin.level same
      have lines : packed.interrupts = pins.interrupts := shows.interrupts
      simp only [SimulationCall.take, Stimulated.driveInput, SimulatedPins.driveInput, role,
        level, lines]
      cases (pins.pin pin).role <;> rfl

theorem Shows.snd_take {packed : PackedPins} {pins : SimulatedPins} (shows : packed.Shows pins)
    (call : SimulationCall) : (call.take packed).2.Shows (call.take pins).2 := by
  cases addressed : call.pin? with
  | some pin => exact shows.changed (packed.changed_take addressed) (pins.changed_take addressed)
  | none =>
      cases call with
      | write | drive | stimulus => cases addressed
      | program call =>
          cases call with
          | input | output | set | clear | toggle => cases addressed
          | arm port line armed =>
              have lines : packed.interrupts = pins.interrupts := shows.interrupts
              simp only [SimulationCall.take, PinCall.make, PinDriver.arm]
              split
              · exact shows
              · exact ⟨shows.cells, congrArg (·.arm port line armed) lines⟩

theorem shows_fresh : fresh.Shows .fresh where
  cells pin := by
    by_cases real : pin.isReal = true
    · have level : fresh.level pin = false := by
        rw [fresh.level_eq_getLsbD real]
        have byte : fresh.levels.get pin.port.index = 0#8 :=
          Vector.getElem_replicate pin.port.index.isLt
        rw [byte, BitVec.getLsbD_zero]
      rw [fresh.cell?_of_isReal real, cell, level, role, count]
      simp [fresh, SimulatedPins.cellView, SimulatedPins.fresh, real]
    · rw [fresh.cell?_of_missing real]
      simp [SimulatedPins.cellView, SimulatedPins.fresh, real]
  interrupts := rfl

theorem Shows.afterAll {packed : PackedPins} {pins : SimulatedPins} (shows : packed.Shows pins)
    (calls : List SimulationCall) :
    SimulationCall.answers packed calls = SimulationCall.answers pins calls ∧
      (SimulationCall.afterAll packed calls).Shows (SimulationCall.afterAll pins calls) := by
  induction calls generalizing packed pins with
  | nil => exact ⟨rfl, shows⟩
  | cons call rest induction =>
      obtain ⟨answers, after⟩ := induction (shows.snd_take call)
      refine ⟨?_, after⟩
      rw [SimulationCall.answers, SimulationCall.answers, shows.fst_take, answers]

end PackedPins

namespace SimulatedPins

open SimulationCall

/-- From fresh pins on, whatever is called, a pin is as after the calls on it alone, and the
count of its level changes decides its level.  A call on a pin that does not exist leaves
everything as it is.  Where eight levels share a byte, all answers and all pins are the same. -/
theorem pins_independent (calls : List SimulationCall) (pin : Pin) :
    let reached := afterAll fresh calls
    let own := afterAll fresh (calls.filter (·.isOn pin))
    let packed := afterAll PackedPins.fresh calls
    (reached.pin pin = own.pin pin ∧ PinDriver.read reached pin = PinDriver.read own pin) ∧
      ((reached.pin pin).transitions = .ofNat (levelChanges pin fresh calls) ∧
        ((reached.pin pin).level = true ↔ (reached.pin pin).transitions.toNat % 2 = 1)) ∧
      (pin.isReal = false → ∀ call : SimulationCall, call.isOn pin = true →
        call.take reached = (call.missed, reached)) ∧
      (answers PackedPins.fresh calls = answers fresh calls ∧ packed.Shows reached ∧
        PinDriver.read packed pin = PinDriver.read reached pin) := by
  intro reached own packed
  have alone : reached.pin pin = own.pin pin := fresh.pin_afterAll_filter calls pin
  have unmoved : fresh.pin pin = {} := by
    rw [SimulatedPins.pin, fresh, PinTable.get?_filled]
    split <;> rfl
  have counts := fresh.counts_afterAll calls pin
  rw [unmoved] at counts
  have counted : (reached.pin pin).transitions = .ofNat (levelChanges pin fresh calls) := by
    rw [counts.transitions, UInt32.zero_add]
  obtain ⟨answered, shows⟩ := PackedPins.shows_fresh.afterAll calls
  refine ⟨⟨alone, ?_⟩, ⟨counted, ?_⟩, ?_, answered, shows, shows.read pin⟩
  · change (reached.pin pin).read = (own.pin pin).read
    rw [alone]
  · rw [counted, counts.level, UInt32.toNat_ofNat']
    simp only [Bool.false_xor, decide_eq_true_eq]
    omega
  · intro missing call addressed
    exact reached.take_of_missing (eq_of_beq addressed) (Bool.eq_false_iff.mp missing)

end SimulatedPins

end Instrument

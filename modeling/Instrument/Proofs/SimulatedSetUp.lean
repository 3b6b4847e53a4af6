import Instrument.Proofs.SetUpPlan
import Instrument.Proofs.SharedInterrupts
import Mathlib.Data.List.TakeWhile

/-!
# Set-up of simulated pins

Simulated pins refuse a pin that does not exist, and a set-up asks nothing else of them that
they could refuse.  So its tables alone decide how far it gets and what it does to each pin:
the changes of the entries for that pin, in order.  The last of them decides.
-/

namespace Instrument

def InputSetup.change (input : InputSetup) (cell : SimulatedPin) : SimulatedPin :=
  cell.becomeInput input.pull input.sense

def OutputSetup.change (output : OutputSetup) (cell : SimulatedPin) : SimulatedPin :=
  (cell.becomeOutput output.wiring output.readback).drive
    (output.line.level output.initiallyActive)

theorem InputSetup.role_change (input : InputSetup) (cell : SimulatedPin) :
    (input.change cell).role = .input input.pull input.sense :=
  SimulatedPin.role_becomeInput _ _ _

theorem InputSetup.level_change (input : InputSetup) (cell : SimulatedPin) :
    (input.change cell).level =
      match input.pull with
      | .up => true
      | .down => false
      | .floating | .keeper => cell.level := by
  rw [InputSetup.change]
  cases input.pull with
  | up | down => exact SimulatedPin.level_moveTo _ _
  | floating | keeper => rfl

theorem OutputSetup.role_change (output : OutputSetup) (cell : SimulatedPin) :
    (output.change cell).role = .output output.wiring output.readback :=
  SimulatedPin.role_drive _ _

theorem OutputSetup.level_change (output : OutputSetup) (cell : SimulatedPin) :
    (output.change cell).level = output.line.level output.initiallyActive :=
  SimulatedPin.level_drive ⟨_, _, rfl⟩ _

section Tables

variable {α : Type} (pinOf : α → Pin)

/-- The entries before the first one for a pin that does not exist. -/
def beforeMissing (items : List α) : List α := items.takeWhile fun item => (pinOf item).isReal

/-- The answer of a driver that refuses the first pin that does not exist. -/
def answerFor (pins : List Pin) : Except PinError Unit :=
  match pins.find? (!·.isReal) with
  | none => .ok ()
  | some pin => .error (.missingPin pin)

/-- What some entries make of one pin. -/
def changesOn (change : α → SimulatedPin → SimulatedPin) (items : List α) (pin : Pin)
    (cell : SimulatedPin) : SimulatedPin :=
  (items.filter (pinOf · == pin)).foldl (fun cell item => change item cell) cell

theorem answerFor_append_of_real {front : List Pin} (real : ∀ pin ∈ front, pin.isReal = true)
    (back : List Pin) : answerFor (front ++ back) = answerFor back := by
  have found : front.find? (!·.isReal) = none := by
    rw [List.find?_eq_none]
    intro pin listed missing
    rw [real pin listed] at missing
    cases missing
  rw [answerFor, List.find?_append, found, Option.none_or, answerFor]

theorem exists_answerFor_of_missing {front : List Pin} {pin : Pin} (listed : pin ∈ front)
    (missing : ¬ pin.isReal = true) :
    ∃ reason, ∀ back, answerFor (front ++ back) = .error reason := by
  have found : (front.find? (!·.isReal)).isSome = true := by
    rw [List.find?_isSome]
    exact ⟨pin, listed, by simp [missing]⟩
  obtain ⟨first, isFirst⟩ := Option.isSome_iff_exists.mp found
  refine ⟨.missingPin first, ?_⟩
  intro back
  rw [answerFor, List.find?_append, isFirst, Option.some_or]

theorem answerFor_eq_ok_iff {pins : List Pin} :
    answerFor pins = .ok () ↔ ∀ pin ∈ pins, pin.isReal = true := by
  constructor
  · intro ok pin listed
    apply Classical.byContradiction
    intro missing
    obtain ⟨reason, refused⟩ := exists_answerFor_of_missing listed missing
    have error := refused []
    rw [List.append_nil, ok] at error
    cases error
  · intro real
    have ok := answerFor_append_of_real real []
    rw [List.append_nil] at ok
    exact ok

theorem beforeMissing_of_real {items : List α}
    (real : ∀ item ∈ items, (pinOf item).isReal = true) : beforeMissing pinOf items = items :=
  List.takeWhile_eq_self_iff.mpr real

theorem changesOn_cons (change : α → SimulatedPin → SimulatedPin) (item : α) (rest : List α)
    (pin : Pin) (cell : SimulatedPin) :
    changesOn pinOf change (item :: rest) pin cell =
      changesOn pinOf change rest pin (if pinOf item = pin then change item cell else cell) := by
  rw [changesOn, List.filter_cons]
  by_cases own : pinOf item = pin
  · simp [changesOn, own]
  · simp [changesOn, own]

theorem changesOn_of_last (change : α → SimulatedPin → SimulatedPin) {items : List α} {pin : Pin}
    {last : α} (isLast : (items.filter (pinOf · == pin)).getLast? = some last)
    (cell : SimulatedPin) : ∃ before, changesOn pinOf change items pin cell = change last before := by
  obtain ⟨earlier, split⟩ := List.getLast?_eq_some_iff.mp isLast
  refine ⟨earlier.foldl (fun cell item => change item cell) cell, ?_⟩
  rw [changesOn, split, List.foldl_append]
  rfl

theorem changesOn_of_notMem (change : α → SimulatedPin → SimulatedPin) {items : List α} {pin : Pin}
    (unlisted : pin ∉ items.map pinOf) (cell : SimulatedPin) :
    changesOn pinOf change items pin cell = cell := by
  have none : items.filter (pinOf · == pin) = [] := by
    rw [List.filter_eq_nil_iff]
    intro item listed own
    exact unlisted (List.mem_map.mpr ⟨item, listed, eq_of_beq own⟩)
  rw [changesOn, none, List.foldl_nil]

end Tables

/-- The outputs that a set-up configures: those before a missing one, if no input is missing. -/
def drivenOutputs (inputs : List InputSetup) (outputs : List OutputSetup) : List OutputSetup :=
  if inputs.all (·.pin.isReal) then beforeMissing (·.pin) outputs else []

/-- The inputs whose interrupts a set-up arms: all of them, if none is missing. -/
def armedInputs (inputs : List InputSetup) : List InputSetup :=
  if inputs.all (·.pin.isReal) then inputs else []

/-- What a set-up makes of a pin. -/
def setUpCell (inputs : List InputSetup) (outputs : List OutputSetup) (pin : Pin)
    (cell : SimulatedPin) : SimulatedPin :=
  changesOn (·.pin) OutputSetup.change (drivenOutputs inputs outputs) pin
    (changesOn (·.pin) InputSetup.change (beforeMissing (·.pin) inputs) pin cell)

namespace SimulatedPins

theorem modify_modify (pins : SimulatedPins) (pin : Pin)
    (first second : SimulatedPin → SimulatedPin) :
    (pins.modify pin first).modify pin second = pins.modify pin (second ∘ first) := by
  by_cases real : pin.isReal = true
  · refine ext_pin ?_ rfl
    intro other
    simp only [pin_modify_of_isReal _ real]
    split <;> rfl
  · simp only [modify_of_missing _ real]

/-- Steps that each configure the pin of their entry come as far as the pins exist. -/
theorem exists_forEach_configuring {α : Type} {pinOf : α → Pin}
    {change : α → SimulatedPin → SimulatedPin}
    {step : SimulatedPins → α → Attempt PinError SimulatedPins}
    (configures : ∀ pins item, step pins item = pins.configure (pinOf item) (change item))
    (items : List α) (pins : SimulatedPins) :
    ∃ after, Attempt.forEach step items pins = (answerFor (items.map pinOf), after) ∧
      (∀ pin, after.pin pin =
        changesOn pinOf change (beforeMissing pinOf items) pin (pins.pin pin)) ∧
      after.interrupts = pins.interrupts := by
  induction items generalizing pins with
  | nil => exact ⟨pins, rfl, fun _ => rfl, rfl⟩
  | cons item rest induction =>
      rw [Attempt.forEach, configures, configure]
      by_cases real : (pinOf item).isReal = true
      · obtain ⟨after, taken, cells, interrupts⟩ := induction (pins.modify (pinOf item) (change item))
        refine ⟨after, ?_, ?_, interrupts⟩
        · rw [if_pos real, Attempt.andThen_accepted, taken]
          simp only [answerFor, List.map_cons, List.find?_cons, real, Bool.not_true]
        · intro pin
          have reached : beforeMissing pinOf (item :: rest) = item :: beforeMissing pinOf rest :=
            List.takeWhile_cons_of_pos real
          rw [cells, reached, changesOn_cons, pin_modify_of_isReal _ real]
          simp only [eq_comm]
      · refine ⟨pins, ?_, ?_, rfl⟩
        · rw [if_neg real, Attempt.andThen_refused]
          simp only [answerFor, List.map_cons, List.find?_cons, real, Bool.not_false]
          rfl
        · intro pin
          have reached : beforeMissing pinOf (item :: rest) = [] :=
            List.takeWhile_cons_of_neg real
          rw [reached]
          rfl

theorem setUpOutput_eq_configure (pins : SimulatedPins) (output : OutputSetup) :
    setUpOutput pins output = pins.configure output.pin output.change := by
  have configured : PinDriver.configureOutput pins output.pin output.wiring output.readback =
      pins.configure output.pin (·.becomeOutput output.wiring output.readback) := rfl
  rw [setUpOutput, configured, configure, configure]
  split
  · rw [Attempt.andThen_accepted, drive_eq_modify]
    exact congrArg Attempt.accepted (modify_modify ..)
  · rfl

/-- With all inputs there no interrupt is refused, and arming leaves the pins alone. -/
theorem exists_forEach_armInput (pins : SimulatedPins) {inputs : List InputSetup}
    (real : ∀ input ∈ inputs, input.pin.isReal = true) :
    ∃ armed, Attempt.forEach (armInput inputs) inputs pins = .accepted armed ∧
      (∀ pin, armed.pin pin = pins.pin pin) ∧
      armed.interrupts = armEach inputs pins.interrupts inputs := by
  have present : ∀ input ∈ inputs, (cellwise.cell? pins input.pin).isSome = true := by
    intro input listed
    have cell := pins.get?_cells input.pin
    rw [if_pos (real input listed)] at cell
    exact Option.isSome_iff_exists.mpr ⟨_, cell⟩
  obtain ⟨armed, arming, cells, table⟩ :=
    cellwise.forEach_armInput present (fun _ listed => listed)
  refine ⟨armed, arming, ?_, table⟩
  intro pin
  have same : armed.cells.get? pin = pins.cells.get? pin := cells pin
  rw [SimulatedPins.pin, same, SimulatedPins.pin]

/-- Where a set-up of simulated pins ends, and what it makes of every pin and line. -/
structure SetUpEnds (pins : SimulatedPins) (inputs : List InputSetup)
    (outputs : List OutputSetup) (ended : Attempt PinError SimulatedPins) : Prop where
  answer : ended.1 = answerFor (inputs.map (·.pin) ++ outputs.map (·.pin))
  cells : ∀ pin, ended.2.pin pin = setUpCell inputs outputs pin (pins.pin pin)
  interrupts : ended.2.interrupts = armEach inputs pins.interrupts (armedInputs inputs)

theorem setUpPins_ends (pins : SimulatedPins) (inputs : List InputSetup)
    (outputs : List OutputSetup) :
    SetUpEnds pins inputs outputs (setUpPins pins inputs outputs) := by
  have configures : ∀ pins input, setUpInput pins input =
      SimulatedPins.configure pins input.pin input.change := fun _ _ => rfl
  obtain ⟨configured, configuring, configuredPin, untouched⟩ :=
    exists_forEach_configuring configures inputs pins
  by_cases allReal : ∀ input ∈ inputs, input.pin.isReal = true
  · have pinsReal : ∀ pin ∈ inputs.map (·.pin), pin.isReal = true := by
      simpa using allReal
    have everyInput : inputs.all (·.pin.isReal) = true := by simpa using allReal
    obtain ⟨armed, arming, armedPin, armedTable⟩ := exists_forEach_armInput configured allReal
    obtain ⟨driven, driving, drivenPin, kept⟩ :=
      exists_forEach_configuring setUpOutput_eq_configure outputs armed
    have ended : setUpPins pins inputs outputs = (answerFor (outputs.map (·.pin)), driven) := by
      rw [setUpPins, configuring, answerFor_eq_ok_iff.mpr pinsReal]
      refine Eq.trans (Attempt.andThen_accepted configured _) ?_
      rw [arming, Attempt.andThen_accepted, driving]
    rw [ended]
    constructor
    · exact (answerFor_append_of_real pinsReal _).symm
    · intro pin
      rw [drivenPin, armedPin, configuredPin, setUpCell, drivenOutputs, if_pos everyInput]
    · rw [kept, armedTable, untouched, armedInputs, if_pos everyInput]
  · have notEvery : ¬ inputs.all (·.pin.isReal) = true := by simpa using allReal
    obtain ⟨missing, listed, notReal⟩ : ∃ input ∈ inputs, ¬ input.pin.isReal = true := by
      simpa using allReal
    obtain ⟨reason, refuses⟩ :=
      exists_answerFor_of_missing (List.mem_map_of_mem (f := (·.pin)) listed) notReal
    have refusesInputs := refuses []
    rw [List.append_nil] at refusesInputs
    have ended : setUpPins pins inputs outputs = .refused reason configured := by
      rw [setUpPins, configuring, refusesInputs]
      rfl
    rw [ended]
    constructor
    · exact (refuses _).symm
    · intro pin
      refine (configuredPin pin).trans ?_
      rw [setUpCell, drivenOutputs, if_neg notEvery]
      rfl
    · rw [armedInputs, if_neg notEvery]
      exact untouched

/-- What an accepted set-up leaves.  A line that inputs feed is armed for all of them with the
settings of the last one, and the last entry for a pin decides its role and its level. -/
structure SetUpLeaves (before after : SimulatedPins) (inputs : List InputSetup)
    (outputs : List OutputSetup) : Prop where
  armed : ∀ input ∈ inputs, ∀ port line, input.feeds port line = true →
    ∃ last, lastSetup? inputs port line = some last ∧
      (after.interrupts.get port).get line =
        some ⟨last.priority, sharedMask inputs port line, last.inverted⟩
  mask : ∀ port line bit, (sharedMask inputs port line).getLsbD bit = true ↔
    ∃ input ∈ inputs, input.feeds port line = true ∧ input.pin.bit = bit
  unarmed : ∀ port line, (∀ input ∈ inputs, ¬ input.feeds port line = true) →
    (after.interrupts.get port).get line = (before.interrupts.get port).get line
  driven : ∀ pin output, (outputs.filter (·.pin == pin)).getLast? = some output →
    (after.pin pin).role = .output output.wiring output.readback ∧
      (after.pin pin).level = output.line.level output.initiallyActive
  configured : ∀ pin input, pin ∉ outputs.map (·.pin) →
    (inputs.filter (·.pin == pin)).getLast? = some input →
      (after.pin pin).role = .input input.pull input.sense ∧
        (input.pull = .up → (after.pin pin).level = true) ∧
        (input.pull = .down → (after.pin pin).level = false)
  others : ∀ pin, pin ∉ inputs.map (·.pin) → pin ∉ outputs.map (·.pin) →
    after.pin pin = before.pin pin

theorem setUpPins_leaves {before after : SimulatedPins} {inputs : List InputSetup}
    {outputs : List OutputSetup} (accepted : setUpPins before inputs outputs = .accepted after) :
    SetUpLeaves before after inputs outputs := by
  have ends := setUpPins_ends before inputs outputs
  rw [accepted] at ends
  have real := answerFor_eq_ok_iff.mp ends.answer.symm
  simp only [List.mem_append, List.mem_map, or_imp, forall_and, forall_exists_index, and_imp,
    forall_apply_eq_imp_iff₂] at real
  have everyInput : inputs.all (·.pin.isReal) = true := List.all_eq_true.mpr real.1
  have lines : ∀ port line, (after.interrupts.get port).get line =
      ((lastSetup? inputs port line).map fun last =>
        ⟨last.priority, sharedMask inputs port line, last.inverted⟩).or
        ((before.interrupts.get port).get line) := by
    intro port line
    have table : after.interrupts = armEach inputs before.interrupts (armedInputs inputs) :=
      ends.interrupts
    rw [table, armedInputs, if_pos everyInput, get_armEach]
  have cells : ∀ pin, after.pin pin = changesOn (·.pin) OutputSetup.change outputs pin
      (changesOn (·.pin) InputSetup.change inputs pin (before.pin pin)) := by
    intro pin
    refine (ends.cells pin).trans ?_
    rw [setUpCell, drivenOutputs, if_pos everyInput, beforeMissing_of_real _ real.1,
      beforeMissing_of_real _ real.2]
  constructor
  · intro input listed port line feeds
    obtain ⟨other, _, otherFeeds, isLast⟩ := exists_lastSetup? listed feeds
    obtain ⟨_, last, present, _⟩ := InputSetup.feeds_iff.mp otherFeeds
    rw [present] at isLast
    refine ⟨last, isLast, ?_⟩
    rw [lines, isLast]
    rfl
  · intro port line bit
    rw [getLsbD_sharedMask]
    refine exists_congr fun input => and_congr_right fun listed => and_congr_right fun _ => ?_
    rw [Nat.mod_eq_of_lt (of_decide_eq_true (real.1 input listed))]
  · intro port line unfed
    have none : lastSetup? inputs port line = none := by
      rw [lastSetup?, List.filter_eq_nil_iff.mpr unfed]
      rfl
    rw [lines, none]
    rfl
  · intro pin output isLast
    obtain ⟨cell, changed⟩ := changesOn_of_last (·.pin) OutputSetup.change isLast
      (changesOn (·.pin) InputSetup.change inputs pin (before.pin pin))
    rw [cells, changed]
    exact ⟨output.role_change cell, output.level_change cell⟩
  · intro pin input noOutput isLast
    obtain ⟨cell, changed⟩ := changesOn_of_last (·.pin) InputSetup.change isLast (before.pin pin)
    have level := input.level_change cell
    rw [cells, changesOn_of_notMem _ _ noOutput, changed]
    refine ⟨input.role_change cell, ?_, ?_⟩
    · intro pulled
      rw [pulled] at level
      exact level
    · intro pulled
      rw [pulled] at level
      exact level
  · intro pin noInput noOutput
    rw [cells, changesOn_of_notMem _ _ noOutput, changesOn_of_notMem _ _ noInput]

end SimulatedPins

theorem notMem_outputCalls {inputs : List InputSetup} (outputs : List OutputSetup)
    {call : PinCall} (prepares : call ∈ inputCalls inputs ++ armCalls inputs) :
    call ∉ outputCalls outputs := by
  intro drives
  simp only [outputCalls, OutputSetup.calls, List.mem_flatMap, List.mem_cons, List.not_mem_nil,
    or_false] at drives
  obtain ⟨output, _, rfl | rfl⟩ := drives
  · simp [inputCalls, armCalls, InputSetup.call, InputSetup.armCall?] at prepares
  · split at prepares <;>
      simp [inputCalls, armCalls, InputSetup.call, InputSetup.armCall?] at prepares

/-- A set-up performs its plan up to the first refused call, and no call on an output if an
input or an interrupt is refused.  Simulated pins accept it exactly if all its pins exist, and
are then left as its tables say. -/
theorem set_up_performs_plan {β : Type} [PinDriver β] (pins : β) (inputs : List InputSetup)
    (outputs : List OutputSetup) :
    (∃ made,
      Performed pins (setUpCalls inputs outputs) made (setUpPins pins inputs outputs) ∧
      setUpPins (RecordedPins.mk pins []) inputs outputs =
        ((setUpPins pins inputs outputs).1, ⟨(setUpPins pins inputs outputs).2, made⟩) ∧
      ∀ reason after,
        Attempt.forEach PinCall.make (inputCalls inputs ++ armCalls inputs) pins =
          .refused reason after →
        made <+: inputCalls inputs ++ armCalls inputs ∧ ∀ call ∈ made, call ∉ outputCalls outputs) ∧
      ∀ before : SimulatedPins,
        ((setUpPins before inputs outputs).1 = .ok () ↔
          ∀ pin ∈ inputs.map (·.pin) ++ outputs.map (·.pin), pin.isReal = true) ∧
        ∀ after, setUpPins before inputs outputs = .accepted after →
          SimulatedPins.SetUpLeaves before after inputs outputs := by
  constructor
  · obtain ⟨made, performed, recording⟩ :=
      forEach_make_recorded (RecordedPins.mk pins []) (setUpCalls inputs outputs)
    refine ⟨made, ?_, ?_, ?_⟩
    · rw [setUpPins_eq_forEach]
      exact performed
    · rw [setUpPins_eq_forEach, setUpPins_eq_forEach]
      exact recording
    · intro reason after refused
      have short : made <+: inputCalls inputs ++ armCalls inputs :=
        made_isPrefix_of_refused (RecordedPins.mk pins []) refused
          (congrArg (·.2.calls) recording)
      exact ⟨short, fun call member => notMem_outputCalls outputs (short.subset member)⟩
  · intro before
    refine ⟨?_, fun _ => SimulatedPins.setUpPins_leaves⟩
    rw [(SimulatedPins.setUpPins_ends before inputs outputs).answer]
    exact answerFor_eq_ok_iff

end Instrument

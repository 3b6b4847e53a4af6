import Instrument.Proofs.SimulatedSetUp

/-!
# Setting pins up again

An entry of a set-up brings its pin into a role and, unless it floats, to a level, whatever
the pin was before.  A series of such changes is one more of them, so making it twice leaves
roles and levels as making it once does, however often a pin is listed and wherever the
set-up stops.  A pin listed once is not even moved on the way.
-/

namespace Instrument

/-- The change decides the role or keeps it, whatever it was, and so it does with the level. -/
def Settles (change : SimulatedPin → SimulatedPin) : Prop :=
  ∃ (role : Option PinRole) (level : Option Bool), ∀ cell,
    (change cell).role = role.getD cell.role ∧ (change cell).level = level.getD cell.level

theorem settles_id : Settles id := ⟨none, none, fun _ => ⟨rfl, rfl⟩⟩

theorem Settles.comp {first second : SimulatedPin → SimulatedPin} (settles : Settles first)
    (settlesLater : Settles second) : Settles (second ∘ first) := by
  obtain ⟨role, level, decides⟩ := settles
  obtain ⟨laterRole, laterLevel, decidesLater⟩ := settlesLater
  refine ⟨laterRole.or role, laterLevel.or level, ?_⟩
  intro cell
  have before := decides cell
  have after := decidesLater (first cell)
  rw [before.1, before.2] at after
  rw [Function.comp, after.1, after.2]
  cases laterRole <;> cases laterLevel <;> exact ⟨rfl, rfl⟩

theorem Settles.again {change : SimulatedPin → SimulatedPin} (settles : Settles change)
    (cell : SimulatedPin) :
    (change (change cell)).role = (change cell).role ∧
      (change (change cell)).level = (change cell).level := by
  obtain ⟨role, level, decides⟩ := settles
  rw [(decides (change cell)).1, (decides (change cell)).2, (decides cell).1, (decides cell).2]
  cases role <;> cases level <;> exact ⟨rfl, rfl⟩

theorem InputSetup.settles_change (input : InputSetup) : Settles input.change := by
  refine ⟨some (.input input.pull input.sense),
    match input.pull with | .up => some true | .down => some false | _ => none, ?_⟩
  intro cell
  refine ⟨input.role_change cell, ?_⟩
  rw [input.level_change cell]
  cases input.pull <;> rfl

theorem OutputSetup.settles_change (output : OutputSetup) : Settles output.change :=
  ⟨some (.output output.wiring output.readback),
    some (output.line.level output.initiallyActive),
    fun cell => ⟨output.role_change cell, output.level_change cell⟩⟩

namespace SimulatedPin

theorem becomeInput_of_settled {cell : SimulatedPin} {pull : Pull} {sense : Sense}
    (role : cell.role = .input pull sense) (up : pull = .up → cell.level = true)
    (down : pull = .down → cell.level = false) : cell.becomeInput pull sense = cell := by
  have same : { cell with role := .input pull sense } = cell := by rw [← role]
  cases pull with
  | up => rw [becomeInput, same, moveTo, if_pos (up rfl)]
  | down => rw [becomeInput, same, moveTo, if_pos (down rfl)]
  | floating | keeper => exact same

theorem becomeOutput_of_settled {cell : SimulatedPin} {wiring : Wiring} {readback : Readback}
    (role : cell.role = .output wiring readback) : cell.becomeOutput wiring readback = cell := by
  rw [becomeOutput, ← role]

end SimulatedPin

theorem InputSetup.change_change (input : InputSetup) (cell : SimulatedPin) :
    input.change (input.change cell) = input.change cell := by
  have level := input.level_change cell
  apply SimulatedPin.becomeInput_of_settled (input.role_change cell)
  · intro up
    rw [up] at level
    exact level
  · intro down
    rw [down] at level
    exact level

theorem OutputSetup.change_change (output : OutputSetup) (cell : SimulatedPin) :
    output.change (output.change cell) = output.change cell := by
  have kept := SimulatedPin.becomeOutput_of_settled (output.role_change cell)
  have unmoved := SimulatedPin.drive_of_settled (output.level_change cell)
  calc
    output.change (output.change cell)
        = ((output.change cell).becomeOutput output.wiring output.readback).drive
            (output.line.level output.initiallyActive) := rfl
    _ = output.change cell := by rw [kept, unmoved]

section Tables

variable {α : Type} (pinOf : α → Pin) {change : α → SimulatedPin → SimulatedPin}

theorem settles_changesOn (settles : ∀ item, Settles (change item)) (items : List α) (pin : Pin) :
    Settles (changesOn pinOf change items pin) := by
  induction items with
  | nil => exact settles_id
  | cons item rest induction =>
      have unfolded : changesOn pinOf change (item :: rest) pin =
          changesOn pinOf change rest pin ∘
            fun cell => if pinOf item = pin then change item cell else cell :=
        funext (changesOn_cons pinOf change item rest pin)
      rw [unfolded]
      apply Settles.comp _ induction
      split
      · exact settles item
      · exact settles_id

theorem changesOn_changesOn (again : ∀ item cell, change item (change item cell) = change item cell)
    {items : List α} (distinct : (items.map pinOf).Nodup) (pin : Pin) (cell : SimulatedPin) :
    changesOn pinOf change items pin (changesOn pinOf change items pin cell) =
      changesOn pinOf change items pin cell := by
  induction items with
  | nil => rfl
  | cons item rest induction =>
      rw [List.map_cons, List.nodup_cons] at distinct
      simp only [changesOn_cons]
      by_cases own : pinOf item = pin
      · rw [own] at distinct
        simp only [if_pos own, changesOn_of_notMem pinOf change distinct.1, again]
      · simp only [if_neg own, induction distinct.2]

end Tables

theorem settles_setUpCell (inputs : List InputSetup) (outputs : List OutputSetup) (pin : Pin) :
    Settles (setUpCell inputs outputs pin) := by
  have onInputs := settles_changesOn (·.pin) InputSetup.settles_change
    (beforeMissing (·.pin) inputs) pin
  have onOutputs := settles_changesOn (·.pin) OutputSetup.settles_change
    (drivenOutputs inputs outputs) pin
  exact onInputs.comp onOutputs

theorem drivenOutputs_sublist (inputs : List InputSetup) (outputs : List OutputSetup) :
    (drivenOutputs inputs outputs).Sublist outputs := by
  rw [drivenOutputs]
  split
  · exact List.takeWhile_sublist _
  · exact List.nil_sublist _

theorem setUpCell_setUpCell {inputs : List InputSetup} {outputs : List OutputSetup}
    (distinct : (inputs.map (·.pin) ++ outputs.map (·.pin)).Nodup) (pin : Pin)
    (cell : SimulatedPin) :
    setUpCell inputs outputs pin (setUpCell inputs outputs pin cell) =
      setUpCell inputs outputs pin cell := by
  have reached : ((beforeMissing (·.pin) inputs).map (·.pin) ++
      (drivenOutputs inputs outputs).map (·.pin)).Nodup :=
    distinct.sublist (((List.takeWhile_sublist _).map _).append
      ((drivenOutputs_sublist inputs outputs).map _))
  rw [List.nodup_append] at reached
  obtain ⟨inputsDistinct, outputsDistinct, apart⟩ := reached
  -- Only one of the two tables lists the pin.
  by_cases listed : pin ∈ (drivenOutputs inputs outputs).map (·.pin)
  · have unlisted : pin ∉ (beforeMissing (·.pin) inputs).map (·.pin) :=
      fun input => apart pin input pin listed rfl
    simp only [setUpCell, changesOn_of_notMem _ _ unlisted,
      changesOn_changesOn _ OutputSetup.change_change outputsDistinct]
  · simp only [setUpCell, changesOn_of_notMem _ _ listed,
      changesOn_changesOn _ InputSetup.change_change inputsDistinct]

theorem armEach_armEach (all inputs : List InputSetup) (table : InterruptTable) :
    armEach all (armEach all table inputs) inputs = armEach all table inputs := by
  apply InterruptTable.ext_get
  intro port line
  rw [get_armEach, get_armEach]
  cases lastSetup? inputs port line <;> rfl

namespace SimulatedPins

/-- A set-up made again ends as it did before and leaves every role, every level and every
interrupt as they are.  If no pin is listed twice, it leaves everything as it is. -/
theorem set_up_again (pins : SimulatedPins) (inputs : List InputSetup)
    (outputs : List OutputSetup) :
    let once := setUpPins pins inputs outputs
    let twice := setUpPins once.2 inputs outputs
    twice.1 = once.1 ∧
      (∀ pin, (twice.2.pin pin).role = (once.2.pin pin).role ∧
        (twice.2.pin pin).level = (once.2.pin pin).level) ∧
      twice.2.interrupts = once.2.interrupts ∧
      ((inputs.map (·.pin) ++ outputs.map (·.pin)).Nodup → twice = once) := by
  intro once twice
  have ends := setUpPins_ends pins inputs outputs
  have endsAgain := setUpPins_ends once.2 inputs outputs
  have answer : twice.1 = once.1 := endsAgain.answer.trans ends.answer.symm
  have cells : ∀ pin, once.2.pin pin = setUpCell inputs outputs pin (pins.pin pin) := ends.cells
  have cellsAgain : ∀ pin, twice.2.pin pin = setUpCell inputs outputs pin (once.2.pin pin) :=
    endsAgain.cells
  have lines : once.2.interrupts = armEach inputs pins.interrupts (armedInputs inputs) :=
    ends.interrupts
  have linesAgain : twice.2.interrupts = once.2.interrupts := by
    refine endsAgain.interrupts.trans ?_
    rw [lines]
    exact armEach_armEach _ _ _
  refine ⟨answer, ?_, linesAgain, ?_⟩
  · intro pin
    rw [cellsAgain, cells]
    exact (settles_setUpCell inputs outputs pin).again _
  · intro distinct
    apply Prod.ext answer
    apply ext_pin _ linesAgain
    intro pin
    rw [cellsAgain, cells]
    exact setUpCell_setUpCell distinct pin _

end SimulatedPins

end Instrument

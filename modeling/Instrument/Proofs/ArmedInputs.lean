import Instrument.Firmware.Machine
import Instrument.Proofs.BootedPins
import Instrument.Proofs.DrivenPins

/-!
# Armed inputs of the chip

After boot a wait for an edge ends for the four shown inputs alone, and for each of them
with any change of its level.  Driving lines and the world outside keep it that way.  The
machine therefore boots into a wait in which it serves nothing.
-/

namespace Instrument

open Board

namespace Board

def ChipPins.padLevel (chip : ChipPins) (pin : Pin) : Bool :=
  (chip.get? pin).any (·.pad.level)

theorem ChipPins.interrupts_applyExternal (chip : ChipPins) (pin : Pin) (level : Option Bool) :
    (chip.applyExternal pin level).interrupts = chip.interrupts :=
  (chip.changed_modify pin _).interrupts

theorem ChipPins.interrupts_foldl_applyExternal (chip : ChipPins)
    (external : List (Pin × Option Bool)) :
    (external.foldl (fun chip (pin, level) => chip.applyExternal pin level) chip).interrupts =
      chip.interrupts := by
  induction external generalizing chip with
  | nil => rfl
  | cons applied rest induction =>
      rw [List.foldl_cons, induction, interrupts_applyExternal]

/-- Whether the pad of a pin has changed during a wait. -/
def EdgeWait.sees (wait : EdgeWait) (pin : Pin) : Bool :=
  (padOf? pin).any fun pad => (wait.seen.get pad).rising || (wait.seen.get pad).falling

theorem padOf?_wiredPins (pad : Fin 21) : padOf? (wiredPins.get pad) = some pad :=
  padOf?_eq_some_iff.mpr rfl

theorem EdgeWait.sees_begun (pin : Pin) : begun.sees pin = false := by
  rw [sees, begun]
  cases padOf? pin with
  | none => rfl
  | some pad =>
      have unseen : (Vector.replicate 21 ({} : EdgesSeen)).get pad = {} :=
        Vector.getElem_replicate pad.isLt
      rw [Option.any_some, unseen]
      rfl

theorem EdgeWait.sees_observe (wait : EdgeWait) (before after : ChipPins) (pin : Pin) :
    (wait.observe before after).sees pin =
      (wait.sees pin || before.padLevel pin != after.padLevel pin) := by
  simp only [sees, ChipPins.padLevel, ChipPins.get?]
  cases padOf? pin with
  | none => rfl
  | some pad =>
      simp only [Option.any_some, Option.map_some, observe]
      have place : ∀ seen : Fin 21 → EdgesSeen, (Vector.ofFn seen).get pad = seen pad :=
        fun seen => Vector.getElem_ofFn pad.isLt
      rw [place]
      cases (before.pins.get pad).pad.level <;> cases (after.pins.get pad).pad.level <;>
        cases (wait.seen.get pad).rising <;> cases (wait.seen.get pad).falling <;> rfl

end Board

theorem findSome?_filtered {α β : Type} (listed : α → Bool) (test : α → Bool) (answer : α → β)
    (items : List α) :
    (items.findSome? fun item => if listed item && test item then some (answer item) else none) =
      ((items.filter listed).find? test).map answer := by
  induction items with
  | nil => rfl
  | cons item rest induction =>
      rw [List.findSome?_cons, List.filter_cons]
      cases listed item with
      | false => simpa using induction
      | true =>
          rw [if_pos rfl, List.find?_cons, Bool.true_and]
          cases test item with
          | false => simpa using induction
          | true => rfl

namespace NosePoke

/-- The pins of the chip as boot leaves them: the inputs sense both edges, all other pins
are outputs, and the interrupts are those of the inputs. -/
structure Attentive (chip : ChipPins) : Prop where
  heard : ∀ input ∈ inputs, ∃ cell, chip.get? input.pin = some cell ∧
    cell.role = .input .bothEdges
  driven : ∀ output ∈ outputs, ∃ cell, chip.get? output.pin = some cell ∧
    ∃ wiring readback, cell.role = .output wiring readback
  interrupts : chip.interrupts = armEach inputs .empty inputs

theorem input_or_output (pad : Fin 21) :
    (∃ input ∈ inputs, input.pin = wiredPins.get pad) ∨
      ∃ output ∈ outputs, output.pin = wiredPins.get pad := by
  revert pad
  decide

theorem watching?_input {input : InputSetup} (listed : input ∈ inputs) :
    ((armEach inputs .empty inputs).get input.pin.port).watching? input.pin =
      if input.pin ∈ shownInputs then some (inputLine, ⟨.low, input.pin.mask, false⟩)
      else none := by
  revert input
  decide

namespace Attentive

variable {chip : ChipPins}

theorem get_pins (attentive : Attentive chip) (pad : Fin 21) :
    (∃ input ∈ inputs, input.pin = wiredPins.get pad ∧
        (chip.pins.get pad).role = .input .bothEdges) ∨
      wiredPins.get pad ∉ shownInputs ∧
        ∃ wiring readback, (chip.pins.get pad).role = .output wiring readback := by
  have place : chip.get? (wiredPins.get pad) = some (chip.pins.get pad) := by
    rw [ChipPins.get?, padOf?_wiredPins, Option.map_some]
  rcases input_or_output pad with ⟨input, listed, same⟩ | ⟨output, listed, same⟩
  · obtain ⟨cell, found, role⟩ := attentive.heard input listed
    rw [same, place] at found
    cases found
    exact .inl ⟨input, listed, same, role⟩
  · obtain ⟨cell, found, wiring, readback, role⟩ := attentive.driven output listed
    rw [same, place] at found
    cases found
    have unshown : ∀ output ∈ outputs, output.pin ∉ shownInputs := by decide
    rw [← same]
    exact .inr ⟨unshown output listed, wiring, readback, role⟩

theorem fired? (attentive : Attentive chip) (wait : EdgeWait) (pad : Fin 21) :
    wait.fired? chip pad =
      if decide (wiredPins.get pad ∈ shownInputs) && wait.sees (wiredPins.get pad) then
        some ((wiredPins.get pad).port, inputLine)
      else none := by
  rcases attentive.get_pins pad with ⟨input, listed, same, role⟩ | ⟨unshown, _, _, role⟩
  · have watching := watching?_input listed
    rw [← attentive.interrupts, same] at watching
    simp only [EdgeWait.fired?, role, watching, EdgeWait.sees, padOf?_wiredPins,
      Option.any_some]
    by_cases shown : wiredPins.get pad ∈ shownInputs
    · simp only [if_pos shown, decide_eq_true shown, Bool.true_and]
      rfl
    · simp only [if_neg shown, decide_eq_false shown, Bool.false_and, Bool.false_eq_true,
        if_false]
  · simp [EdgeWait.fired?, role, unshown]

/-- A wait ends for the first shown input, in pad order, whose level has changed. -/
theorem poll?_eq (attentive : Attentive chip) (wait : EdgeWait) :
    wait.poll? chip =
      (shownInputs.find? wait.sees).map fun pin => (pin.port, inputLine) := by
  have pads : (List.finRange 21).map wiredPins.get = wiredPins.toList := by decide
  have shown : wiredPins.toList.filter (fun pin => decide (pin ∈ shownInputs)) = shownInputs := by
    decide
  have search := findSome?_filtered (fun pin => decide (pin ∈ shownInputs)) wait.sees
    (fun pin => (pin.port, inputLine)) wiredPins.toList
  rw [shown, ← pads, List.findSome?_map] at search
  rw [EdgeWait.poll?, ← search]
  congr 1
  funext pad
  exact attentive.fired? wait pad

theorem modify (attentive : Attentive chip) (pin : Pin) {change : ChipPin → ChipPin}
    (keeps : ∀ cell, (change cell).role = cell.role) : Attentive (chip.modify pin change) := by
  have changed := chip.changed_modify pin change
  constructor
  · intro input listed
    obtain ⟨cell, found, role⟩ := attentive.heard input listed
    rw [ChipPins.get?_modify, found]
    split
    · exact ⟨_, rfl, (keeps cell).trans role⟩
    · exact ⟨cell, rfl, role⟩
  · intro output listed
    obtain ⟨cell, found, wiring, readback, role⟩ := attentive.driven output listed
    rw [ChipPins.get?_modify, found]
    split
    · exact ⟨_, rfl, wiring, readback, (keeps cell).trans role⟩
    · exact ⟨cell, rfl, wiring, readback, role⟩
  · exact changed.interrupts.trans attentive.interrupts

theorem drive (attentive : Attentive chip) (line : OutputLine) (active : Bool) :
    Attentive (PinDriver.drive chip line active) := by
  rw [ChipPins.drive_eq_modify]
  apply attentive.modify
  intro cell
  exact cell.role_command _

theorem driveEach (attentive : Attentive chip) (commands : List (OutputLine × Bool)) :
    Attentive (PinDriver.driveEach chip commands) := by
  induction commands generalizing chip with
  | nil => exact attentive
  | cons command rest induction =>
      rw [PinDriver.driveEach_cons]
      exact induction (attentive.drive command.1 command.2)

theorem applyExternal (attentive : Attentive chip) (pin : Pin) (level : Option Bool) :
    Attentive (chip.applyExternal pin level) :=
  attentive.modify pin fun _ => rfl

end Attentive

theorem boot_attentive {chip : ChipPins} (unarmed : chip.interrupts = .empty) :
    ∃ after, (∀ signals, boot chip signals = (.ok (booted after), .clear)) ∧
      BootedBoard chip after ∧ Attentive after := by
  obtain ⟨after, boots, settled⟩ := boot_accepted ChipPins.cellwise
    (fun _ listed => Option.isSome_iff_exists.mpr (chip.exists_cell (input_wired listed)))
    (fun _ listed => Option.isSome_iff_exists.mpr (chip.exists_cell (output_wired listed)))
  have board : BootedBoard chip after := ⟨settled.configured, settled.driven⟩
  refine ⟨after, boots, board, ?_, ?_, ?_⟩
  · intro input listed
    have senses : ∀ input ∈ inputs, input.sense = .bothEdges := by decide
    obtain ⟨cell, found⟩ := chip.exists_cell (input_wired listed)
    have taken := board.configured input listed
    rw [found, senses input listed] at taken
    exact ⟨_, taken, rfl⟩
  · intro output listed
    obtain ⟨cell, found⟩ := chip.exists_cell (output_wired listed)
    have taken := board.driven output listed
    rw [found] at taken
    refine ⟨_, taken, output.wiring, output.readback, ?_⟩
    exact (ChipPin.role_command _ _).trans (ChipPin.role_command _ _)
  · have armed : after.interrupts = armEach inputs chip.interrupts inputs := settled.interrupts
    rw [armed, unarmed]

end NosePoke

namespace Firmware.Machine

open NosePoke

/-- The chip after reset, with levels applied to its pads. -/
def chipWith (external : List (Pin × Option Bool)) : ChipPins :=
  external.foldl (fun chip (pin, level) => chip.applyExternal pin level) .reset

/-- Whatever is applied to the pads, the machine boots into a wait for an edge. -/
theorem boot_waits (external : List (Pin × Option Bool)) :
    ∃ chip, BootedBoard (chipWith external) chip ∧ Attentive chip ∧
      boot external = .ok { controller := booted chip, wait := some .begun } := by
  have unarmed := ChipPins.reset.interrupts_foldl_applyExternal external
  obtain ⟨chip, boots, board, attentive⟩ := boot_attentive unarmed
  have quiet : EdgeWait.begun.poll? chip = none := by
    have unseen : shownInputs.find? EdgeWait.begun.sees = none :=
      List.find?_eq_none.mpr fun pin _ => by simp [EdgeWait.sees_begun]
    rw [attentive.poll?_eq, unseen, Option.map_none]
  have turn : registerTurn { controller := booted chip } =
      (false, { controller := booted chip, wait := some .begun }) := by
    have looked : lookAtEdges { controller := booted chip } =
        (EdgeWait.begun.poll? chip, { controller := booted chip, wait := some .begun }) := rfl
    have unasked : serveRequest? { controller := booted chip } = none := rfl
    have early : serveTick? { controller := booted chip } = none := rfl
    rw [registerTurn, unasked, early, looked, quiet]
  have settles : run { controller := booted chip } =
      { controller := booted chip, wait := some .begun } := by
    rw [run, runRegisterTask, turnsDue, registerTurns, turn]
    rfl
  refine ⟨chip, board, attentive, ?_⟩
  rw [boot, boots]
  exact congrArg Except.ok settles

end Firmware.Machine

end Instrument

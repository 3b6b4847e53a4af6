import Instrument.Board.ChipPins
import Instrument.Pin.Setup
import Instrument.Proofs.DrivenPins

/-!
# Pins kept in cells

The simulation and the chip keep a cell for every pin they have, and a call on a pin
changes the cell of that pin and no other.  What a set-up makes of the pins follows
from this alone, so it is derived once: each listed pin has a cell that took its own
settings, every other cell is as it was, and nothing is refused.
-/

namespace Instrument

theorem Pin.and_mask_ne_zero_iff (mask : BitVec 8) (pin : Pin) :
    mask &&& pin.mask ≠ 0#8 ↔ mask.getLsbD (pin.bit % Port.pinCount) = true := by
  have single : BitVec.twoPow 8 (pin.bit % Port.pinCount) ≠ 0#8 := by
    intro zero
    have bound : pin.bit % Port.pinCount < 8 := Nat.mod_lt _ (by decide)
    have bit := congrArg (BitVec.getLsbD · (pin.bit % Port.pinCount)) zero
    simp [bound] at bit
  rw [Pin.mask, BitVec.and_twoPow]
  split
  · rename_i selected
    exact iff_of_true single selected
  · rename_i unselected
    exact iff_of_false (not_not_intro rfl) unselected

/-- Port masks cannot tell pins apart that are eight bits away, but of two such pins at
most one exists. -/
theorem Pin.eq_of_mod_bit_eq {first second : Pin} (firstReal : first.isReal = true)
    (secondReal : second.isReal = true) (samePort : first.port = second.port)
    (sameBit : first.bit % Port.pinCount = second.bit % Port.pinCount) : first = second := by
  rw [Nat.mod_eq_of_lt (of_decide_eq_true firstReal),
    Nat.mod_eq_of_lt (of_decide_eq_true secondReal)] at sameBit
  cases first
  cases second
  cases samePort
  cases sameBit
  rfl

theorem getLsbD_sharedMask (inputs : List InputSetup) (port : Port) (line : InterruptLine)
    (bit : Nat) :
    (sharedMask inputs port line).getLsbD bit = true ↔
      ∃ input ∈ inputs, input.feeds port line = true ∧
        input.pin.bit % Port.pinCount = bit := by
  have collected : ∀ (feeding : List InputSetup) (mask : BitVec 8),
      (feeding.foldl (fun mask input => mask ||| input.pin.mask) mask).getLsbD bit = true ↔
        mask.getLsbD bit = true ∨
          ∃ input ∈ feeding, input.pin.bit % Port.pinCount = bit := by
    intro feeding
    induction feeding with
    | nil => simp
    | cons input rest induction =>
        intro mask
        have bound : input.pin.bit % Port.pinCount < 8 := Nat.mod_lt _ (by decide)
        have own : input.pin.mask.getLsbD bit = true ↔
            input.pin.bit % Port.pinCount = bit := by
          simp only [Pin.mask, BitVec.getLsbD_twoPow, Bool.and_eq_true, decide_eq_true_eq]
          omega
        rw [List.foldl_cons, induction, BitVec.getLsbD_or, Bool.or_eq_true, own, or_assoc]
        simp only [List.mem_cons, exists_eq_or_imp]
  rw [sharedMask, collected]
  simp [List.mem_filter, and_assoc]

variable {β σ : Type}

/-- How pins are seen cell by cell. -/
structure CellView (β σ : Type) where
  /-- The cell of a pin, if there is such a pin. -/
  cell? : β → Pin → Option σ
  interrupts : β → InterruptTable

/-- The cell of one pin has changed, and nothing else has. -/
structure CellView.Changed (view : CellView β σ) (pins after : β) (pin : Pin)
    (change : σ → σ) : Prop where
  cells : ∀ other, view.cell? after other =
    if other = pin then (view.cell? pins other).map change else view.cell? pins other
  interrupts : view.interrupts after = view.interrupts pins

namespace CellView.Changed

variable {view : CellView β σ} {pins middle after : β} {pin : Pin} {first second : σ → σ}

theorem trans (changed : view.Changed pins middle pin first)
    (again : view.Changed middle after pin second) :
    view.Changed pins after pin (second ∘ first) where
  cells other := by
    rw [again.cells, changed.cells]
    split
    · rw [Option.map_map]
    · rfl
  interrupts := again.interrupts.trans changed.interrupts

theorem isSome_cell? (changed : view.Changed pins after pin first) (other : Pin) :
    (view.cell? after other).isSome = (view.cell? pins other).isSome := by
  rw [changed.cells]
  split
  · rw [Option.isSome_map]
  · rfl

end CellView.Changed

/-- A driver that accepts every call on a pin it has and changes the cell of that pin
alone. -/
structure Cellwise (β σ : Type) [PinDriver β] extends CellView β σ where
  asInput : Pull → Sense → σ → σ
  asOutput : Wiring → Readback → σ → σ
  told : Bool → σ → σ
  real : ∀ {pins pin}, (cell? pins pin).isSome = true → pin.isReal = true
  configureInput : ∀ {pins pin} pull sense, (cell? pins pin).isSome = true →
    ∃ after, PinDriver.configureInput pins pin pull sense = .accepted after ∧
      toCellView.Changed pins after pin (asInput pull sense)
  configureOutput : ∀ {pins pin} wiring readback, (cell? pins pin).isSome = true →
    ∃ after, PinDriver.configureOutput pins pin wiring readback = .accepted after ∧
      toCellView.Changed pins after pin (asOutput wiring readback)
  drive : ∀ pins line active,
    toCellView.Changed pins (PinDriver.drive pins line active) line.pin
      (told (line.level active))
  arm : ∀ {pins port} line {armed : ArmedInterrupt}, armed.mask ≠ 0 →
    (∀ bit, armed.mask.getLsbD bit = true → (cell? pins ⟨port, bit⟩).isSome = true) →
      ∃ after, PinDriver.arm pins port line armed = .accepted after ∧
        (∀ pin, cell? after pin = cell? pins pin) ∧
          interrupts after = (interrupts pins).arm port line armed

/-- The interrupt table after the interrupts of some inputs are armed in turn. -/
def armEach (all : List InputSetup) (table : InterruptTable) :
    List InputSetup → InterruptTable
  | [] => table
  | input :: rest =>
    match input.interrupt with
    | none => armEach all table rest
    | some interrupt =>
      armEach all (table.arm input.pin.port interrupt.line
        ⟨interrupt.priority, sharedMask all input.pin.port interrupt.line,
          interrupt.inverted⟩) rest

namespace Cellwise

variable [PinDriver β] (driver : Cellwise β σ)

/-- The pins after a set-up: each listed pin has taken its settings, every other pin is
as it was, and the interrupts of the inputs are armed. -/
structure SetUp (pins after : β) (inputs : List InputSetup) (outputs : List OutputSetup) :
    Prop where
  configured : ∀ input ∈ inputs, driver.cell? after input.pin =
    (driver.cell? pins input.pin).map (driver.asInput input.pull input.sense)
  driven : ∀ output ∈ outputs, driver.cell? after output.pin =
    (driver.cell? pins output.pin).map
      (driver.told (output.line.level output.initiallyActive) ∘
        driver.asOutput output.wiring output.readback)
  others : ∀ pin, pin ∉ inputs.map (·.pin) → pin ∉ outputs.map (·.pin) →
    driver.cell? after pin = driver.cell? pins pin
  interrupts : driver.interrupts after = armEach inputs (driver.interrupts pins) inputs

/-- Steps that each change the cell of a pin of their own are all accepted, and each
pin keeps what its step made of it. -/
theorem forEach_changed {α : Type} (step : β → α → Attempt PinError β) (pinOf : α → Pin)
    (change : α → σ → σ)
    (taken : ∀ pins item, (driver.cell? pins (pinOf item)).isSome = true →
      ∃ after, step pins item = .accepted after ∧
        driver.Changed pins after (pinOf item) (change item))
    {items : List α} (distinct : (items.map pinOf).Nodup) {pins : β}
    (present : ∀ item ∈ items, (driver.cell? pins (pinOf item)).isSome = true) :
    ∃ after, Attempt.forEach step items pins = .accepted after ∧
      (∀ item ∈ items, driver.cell? after (pinOf item) =
        (driver.cell? pins (pinOf item)).map (change item)) ∧
      (∀ pin, pin ∉ items.map pinOf → driver.cell? after pin = driver.cell? pins pin) ∧
      driver.interrupts after = driver.interrupts pins := by
  induction items generalizing pins with
  | nil =>
      refine ⟨pins, rfl, ?_, fun _ _ => rfl, rfl⟩
      intro item member
      cases member
  | cons item rest induction =>
      rw [List.map_cons, List.nodup_cons] at distinct
      rw [List.forall_mem_cons] at present
      obtain ⟨middle, stepped, changed⟩ := taken pins item present.1
      have stillPresent : ∀ later ∈ rest,
          (driver.cell? middle (pinOf later)).isSome = true := by
        intro later member
        rw [changed.isSome_cell?]
        exact present.2 later member
      obtain ⟨after, continued, listed, others, interrupts⟩ :=
        induction distinct.2 stillPresent
      refine ⟨after, ?_, ?_, ?_, interrupts.trans changed.interrupts⟩
      · rw [Attempt.forEach, stepped]
        exact continued
      · rw [List.forall_mem_cons]
        constructor
        · rw [others _ distinct.1, changed.cells, if_pos rfl]
        · intro later member
          have apart : pinOf later ≠ pinOf item := by
            intro same
            exact distinct.1 (same ▸ List.mem_map_of_mem member)
          rw [listed later member, changed.cells, if_neg apart]
      · intro pin unlisted
        rw [List.map_cons, List.mem_cons, not_or] at unlisted
        rw [others pin unlisted.2, changed.cells, if_neg unlisted.1]

theorem setUpOutput_changed {pins : β} {output : OutputSetup}
    (present : (driver.cell? pins output.pin).isSome = true) :
    ∃ after, setUpOutput pins output = .accepted after ∧
      driver.Changed pins after output.pin
        (driver.told (output.line.level output.initiallyActive) ∘
          driver.asOutput output.wiring output.readback) := by
  obtain ⟨middle, configured, changed⟩ :=
    driver.configureOutput output.wiring output.readback present
  have driven := driver.drive middle output.line output.initiallyActive
  refine ⟨PinDriver.drive middle output.line output.initiallyActive, ?_,
    changed.trans driven⟩
  rw [setUpOutput, configured]
  rfl

theorem armInput_accepted {all : List InputSetup} {pins : β}
    (present : ∀ input ∈ all, (driver.cell? pins input.pin).isSome = true)
    {input : InputSetup} (listed : input ∈ all) :
    ∃ after, armInput all pins input = .accepted after ∧
      (∀ pin, driver.cell? after pin = driver.cell? pins pin) ∧
        driver.interrupts after = armEach all (driver.interrupts pins) [input] := by
  cases feeding : input.interrupt with
  | none =>
      rw [armInput, armEach, feeding]
      exact ⟨pins, rfl, fun _ => rfl, rfl⟩
  | some interrupt =>
      rw [armInput, armEach, feeding]
      apply driver.arm
      · intro empty
        have feeds : input.feeds input.pin.port interrupt.line = true := by
          simp [InputSetup.feeds, feeding]
        have own := (getLsbD_sharedMask all input.pin.port interrupt.line _).mpr
          ⟨input, listed, feeds, rfl⟩
        have empty : sharedMask all input.pin.port interrupt.line = 0 := empty
        rw [empty] at own
        simp at own
      · intro bit selected
        obtain ⟨other, otherListed, feeds, place⟩ :=
          (getLsbD_sharedMask all input.pin.port interrupt.line bit).mp selected
        have onBoard := present other otherListed
        have inRange : other.pin.bit < Port.pinCount :=
          of_decide_eq_true (driver.real onBoard)
        have samePort : other.pin.port = input.pin.port := by
          simp only [InputSetup.feeds, Bool.and_eq_true, beq_iff_eq] at feeds
          exact feeds.1
        rw [← place, ← samePort, Nat.mod_eq_of_lt inRange]
        exact onBoard

theorem forEach_armInput {all : List InputSetup} {pins : β}
    (present : ∀ input ∈ all, (driver.cell? pins input.pin).isSome = true)
    {inputs : List InputSetup} (listed : ∀ input ∈ inputs, input ∈ all) :
    ∃ after, Attempt.forEach (armInput all) inputs pins = .accepted after ∧
      (∀ pin, driver.cell? after pin = driver.cell? pins pin) ∧
        driver.interrupts after = armEach all (driver.interrupts pins) inputs := by
  induction inputs generalizing pins with
  | nil => exact ⟨pins, rfl, fun _ => rfl, rfl⟩
  | cons input rest induction =>
      rw [List.forall_mem_cons] at listed
      obtain ⟨middle, armed, cells, interrupts⟩ :=
        driver.armInput_accepted present listed.1
      have stillPresent : ∀ input ∈ all,
          (driver.cell? middle input.pin).isSome = true := by
        intro input member
        rw [cells]
        exact present input member
      obtain ⟨after, continued, later, table⟩ := induction stillPresent listed.2
      refine ⟨after, ?_, ?_, ?_⟩
      · rw [Attempt.forEach, armed]
        exact continued
      · intro pin
        rw [later, cells]
      · rw [table, interrupts]
        simp only [armEach]
        cases input.interrupt <;> rfl

/-- A set-up of pins that are all there, each listed once, is accepted. -/
theorem setUpPins_accepted {inputs : List InputSetup} {outputs : List OutputSetup}
    (distinct : (inputs.map (·.pin) ++ outputs.map (·.pin)).Nodup) {pins : β}
    (inputsPresent : ∀ input ∈ inputs, (driver.cell? pins input.pin).isSome = true)
    (outputsPresent : ∀ output ∈ outputs, (driver.cell? pins output.pin).isSome = true) :
    ∃ after, setUpPins pins inputs outputs = .accepted after ∧
      driver.SetUp pins after inputs outputs := by
  obtain ⟨inputsDistinct, outputsDistinct, apart⟩ := List.nodup_append.mp distinct
  -- The three passes change inputs, no cell, and outputs; no pin is touched by two.
  obtain ⟨configured, inputsTaken, listed, unlisted, table⟩ :=
    driver.forEach_changed setUpInput (·.pin)
      (fun input => driver.asInput input.pull input.sense)
      (fun _ input there => driver.configureInput input.pull input.sense there)
      inputsDistinct inputsPresent
  have kept : ∀ pin, (driver.cell? pins pin).isSome = true →
      (driver.cell? configured pin).isSome = true := by
    intro pin there
    by_cases input : pin ∈ inputs.map (·.pin)
    · obtain ⟨setting, member, rfl⟩ := List.mem_map.mp input
      rw [listed setting member, Option.isSome_map]
      exact there
    · rw [unlisted pin input]
      exact there
  obtain ⟨armed, armsTaken, cells, armedTable⟩ := driver.forEach_armInput
    (fun input member => kept _ (inputsPresent input member)) (fun _ member => member)
  have armedPresent : ∀ output ∈ outputs,
      (driver.cell? armed output.pin).isSome = true := by
    intro output member
    rw [cells]
    exact kept _ (outputsPresent output member)
  obtain ⟨after, outputsTaken, driven, undriven, lastTable⟩ :=
    driver.forEach_changed setUpOutput (·.pin) _
      (fun _ _ there => driver.setUpOutput_changed there) outputsDistinct armedPresent
  refine ⟨after, ?_, ?_, ?_, ?_, ?_⟩
  · rw [setUpPins, inputsTaken, Attempt.andThen_accepted, armsTaken,
      Attempt.andThen_accepted, outputsTaken]
  · intro input member
    have noOutput : input.pin ∉ outputs.map (·.pin) := fun output =>
      apart _ (List.mem_map_of_mem member) _ output rfl
    rw [undriven _ noOutput, cells, listed input member]
  · intro output member
    have noInput : output.pin ∉ inputs.map (·.pin) := fun input =>
      apart _ input _ (List.mem_map_of_mem member) rfl
    rw [driven output member, cells, unlisted _ noInput]
  · intro pin noInput noOutput
    rw [undriven pin noOutput, cells, unlisted pin noInput]
  · rw [lastTable, armedTable, table]

end Cellwise

namespace SimulatedPins

def cellView : CellView SimulatedPins SimulatedPin where
  cell? pins := pins.cells.get?
  interrupts := (·.interrupts)

theorem isReal_of_cell? {pins : SimulatedPins} {pin : Pin}
    (present : (cellView.cell? pins pin).isSome = true) : pin.isReal = true := by
  simp only [cellView, get?_cells] at present
  split at present
  · assumption
  · cases present

theorem changed_modify (pins : SimulatedPins) (pin : Pin) (change : SimulatedPin → SimulatedPin) :
    cellView.Changed pins (pins.modify pin change) pin change where
  cells other := by
    refine (PinTable.get?_modify ..).trans ?_
    split
    · rename_i same
      rw [same]
      rfl
    · rfl
  interrupts := rfl

theorem configure_changed {pins : SimulatedPins} {pin : Pin}
    (change : SimulatedPin → SimulatedPin) (present : (cellView.cell? pins pin).isSome = true) :
    ∃ after, pins.configure pin change = .accepted after ∧
      cellView.Changed pins after pin change :=
  ⟨_, if_pos (isReal_of_cell? present), pins.changed_modify pin change⟩

def cellwise : Cellwise SimulatedPins SimulatedPin where
  toCellView := cellView
  asInput pull sense cell := cell.becomeInput pull sense
  asOutput wiring readback cell := cell.becomeOutput wiring readback
  told high cell := cell.drive high
  real := isReal_of_cell?
  configureInput pull sense := configure_changed (·.becomeInput pull sense)
  configureOutput wiring readback := configure_changed (·.becomeOutput wiring readback)
  drive pins line active := by
    rw [drive_eq_modify]
    exact changed_modify ..
  arm := by
    intro pins port line armed filled _
    exact ⟨_, if_neg filled, fun _ => rfl, rfl⟩

theorem pin_eq_of_cell? {pins after : SimulatedPins} {pin : Pin} (real : pin.isReal = true)
    {change : SimulatedPin → SimulatedPin}
    (taken : cellwise.cell? after pin = (cellwise.cell? pins pin).map change) :
    after.pin pin = change (pins.pin pin) := by
  have cell : after.cells.get? pin = (pins.cells.get? pin).map change := taken
  rw [SimulatedPins.pin, cell, get?_cells, if_pos real]
  rfl

end SimulatedPins

namespace Board

theorem wiredPins_injective {first second : Fin 21}
    (same : wiredPins.get first = wiredPins.get second) : first = second := by
  revert same first second
  decide

theorem padOf?_eq_some_iff {pin : Pin} {pad : Fin 21} :
    padOf? pin = some pad ↔ wiredPins.get pad = pin := by
  rw [padOf?, Vector.finIdxOf?, Option.map_eq_some_iff]
  simp only [Array.finIdxOf?_eq_some_iff]
  constructor
  · intro found
    obtain ⟨place, ⟨wired, _⟩, rfl⟩ := found
    exact wired
  · intro wired
    subst wired
    refine ⟨pad, ⟨rfl, ?_⟩, rfl⟩
    intro earlier before same
    exact absurd (wiredPins_injective same) (Fin.ne_of_lt before)

theorem isSome_padOf?_iff {pin : Pin} :
    (padOf? pin).isSome = true ↔ ∃ pad, wiredPins.get pad = pin := by
  simp only [Option.isSome_iff_exists, padOf?_eq_some_iff]

theorem isReal_of_wired {pin : Pin} (wired : ∃ pad, wiredPins.get pad = pin) :
    pin.isReal = true := by
  have all : ∀ pad : Fin 21, (wiredPins.get pad).isReal = true := by decide
  obtain ⟨pad, rfl⟩ := wired
  exact all pad

theorem ChipPin.role_command (cell : ChipPin) (high : Bool) :
    (cell.command high).role = cell.role := by
  obtain ⟨pad, role, commanded⟩ := cell
  cases role with
  | unconfigured | input => rfl
  | output wiring => cases wiring <;> rfl

namespace ChipPins

theorem get?_modify (chip : ChipPins) (pin other : Pin) (change : ChipPin → ChipPin) :
    (chip.modify pin change).get? other =
      if other = pin then (chip.get? other).map change else chip.get? other := by
  cases wired : padOf? pin with
  | none =>
      have unchanged : chip.modify pin change = chip := by
        simp only [modify, wired]
      rw [unchanged]
      split
      · rename_i same
        rw [same, get?, wired]
        rfl
      · rfl
  | some pad =>
      have changed : (chip.modify pin change).pins =
          chip.pins.set pad (change (chip.pins.get pad)) := by
        simp only [modify, wired]
      split
      · rename_i same
        rw [same, get?, get?, wired, changed]
        exact congrArg some (Vector.getElem_set_self pad.isLt)
      · rename_i different
        rw [get?, get?]
        cases otherWired : padOf? other with
        | none => rfl
        | some otherPad =>
            have apart : (pad : Nat) ≠ otherPad := by
              intro same
              have place := padOf?_eq_some_iff.mp wired
              rw [Fin.ext same, padOf?_eq_some_iff.mp otherWired] at place
              exact different place
            rw [changed]
            exact congrArg some (Vector.getElem_set_ne pad.isLt otherPad.isLt apart)

theorem isSome_get? (chip : ChipPins) (pin : Pin) :
    (chip.get? pin).isSome = (padOf? pin).isSome := by
  rw [get?, Option.isSome_map]

theorem exists_cell (chip : ChipPins) {pin : Pin} (wired : ∃ pad, wiredPins.get pad = pin) :
    ∃ cell, chip.get? pin = some cell := by
  have present := chip.isSome_get? pin
  rw [isSome_padOf?_iff.mpr wired] at present
  exact Option.isSome_iff_exists.mp present

theorem get?_reset {pin : Pin} (wired : ∃ pad, wiredPins.get pad = pin) :
    reset.get? pin = some {} := by
  obtain ⟨pad, wired⟩ := wired
  rw [get?, padOf?_eq_some_iff.mpr wired]
  exact congrArg some (Vector.getElem_replicate pad.isLt)

theorem drive_eq_modify (chip : ChipPins) (line : OutputLine) (active : Bool) :
    PinDriver.drive chip line active =
      chip.modify line.pin (·.command (line.level active)) := by
  rw [PinDriver.drive, PinDriver.write]
  cases line.level active <;> rfl

def cellView : CellView ChipPins ChipPin where
  cell? := get?
  interrupts := (·.interrupts)

theorem changed_modify (chip : ChipPins) (pin : Pin) (change : ChipPin → ChipPin) :
    cellView.Changed chip (chip.modify pin change) pin change where
  cells other := chip.get?_modify pin other change
  interrupts := by
    simp only [cellView, modify]
    split <;> rfl

theorem configure_changed {chip : ChipPins} {pin : Pin} (change : ChipPin → ChipPin)
    (present : (cellView.cell? chip pin).isSome = true) :
    ∃ after, chip.configure pin change = .accepted after ∧
      cellView.Changed chip after pin change := by
  have wired : (padOf? pin).isSome = true := (chip.isSome_get? pin).symm.trans present
  exact ⟨_, if_pos wired, chip.changed_modify pin change⟩

theorem isReal_of_cell? {chip : ChipPins} {pin : Pin}
    (present : (cellView.cell? chip pin).isSome = true) : pin.isReal = true := by
  have wired := (chip.isSome_get? pin).symm.trans present
  exact isReal_of_wired (isSome_padOf?_iff.mp wired)

def cellwise : Cellwise ChipPins ChipPin where
  toCellView := cellView
  asInput pull sense cell := cell.becomeInput pull sense
  asOutput wiring readback cell := cell.becomeOutput wiring readback
  told high cell := cell.command high
  real := isReal_of_cell?
  configureInput pull sense := configure_changed (·.becomeInput pull sense)
  configureOutput wiring readback := configure_changed (·.becomeOutput wiring readback)
  drive chip line active := by
    rw [drive_eq_modify]
    exact chip.changed_modify line.pin _
  arm := by
    intro chip port line armed filled wired
    have allWired : unwired? port armed.mask = none := by
      rw [unwired?, List.find?_eq_none]
      intro pin listed
      obtain ⟨bit, inRange, rfl⟩ := List.mem_map.mp listed
      have bound : bit % Port.pinCount = bit := Nat.mod_eq_of_lt (List.mem_range.mp inRange)
      rw [Bool.and_eq_true, bne_iff_ne, Pin.and_mask_ne_zero_iff, bound]
      intro unwired
      have there := (chip.isSome_get? ⟨port, bit⟩).symm.trans (wired bit unwired.1)
      rw [Option.isNone_iff_eq_none.mp unwired.2] at there
      cases there
    refine ⟨{ chip with interrupts := chip.interrupts.arm port line armed }, ?_,
      fun _ => rfl, rfl⟩
    simp only [PinDriver.arm, allWired]
    exact if_neg filled

end ChipPins

end Board

end Instrument

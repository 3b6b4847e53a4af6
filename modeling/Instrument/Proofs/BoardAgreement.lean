import Instrument.Proofs.BootedPins
import Instrument.Proofs.OtherPins

/-!
# The board and the simulation

A device over the chip and one over the simulation go through the same calls, while the
world moves the inputs of each as it likes.  What ties them together is that the same
pins are inputs on both, and that each output of the board drives its pad to the level
of the simulated pin.  Driving lines keeps this, whatever the lines are, and so does the
world outside; all else that the devices hold and answer is then the same.
-/

namespace Instrument

namespace Board.ChipPin

/-- Both pins are inputs that sense the same. -/
def HearsAs (cell : ChipPin) (pin : SimulatedPin) : Prop :=
  ∃ pull sense, pin.role = .input pull sense ∧ cell.role = .input sense

/-- Both pins are push-pull outputs, and the pad is driven to the level of the simulated
one. -/
structure HoldsAs (cell : ChipPin) (pin : SimulatedPin) : Prop where
  role : ∃ readback, pin.role = .output .pushPull readback ∧
    cell.role = .output .pushPull readback
  driving : cell.pad.driving = true
  latch : cell.pad.latch = pin.level

variable {cell : ChipPin} {pin : SimulatedPin}

theorem HearsAs.read_eq (hears : cell.HearsAs pin) (level : cell.pad.level = pin.level) :
    cell.read = pin.read := by
  obtain ⟨pull, sense, simulated, wired⟩ := hears
  simp only [ChipPin.read, SimulatedPin.read, simulated, wired]
  exact level

theorem HearsAs.told (hears : cell.HearsAs pin) (high : Bool) :
    (cell.command high).HearsAs (pin.drive high) := by
  obtain ⟨pull, sense, simulated, wired⟩ := hears
  refine ⟨pull, sense, ?_, ?_⟩
  · rw [SimulatedPin.role_drive, simulated]
  · simp only [command, wired]

theorem HoldsAs.told (holds : cell.HoldsAs pin) (high : Bool) :
    (cell.command high).HoldsAs (pin.drive high) := by
  obtain ⟨readback, simulated, wired⟩ := holds.role
  refine ⟨⟨readback, ?_, ?_⟩, ?_, ?_⟩
  · rw [SimulatedPin.role_drive, simulated]
  · simp only [command, wired]
  · simp only [command, wired]
    exact holds.driving
  · rw [SimulatedPin.level_drive ⟨.pushPull, readback, simulated⟩]
    simp only [command, wired]

theorem holdsAs_becomeOutput (cell : ChipPin) (pin : SimulatedPin) (readback : Readback)
    (high : Bool) :
    ((cell.becomeOutput .pushPull readback).command high).HoldsAs
      ((pin.becomeOutput .pushPull readback).drive high) := by
  have role : (pin.becomeOutput .pushPull readback).role = .output .pushPull readback := rfl
  refine ⟨⟨readback, ?_, rfl⟩, rfl, ?_⟩
  · rw [SimulatedPin.role_drive, role]
  · rw [SimulatedPin.level_drive ⟨.pushPull, readback, role⟩]
    rfl

theorem hearsAs_becomeInput (cell : ChipPin) (pin : SimulatedPin) (pull : Pull)
    (sense : Sense) :
    (cell.becomeInput pull sense).HearsAs (pin.becomeInput pull sense) :=
  ⟨pull, sense, pin.role_becomeInput pull sense, rfl⟩

end Board.ChipPin

namespace NosePoke

open Board

/-- The chip has the inputs and outputs that the simulation has, with the outputs at the
same levels. -/
structure Mirrors (pins : SimulatedPins) (chip : ChipPins) : Prop where
  heard : ∀ input ∈ inputs, ∃ cell, chip.get? input.pin = some cell ∧
    cell.HearsAs (pins.pin input.pin)
  held : ∀ output ∈ outputs, ∃ cell, chip.get? output.pin = some cell ∧
    cell.HoldsAs (pins.pin output.pin)

namespace Mirrors

variable {pins : SimulatedPins} {chip : ChipPins}

theorem read_eq (mirrors : Mirrors pins chip) {input : InputSetup} (listed : input ∈ inputs)
    {cell : ChipPin} (found : chip.get? input.pin = some cell)
    (level : cell.pad.level = (pins.pin input.pin).level) :
    PinDriver.read chip input.pin = PinDriver.read pins input.pin := by
  obtain ⟨heard, heardFound, hears⟩ := mirrors.heard input listed
  rw [found] at heardFound
  cases heardFound
  change (chip.get? input.pin).any (·.read) = (pins.pin input.pin).read
  rw [found]
  exact hears.read_eq level

theorem drive (mirrors : Mirrors pins chip) (line : OutputLine) (active : Bool) :
    Mirrors (PinDriver.drive pins line active) (PinDriver.drive chip line active) := by
  rw [ChipPins.drive_eq_modify]
  constructor
  · intro input listed
    obtain ⟨cell, found, hears⟩ := mirrors.heard input listed
    rw [SimulatedPins.pin_drive, ChipPins.get?_modify, found]
    split
    · exact ⟨_, rfl, hears.told _⟩
    · exact ⟨cell, rfl, hears⟩
  · intro output listed
    obtain ⟨cell, found, holds⟩ := mirrors.held output listed
    rw [SimulatedPins.pin_drive, ChipPins.get?_modify, found]
    split
    · exact ⟨_, rfl, holds.told _⟩
    · exact ⟨cell, rfl, holds⟩

theorem driveEach (mirrors : Mirrors pins chip) (commands : List (OutputLine × Bool)) :
    Mirrors (PinDriver.driveEach pins commands) (PinDriver.driveEach chip commands) := by
  induction commands generalizing pins chip with
  | nil => exact mirrors
  | cons command rest induction =>
      rw [PinDriver.driveEach_cons, PinDriver.driveEach_cons]
      exact induction (mirrors.drive command.1 command.2)

theorem driveInput (mirrors : Mirrors pins chip) (pin : Pin) (high : Bool) :
    Mirrors (pins.driveInput pin high).2 chip := by
  constructor
  · intro input listed
    obtain ⟨cell, found, pull, sense, simulated, wired⟩ := mirrors.heard input listed
    refine ⟨cell, found, pull, sense, ?_, wired⟩
    rw [SimulatedPins.role_pin_driveInput, simulated]
  · intro output listed
    obtain ⟨cell, found, holds⟩ := mirrors.held output listed
    refine ⟨cell, found, ?_⟩
    rcases pins.pin_driveInput pin output.pin high with ⟨moved, same, _⟩ | ⟨_, kept⟩
    · obtain ⟨pull, sense, input⟩ := moved
      obtain ⟨readback, simulated, _⟩ := holds.role
      rw [← same, simulated] at input
      cases input
    · rw [kept]
      exact holds

/-- What the world applies to a pad reaches neither its role nor its output driver. -/
theorem applyExternal (mirrors : Mirrors pins chip) (pin : Pin) (external : Option Bool) :
    Mirrors pins (chip.applyExternal pin external) := by
  rw [ChipPins.applyExternal]
  constructor
  · intro input listed
    obtain ⟨cell, found, hears⟩ := mirrors.heard input listed
    rw [ChipPins.get?_modify, found]
    split
    · exact ⟨_, rfl, hears⟩
    · exact ⟨cell, rfl, hears⟩
  · intro output listed
    obtain ⟨cell, found, holds⟩ := mirrors.held output listed
    rw [ChipPins.get?_modify, found]
    split
    · exact ⟨_, rfl, holds.role, holds.driving, holds.latch⟩
    · exact ⟨cell, rfl, holds⟩

end Mirrors

/-- Boot brings the chip and the simulation together, whatever state they were in. -/
theorem mirrors_booted {pins simulated : SimulatedPins} {chip board : ChipPins}
    (settled : Booted pins simulated) (boardSettled : BootedBoard chip board) :
    Mirrors simulated board := by
  constructor
  · intro input listed
    obtain ⟨cell, found⟩ := chip.exists_cell (input_wired listed)
    have taken := boardSettled.configured input listed
    rw [found] at taken
    rw [settled.configured input listed]
    exact ⟨_, taken, cell.hearsAs_becomeInput _ _ _⟩
  · intro output listed
    obtain ⟨cell, found⟩ := chip.exists_cell (output_wired listed)
    have pushPull : ∀ output ∈ outputs, output.wiring = .pushPull := by decide
    have taken := boardSettled.driven output listed
    rw [found, pushPull output listed] at taken
    rw [settled.driven output listed, pushPull output listed]
    exact ⟨_, taken, cell.holdsAs_becomeOutput _ _ _⟩

/-- A call on the device: from the bus, from its clock, or from an interrupt. -/
inductive DeviceCall where
  | bus (request : BusRequest)
  | tick (elapsed : Nat)
  | takeEvents
  | portInterrupt (port : Port) (line : InterruptLine)
  | analogFrame (frame : Vector Binary32 6)

namespace DeviceCall

/-- The call is a read that samples the pin. -/
def Samples (layout : Layout) (call : DeviceCall) (pin : Pin) : Prop :=
  ∃ address, call = .bus (.read address) ∧ layout.Samples address pin

variable {β γ : Type} [PinDriver β] [PinDriver γ]

def answer (controller : Controller β) : DeviceCall → Answer
  | .bus request => controller.reply request
  | .takeEvents => .events controller.takeEvents.1
  | .tick _ | .portInterrupt _ _ | .analogFrame _ => .none

def after (controller : Controller β) : DeviceCall → Controller β
  | .bus request => controller.serve request
  | .tick elapsed => controller.tick elapsed
  | .takeEvents => controller.takeEvents.2
  | .portInterrupt port line => interrupt controller port line
  | .analogFrame frame => NosePoke.analogFrame controller frame

theorem layout_after (call : DeviceCall) (controller : Controller β) :
    (call.after controller).layout = controller.layout := by
  cases call with
  | bus request => exact controller.layout_step request.operation
  | tick | takeEvents | portInterrupt | analogFrame => rfl

theorem after_withPins (call : DeviceCall) (controller : Controller β) (others : γ)
    (levels : ∀ pin, call.Samples controller.layout pin →
      PinDriver.read others pin = PinDriver.read controller.pins pin) :
    call.answer (controller.withPins others) = call.answer controller ∧
      Controller.MovesWith controller (call.after controller) others
        (call.after (controller.withPins others)) := by
  obtain ⟨layout, store, pins, signals, pulses⟩ := controller
  cases call with
  | bus request =>
      cases request with
      | read address =>
          have reads := Controller.read_withPins store pins others signals pulses
            (fun pin sampled => levels pin ⟨address, rfl, sampled⟩)
          exact ⟨congrArg Answer.read reads.1, reads.2⟩
      | write address payload =>
          have writes := Controller.write_withPins store pins others signals pulses
            address payload
          exact ⟨congrArg Answer.written writes.1, writes.2⟩
  | tick elapsed =>
      exact ⟨rfl, Controller.tick_withPins store pins others signals pulses elapsed⟩
  | takeEvents | portInterrupt | analogFrame => exact ⟨rfl, [], rfl, rfl⟩

end DeviceCall

/-- A device over the simulation beside one over the chip. -/
structure Twins where
  simulated : Controller SimulatedPins
  board : Controller ChipPins

/-- A call on both devices, or a change that the world makes to the inputs of one. -/
inductive TwinStep where
  | call (call : DeviceCall)
  | driveInput (pin : Pin) (high : Bool)
  | applyExternal (pin : Pin) (external : Option Bool)

namespace Twins

def step (twins : Twins) : TwinStep → Twins
  | .call call => ⟨call.after twins.simulated, call.after twins.board⟩
  | .driveInput pin high =>
    { twins with simulated :=
      { twins.simulated with pins := (twins.simulated.pins.driveInput pin high).2 } }
  | .applyExternal pin external =>
    { twins with board :=
      { twins.board with pins := twins.board.pins.applyExternal pin external } }

def run (twins : Twins) (steps : List TwinStep) : Twins := steps.foldl step twins

/-- What the calls of a run are answered, by the simulation and by the board. -/
def answers (twins : Twins) : List TwinStep → List (Answer × Answer)
  | [] => []
  | .call call :: rest =>
    (call.answer twins.simulated, call.answer twins.board) ::
      (twins.step (.call call)).answers rest
  | step :: rest => (twins.step step).answers rest

/-- The pad of a pin has the level of the simulated pin. -/
def Level (twins : Twins) (pin : Pin) : Prop :=
  ∃ cell, twins.board.pins.get? pin = some cell ∧
    cell.pad.level = (twins.simulated.pins.pin pin).level

/-- Whenever a call of the run samples a pin, its level is the same on both. -/
def SampledAlike (twins : Twins) : List TwinStep → Prop
  | [] => True
  | step :: rest =>
    (∀ call pin, step = .call call → call.Samples layout pin → twins.Level pin) ∧
      (twins.step step).SampledAlike rest

/-- The devices hold the same data, and every output of the board drives its pad to the
level of the simulated output. -/
structure Agree (twins : Twins) : Prop where
  layout : twins.board.layout = twins.simulated.layout
  store : twins.board.store.bytes = twins.simulated.store.bytes
  signals : twins.board.signals = twins.simulated.signals
  pulses : twins.board.pulses = twins.simulated.pulses
  outputs : ∀ output ∈ outputs, ∃ cell, twins.board.pins.get? output.pin = some cell ∧
    cell.pad.driving = true ∧
      cell.pad.latch = (twins.simulated.pins.pin output.pin).level

/-- The devices are one controller over pins that mirror each other. -/
structure Tied (twins : Twins) : Prop where
  layout : twins.simulated.layout = layout
  pins : ∃ chip, twins.board = twins.simulated.withPins chip ∧
    Mirrors twins.simulated.pins chip

variable {twins : Twins}

theorem Tied.agree (tied : twins.Tied) : twins.Agree := by
  obtain ⟨simulated, board⟩ := twins
  obtain ⟨chip, same, mirrors⟩ := tied.pins
  change board = simulated.withPins chip at same
  subst same
  refine ⟨rfl, rfl, rfl, rfl, ?_⟩
  intro output listed
  obtain ⟨cell, found, holds⟩ := mirrors.held output listed
  exact ⟨cell, found, holds.driving, holds.latch⟩

theorem mem_shownInputs {call : DeviceCall} {pin : Pin}
    (sampled : call.Samples NosePoke.layout pin) : pin ∈ shownInputs := by
  have shown : ∀ index : Fin NosePoke.layout.size,
      ∀ pin ∈ (NosePoke.layout.register index).behaviour.pinsSampled,
        pin ∈ shownInputs := by
    decide
  obtain ⟨address, _, index, _, member⟩ := sampled
  exact shown index pin member

theorem exists_input {pin : Pin} (shown : pin ∈ shownInputs) :
    ∃ input ∈ inputs, input.pin = pin := by
  have all : ∀ pin ∈ shownInputs, ∃ input ∈ inputs, input.pin = pin := by decide
  exact all pin shown

/-- A step keeps the devices tied, and a call is answered alike by both. -/
theorem Tied.step (tied : twins.Tied) {step : TwinStep}
    (levels : ∀ call pin, step = .call call → call.Samples NosePoke.layout pin →
      twins.Level pin) :
    (twins.step step).Tied ∧
      ∀ call, step = .call call → call.answer twins.board = call.answer twins.simulated := by
  obtain ⟨simulated, board⟩ := twins
  obtain ⟨sameLayout, chip, same, mirrors⟩ := tied
  change board = simulated.withPins chip at same
  change simulated.layout = NosePoke.layout at sameLayout
  subst same
  cases step with
  | call call =>
      have read : ∀ pin, call.Samples simulated.layout pin →
          PinDriver.read chip pin = PinDriver.read simulated.pins pin := by
        intro pin sampled
        rw [sameLayout] at sampled
        obtain ⟨cell, found, level⟩ := levels call pin rfl sampled
        obtain ⟨input, listed, rfl⟩ := exists_input (mem_shownInputs sampled)
        exact mirrors.read_eq listed found level
      obtain ⟨answered, commands, moved, otherMoved⟩ :=
        call.after_withPins simulated chip read
      refine ⟨⟨(call.layout_after simulated).trans sameLayout, _, otherMoved, ?_⟩, ?_⟩
      · rw [Twins.step, moved]
        exact mirrors.driveEach commands
      · intro other same
        cases same
        exact answered
  | driveInput pin high =>
      refine ⟨⟨sameLayout, chip, rfl, mirrors.driveInput pin high⟩, nofun⟩
  | applyExternal pin external =>
      refine ⟨⟨sameLayout, _, rfl, mirrors.applyExternal pin external⟩, nofun⟩

theorem Tied.run (tied : twins.Tied) {steps : List TwinStep}
    (levels : twins.SampledAlike steps) :
    (∀ pair ∈ twins.answers steps, pair.2 = pair.1) ∧ (twins.run steps).Tied := by
  induction steps generalizing twins with
  | nil => exact ⟨List.forall_mem_nil _, tied⟩
  | cons step rest induction =>
      obtain ⟨next, answered⟩ := tied.step levels.1
      obtain ⟨later, last⟩ := induction next levels.2
      refine ⟨?_, last⟩
      cases step with
      | call call =>
          rw [answers, List.forall_mem_cons]
          exact ⟨answered call rfl, later⟩
      | driveInput | applyExternal => exact later

theorem sampledAlike_append {front back : List TwinStep}
    (levels : twins.SampledAlike (front ++ back)) : twins.SampledAlike front := by
  induction front generalizing twins with
  | nil => trivial
  | cons step rest induction => exact ⟨levels.1, induction levels.2⟩

end Twins

/-- The device behaves the same over the chip and over the simulation, from any state of
both.  Boot is accepted by both, and then, however the world moves the inputs of each,
any calls are answered alike as long as the levels of the sampled pins agree when they
are sampled; after every step both hold the same store, signals and pulses, and the board
drives each of its outputs to the level of the simulated one. -/
theorem board_follows_simulation (pins : SimulatedPins) (chip : ChipPins)
    (signals boardSignals : Signals) :
    ∃ simulated board, boot pins signals = (.ok simulated, .clear) ∧
      boot chip boardSignals = (.ok board, .clear) ∧
        ∀ steps, (Twins.mk simulated board).SampledAlike steps →
          (∀ pair ∈ (Twins.mk simulated board).answers steps, pair.2 = pair.1) ∧
            ∀ before after, steps = before ++ after →
              ((Twins.mk simulated board).run before).Agree := by
  obtain ⟨simulated, boots, settled⟩ := boot_simulated pins
  obtain ⟨board, boardBoots, boardSettled⟩ := boot_board chip
  have tied : (Twins.mk (booted simulated) (booted board)).Tied :=
    ⟨rfl, board, rfl, mirrors_booted settled boardSettled⟩
  refine ⟨booted simulated, booted board, boots signals, boardBoots boardSignals, ?_⟩
  intro steps levels
  refine ⟨(tied.run levels).1, ?_⟩
  intro before after split
  rw [split] at levels
  exact (tied.run (Twins.sampledAlike_append levels)).2.agree

/-- Out of reset, with nothing applied from outside, the pulls settle every input of the
board at the level of the simulated one. -/
theorem level_out_of_reset {simulated : SimulatedPins} {board : ChipPins}
    (settled : Booted .fresh simulated) (boardSettled : BootedBoard .reset board)
    {input : InputSetup} (listed : input ∈ inputs) :
    (Twins.mk (booted simulated) (booted board)).Level input.pin := by
  have low : SimulatedPins.fresh.pin input.pin = {} := by
    rw [SimulatedPins.pin, SimulatedPins.fresh, PinTable.get?_filled]
    split <;> rfl
  have taken := boardSettled.configured input listed
  rw [ChipPins.get?_reset (input_wired listed)] at taken
  refine ⟨_, taken, ?_⟩
  change _ = (simulated.pin input.pin).level
  rw [settled.configured input listed, low]
  cases input.pull <;> rfl

/-- Out of reset the board answers a read of the digital inputs like the simulation, and
then drives the outputs that a write makes active. -/
theorem board_follows_simulation_reset :
    ∃ simulated board, boot SimulatedPins.fresh .clear = (.ok simulated, .clear) ∧
      boot ChipPins.reset .clear = (.ok board, .clear) ∧
        (board.read 32).1 = (simulated.read 32).1 ∧
          ((Twins.mk simulated board).run
            [.call (.bus (.read 32)), .call (.bus (.write 41 [5]))]).Agree := by
  obtain ⟨simulated, boots, settled⟩ := boot_simulated .fresh
  obtain ⟨board, boardBoots, boardSettled⟩ := boot_board .reset
  obtain ⟨first, second, firstBoots, secondBoots, follows⟩ :=
    board_follows_simulation .fresh .reset .clear .clear
  obtain rfl : booted simulated = first := by
    rw [boots] at firstBoots
    cases firstBoots
    rfl
  obtain rfl : booted board = second := by
    rw [boardBoots] at secondBoots
    cases secondBoots
    rfl
  have sampledAlike : (Twins.mk (booted simulated) (booted board)).SampledAlike
      [.call (.bus (.read 32)), .call (.bus (.write 41 [5]))] := by
    refine ⟨?_, ?_, trivial⟩
    · intro call pin _ sampled
      obtain ⟨input, listed, rfl⟩ := Twins.exists_input (Twins.mem_shownInputs sampled)
      exact level_out_of_reset settled boardSettled listed
    · intro call pin same sampled
      obtain ⟨address, reads, _⟩ := sampled
      cases same
      cases reads
  obtain ⟨answered, agree⟩ := follows _ sampledAlike
  have first := answered _ (List.mem_cons_self ..)
  injection first with sameAnswer
  exact ⟨_, _, firstBoots, secondBoots, sameAnswer, agree _ [] (List.append_nil _).symm⟩

end NosePoke

end Instrument

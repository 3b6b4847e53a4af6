import Instrument.Proofs.BeamCounts
import Instrument.Proofs.LoadedContents
import Instrument.Proofs.PinCommands
import Instrument.Proofs.SimulatedSetUp

/-!
# Booting again

Boot brings the pins it lists, the interrupt lines that report them, the signals and the store
into one state, whatever they were before.  The level of a floating input, the pins it does not
list and all other lines stay as they are.  So a controller that has run for any time is booted
over the pins it leaves as it was the first time.
-/

namespace Instrument

/-- The level of an input that was at the given one, once its pull has settled it. -/
def Pull.settle (pull : Pull) (level : Bool) : Bool :=
  match pull with
  | .up => true
  | .down => false
  | .floating | .keeper => level

theorem Identity.length_toBytes (identity : Identity) : identity.toBytes.length = 7 := rfl

theorem Identity.registerBytes_eq (identity : Identity) :
    identity.registerBytes = identity.toBytes ++ Bytes.zeros 25 := by
  have fits : identity.toBytes.length ≤ (Bytes.zeros registerSize).length := by
    rw [identity.length_toBytes]
    decide
  exact Bytes.overwrite_start fits

namespace NosePoke

/-- The one input that the shared line of a port reports. -/
def reportedPin? : Port → Option Pin
  | .d => some beam0
  | .e => some beam1
  | .f => some beam2
  | .h => some generalInput
  | .a | .b | .c | .j | .k | .q | .r => none

theorem shown_of_reported {port : Port} {pin : Pin} (reported : reportedPin? port = some pin) :
    pin ∈ shownInputs ∧ pin.port = port := by
  cases port with
  | d | e | f | h =>
      cases reported
      decide
  | a | b | c | j | k | q | r => cases reported

theorem reported_of_feeds {input : InputSetup} (listed : input ∈ inputs) {port : Port}
    {line : InterruptLine} (feeds : input.feeds port line = true) :
    line = inputLine ∧ reportedPin? port = some input.pin := by
  have all : ∀ input ∈ inputs, ∀ interrupt, input.interrupt = some interrupt →
      interrupt.line = inputLine ∧ reportedPin? input.pin.port = some input.pin := by
    decide
  obtain ⟨rfl, interrupt, present, rfl⟩ := InputSetup.feeds_iff.mp feeds
  exact all input listed interrupt present

/-- The shared line is armed at low priority and not inverted, and of the pins of its port it
watches one alone. -/
def ReportsAlone (lines : PortInterrupts) (pin : Pin) : Prop :=
  ∃ armed, lines.get inputLine = some armed ∧ armed.priority = .low ∧ armed.inverted = false ∧
    ∀ other : Pin, other.isReal = true → other.port = pin.port →
      (armed.watches other = true ↔ other = pin)

theorem Listening.reportsAlone {pins : SimulatedPins} (listening : Listening pins) {port : Port}
    {pin : Pin} (reported : reportedPin? port = some pin) :
    ReportsAlone (pins.interrupts.get port) pin := by
  obtain ⟨isShown, rfl⟩ := shown_of_reported reported
  refine ⟨_, listening.armed pin isShown, rfl, rfl, ?_⟩
  intro other otherReal samePort
  exact ArmedInterrupt.watches_mask_iff_eq (by decide) (isReal_of_shown isShown) otherReal samePort

/-- What boot loads into the store. -/
def bootContents : List (UInt8 × Bytes) :=
  [(versionAddress, identity.registerBytes), (complexConfigurationAddress, bootConfiguration)]

/-- The bytes of a register after boot: the version starts with the identity, the complex
configuration with the selection of the first pulse-width port, and all else is zero. -/
def bootBytes (index : Fin layout.size) : Bytes :=
  if layout.addressOf index = versionAddress then
    identity.toBytes ++ Bytes.zeros ((layout.register index).size - 7)
  else if layout.addressOf index = complexConfigurationAddress then
    1 :: Bytes.zeros ((layout.register index).size - 1)
  else Bytes.zeros (layout.register index).size

theorem remembered_bootContents (index : Fin layout.size) :
    Controller.remembered layout index bootContents = bootBytes index := by
  rw [bootBytes]
  by_cases version : layout.addressOf index = versionAddress
  · have same : index = ⟨3, by decide⟩ := layout.addressOf_injective version
    rw [if_pos version]
    subst same
    exact identity.registerBytes_eq
  · rw [if_neg version]
    by_cases configuration : layout.addressOf index = complexConfigurationAddress
    · have same : index = ⟨2, by decide⟩ := layout.addressOf_injective configuration
      rw [if_pos configuration]
      subst same
      rfl
    · have absent : lastFor (layout.addressOf index) bootContents = none := by
        apply lastFor_eq_none
        simp only [bootContents, List.forall_mem_cons]
        exact ⟨Ne.symm version, Ne.symm configuration, List.forall_mem_nil _⟩
      rw [if_neg configuration, Controller.remembered, absent, Option.getD_none]

/-- What boot makes of a controller, over pins that were in some state before. -/
structure FreshlyBooted (before : SimulatedPins) (device : Controller SimulatedPins) : Prop where
  driven : ∀ output ∈ outputs,
    (device.pins.pin output.pin).role = .output .pushPull output.readback ∧
      (device.pins.pin output.pin).level = false
  configured : ∀ input ∈ inputs,
    (device.pins.pin input.pin).role = .input input.pull input.sense ∧
      (device.pins.pin input.pin).level = input.pull.settle (before.pin input.pin).level
  reported : ∀ port pin, reportedPin? port = some pin →
    ReportsAlone (device.pins.interrupts.get port) pin
  otherPins : ∀ pin, pin ∉ inputs.map (·.pin) → pin ∉ outputs.map (·.pin) →
    device.pins.pin pin = before.pin pin
  otherLines : ∀ port line, (line = inputLine → reportedPin? port = none) →
    (device.pins.interrupts.get port).get line = (before.interrupts.get port).get line
  counts : ∀ counter, device.signals.count counter = 0
  flags : device.signals.flags = 0
  latched : device.signals.latched.bytes = Bytes.zeros Signals.latchSize
  pulses : device.pulses = .none
  layout_eq : device.layout = layout
  bytes_eq : device.store.bytes = (List.finRange layout.size).flatMap bootBytes
  shown : ∀ index, device.readSpan (layout.start index) (layout.register index).size =
    some (bootBytes index)

theorem startsWith_booted {β : Type} (pins : β) :
    (booted pins).StartsWith layout pins .clear bootContents := by
  have started : Controller.start layout storeSize pins .clear bootContents =
      .ok (booted pins) := rfl
  exact (Controller.startsWith_of_ok pins .clear started).2.2

theorem setUp_simulated (pins : SimulatedPins) : setUp pins = .accepted (setUp pins).2 := by
  have real : ∀ pin ∈ inputs.map (·.pin) ++ outputs.map (·.pin), pin.isReal = true := by decide
  apply Prod.ext
  · exact (SimulatedPins.setUpPins_ends pins inputs outputs).answer.trans
      (answerFor_eq_ok_iff.mpr real)
  · rfl

/-- Boot is accepted over all simulated pins, and its tables alone say what it leaves. -/
theorem exists_booted (pins : SimulatedPins) :
    ∃ after, (∀ signals, boot pins signals = (.ok (booted after), .clear)) ∧
      Booted pins after ∧ SimulatedPins.SetUpLeaves pins after inputs outputs := by
  obtain ⟨after, boots, settled⟩ := boot_simulated pins
  have accepted := setUp_simulated pins
  have same : after = (setUp pins).2 := by
    have both := (boots .clear).symm.trans (boot_eq accepted .clear)
    exact congrArg Controller.pins (Except.ok.inj (Prod.mk.inj both).1)
  refine ⟨after, boots, settled, ?_⟩
  rw [same]
  exact SimulatedPins.setUpPins_leaves accepted

theorem freshlyBooted {before after : SimulatedPins} (settled : Booted before after)
    (leaves : SimulatedPins.SetUpLeaves before after inputs outputs) :
    FreshlyBooted before (booted after) where
  driven := by
    have plain : ∀ output ∈ outputs, output.wiring = .pushPull ∧
        output.line.level output.initiallyActive = false := by decide
    intro output listed
    obtain ⟨wiring, inactive⟩ := plain output listed
    have cell : after.pin output.pin = output.change (before.pin output.pin) :=
      settled.driven output listed
    rw [booted, cell, output.role_change, output.level_change, wiring, inactive]
    exact ⟨rfl, rfl⟩
  configured := by
    intro input listed
    have cell : after.pin input.pin = input.change (before.pin input.pin) :=
      settled.configured input listed
    rw [booted, cell, input.role_change, input.level_change]
    exact ⟨rfl, rfl⟩
  reported := by
    intro port pin reported
    exact (listening_booted settled).reportsAlone reported
  otherPins := leaves.others
  otherLines := by
    intro port line unreported
    apply leaves.unarmed
    intro input listed feeds
    obtain ⟨shared, reported⟩ := reported_of_feeds listed feeds
    rw [unreported shared] at reported
    cases reported
  counts := by
    intro counter
    exact Signals.count_clear counter
  flags := rfl
  latched := rfl
  pulses := rfl
  layout_eq := rfl
  bytes_eq := by
    rw [(startsWith_booted after).bytes_eq, funext remembered_bootContents]
  shown := by
    intro index
    rw [← remembered_bootContents]
    exact (startsWith_booted after).shown index

/-- The same listed pins in the same roles, the same levels of the outputs, and the same
interrupts on the shared lines that report inputs. -/
structure SetUpAlike (first second : SimulatedPins) : Prop where
  roles : ∀ pin ∈ inputs.map (·.pin) ++ outputs.map (·.pin),
    (second.pin pin).role = (first.pin pin).role
  levels : ∀ output ∈ outputs, (second.pin output.pin).level = (first.pin output.pin).level
  lines : ∀ port, (reportedPin? port).isSome = true →
    (second.interrupts.get port).get inputLine = (first.interrupts.get port).get inputLine

theorem setUpAlike {before after otherBefore otherAfter : SimulatedPins}
    (settled : Booted before after) (otherSettled : Booted otherBefore otherAfter) :
    SetUpAlike after otherAfter := by
  constructor
  · intro pin listed
    rcases List.mem_append.mp listed with isInput | isOutput
    · obtain ⟨input, member, rfl⟩ := List.mem_map.mp isInput
      rw [settled.configured input member, otherSettled.configured input member,
        SimulatedPin.role_becomeInput, SimulatedPin.role_becomeInput]
    · obtain ⟨output, member, rfl⟩ := List.mem_map.mp isOutput
      rw [settled.driven output member, otherSettled.driven output member,
        SimulatedPin.role_drive, SimulatedPin.role_drive]
      rfl
  · intro output member
    rw [settled.driven output member, otherSettled.driven output member]
    exact (output.level_change _).trans (output.level_change _).symm
  · intro port reports
    obtain ⟨pin, reported⟩ := Option.isSome_iff_exists.mp reports
    obtain ⟨isShown, rfl⟩ := shown_of_reported reported
    exact ((listening_booted otherSettled).armed pin isShown).trans
      ((listening_booted settled).armed pin isShown).symm

/-- Boot leaves one state whatever came before.  Over any pins and signals it succeeds, and what
it leaves depends on them only in floating inputs and in what its tables do not list.  Booted
again, over the pins that any run of it has left, the controller is the same but for those: if
nothing but the controller reconfigures pins, every pin is in the role it was booted into. -/
theorem boot_forgets (pins : SimulatedPins) (signals : Signals) :
    ∃ device, boot pins signals = (.ok device, .clear) ∧ FreshlyBooted pins device ∧
      ∀ operations left, ∃ again,
        boot (device.run operations).pins left = (.ok again, .clear) ∧
          FreshlyBooted (device.run operations).pins again ∧
          again = { device with pins := again.pins } ∧
          SetUpAlike device.pins again.pins ∧
          ((∀ operation ∈ operations, operation.KeepsRoles) →
            ∀ pin, (again.pins.pin pin).role = (device.pins.pin pin).role) := by
  obtain ⟨after, boots, settled, leaves⟩ := exists_booted pins
  refine ⟨booted after, boots signals, freshlyBooted settled leaves, ?_⟩
  intro operations left
  obtain ⟨afterwards, bootsAgain, settledAgain, leavesAgain⟩ :=
    exists_booted ((booted after).run operations).pins
  have alike : SetUpAlike after afterwards := setUpAlike settled settledAgain
  have fresh := freshlyBooted settledAgain leavesAgain
  refine ⟨booted afterwards, bootsAgain left, fresh, rfl, alike, ?_⟩
  intro keep pin
  by_cases listed : pin ∈ inputs.map (·.pin) ++ outputs.map (·.pin)
  · exact alike.roles pin listed
  · rw [List.mem_append, not_or] at listed
    have untouched := leavesAgain.others pin listed.1 listed.2
    have kept : (afterwards.pin pin).role =
        (((booted after).run operations).pins.pin pin).role := congrArg _ untouched
    apply kept.trans
    exact (booted after).role_run_of_keepsRoles keep pin

/-- An open valve, and a beam that was made an output from outside, are back after a boot. -/
example :
    let used := (booted (setUp SimulatedPins.fresh).2).run [.write 42 [5, 0], .tick 2,
      .pins fun pins => (PinDriver.configureOutput pins beam0 .wiredOr .disabled).2]
    (used.pins.pin valve0).level = true ∧
      (boot used.pins used.signals).1.toOption.map (fun again =>
          ((again.pins.pin valve0).level, (again.pins.pin beam0).role)) =
        some (false, .input .up .bothEdges) := by
  exact ⟨rfl, rfl⟩

end NosePoke

end Instrument

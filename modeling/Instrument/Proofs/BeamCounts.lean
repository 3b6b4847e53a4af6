import Instrument.Proofs.BootedPins
import Instrument.Proofs.FiredInterrupts
import Instrument.Proofs.IndependentRequests
import Instrument.Proofs.ReportedEvents

/-!
# Edges on the beams

After boot the shared interrupt line of a port watches one input alone, and that input
senses both edges.  An input that is moved therefore runs the interrupt routine exactly
if it is one of the four shown inputs and its level changes; whatever the pins were
before boot, nothing else reaches the signals.  Along a run the first beam is counted
edge by edge, and the digital inputs are flagged by the edges since they were last
reported.
-/

namespace Instrument

theorem ArmedInterrupt.watches_mask_iff {priority : Priority} (enabled : priority ≠ .off)
    (pin other : Pin) (inverted : Bool) :
    (ArmedInterrupt.mk priority pin.mask inverted).watches other = true ↔
      pin.bit % Port.pinCount = other.bit % Port.pinCount := by
  have bound : pin.bit % Port.pinCount < 8 := Nat.mod_lt _ (by decide)
  rw [watches, Bool.and_eq_true, bne_iff_ne, bne_iff_ne, Pin.and_mask_ne_zero_iff, Pin.mask,
    BitVec.getLsbD_twoPow, Bool.and_eq_true, decide_eq_true_eq, decide_eq_true_eq]
  constructor
  · intro watched
    exact watched.2.2
  · intro same
    exact ⟨enabled, bound, same⟩

theorem ArmedInterrupt.watches_mask_iff_eq {priority : Priority} (enabled : priority ≠ .off)
    {pin other : Pin} {inverted : Bool} (real : pin.isReal = true)
    (otherReal : other.isReal = true) (samePort : other.port = pin.port) :
    (ArmedInterrupt.mk priority pin.mask inverted).watches other = true ↔ other = pin := by
  rw [watches_mask_iff enabled]
  constructor
  · intro sameBit
    exact Pin.eq_of_mod_bit_eq otherReal real samePort sameBit.symm
  · rintro rfl
    rfl

theorem SimulatedPins.isInput_of_fired {pins : SimulatedPins} {pin : Pin} {high : Bool}
    {line : InterruptLine} (fired : (pins.driveInput pin high).1 = some line) :
    (pins.pin pin).IsInput := by
  rw [driveInput] at fired
  cases role : (pins.pin pin).role with
  | input pull sense => exact ⟨pull, sense, role⟩
  | unconfigured | output =>
      rw [role] at fired
      cases fired

theorem PortInterrupts.sensed?_eq_int0_iff (lines : PortInterrupts) (pin : Pin) (sense : Sense)
    (was now : Bool) :
    lines.sensed? pin sense was now = some .int0 ↔
      ∃ armed, lines.int0 = some armed ∧ armed.watches pin = true ∧
        (sense.trigger armed.inverted).isMet was now = true := by
  rw [sensed?_eq]
  cases lines.int0 with
  | none =>
      constructor
      · intro fired
        simp at fired
      · intro watched
        obtain ⟨armed, present, _⟩ := watched
        cases present
  | some armed =>
      cases watches : armed.watches pin <;>
        cases met : (sense.trigger armed.inverted).isMet was now <;>
          simp [Option.filter, watches, met]

namespace NosePoke

theorem isReal_of_shown {pin : Pin} (isShown : pin ∈ shownInputs) : pin.isReal = true := by
  have all : ∀ pin ∈ shownInputs, pin.isReal = true := by decide
  exact all pin isShown

/-- The four shown inputs sense both edges, and the shared line of the port of each
watches that input alone. -/
structure Listening (pins : SimulatedPins) : Prop where
  roles : ∀ pin ∈ shownInputs, ∃ pull, (pins.pin pin).role = .input pull .bothEdges
  armed : ∀ pin ∈ shownInputs,
    (pins.interrupts.get pin.port).int0 = some ⟨.low, pin.mask, false⟩

theorem listening_booted {pins after : SimulatedPins} (settled : Booted pins after) :
    Listening after := by
  constructor
  · intro pin shown
    have listed : ∀ pin ∈ shownInputs, ∃ input ∈ inputs,
        input.pin = pin ∧ input.sense = .bothEdges := by decide
    obtain ⟨input, member, rfl, senses⟩ := listed pin shown
    refine ⟨input.pull, ?_⟩
    rw [settled.configured input member, senses, SimulatedPin.role_becomeInput]
  · rw [settled.interrupts]
    generalize pins.interrupts = table
    have armed : armEach inputs table inputs =
        (((table.arm .d .int0 ⟨.low, beam0.mask, false⟩).arm .e .int0
          ⟨.low, beam1.mask, false⟩).arm .f .int0 ⟨.low, beam2.mask, false⟩).arm .h .int0
            ⟨.low, generalInput.mask, false⟩ := rfl
    rw [armed]
    simp [shownInputs, InterruptTable.get_arm, PortInterrupts.arm, beam0, beam1, beam2,
      generalInput]

/-- Of the pins on the port of a shown input, moving that input alone sets off the
shared line, and only by changing its level. -/
theorem Listening.fst_driveInput_iff {pins : SimulatedPins} (listening : Listening pins)
    {shown : Pin} (isShown : shown ∈ shownInputs) {pin : Pin}
    (samePort : pin.port = shown.port) (high : Bool) :
    (pins.driveInput pin high).1 = some inputLine ↔
      pin = shown ∧ (pins.pin pin).level ≠ high := by
  obtain ⟨pull, role⟩ := listening.roles shown isShown
  constructor
  · intro fired
    obtain ⟨otherPull, sense, input⟩ := SimulatedPins.isInput_of_fired fired
    have pinReal : pin.isReal = true :=
      SimulatedPins.isReal_of_role (by rw [input]; exact nofun)
    rw [SimulatedPins.fst_driveInput input, inputLine, PortInterrupts.sensed?_eq_int0_iff,
      samePort] at fired
    obtain ⟨armed, present, watches, met⟩ := fired
    rw [listening.armed shown isShown] at present
    cases present
    obtain rfl := (ArmedInterrupt.watches_mask_iff_eq (by decide) (isReal_of_shown isShown)
      pinReal samePort).mp watches
    rw [role] at input
    cases input
    exact ⟨rfl, bne_iff_ne.mp met⟩
  · intro moved
    obtain ⟨rfl, changes⟩ := moved
    rw [SimulatedPins.fst_driveInput role, inputLine, PortInterrupts.sensed?_eq_int0_iff]
    exact ⟨_, listening.armed pin isShown,
      (ArmedInterrupt.watches_mask_iff (by decide) pin pin false).mpr rfl,
      bne_iff_ne.mpr changes⟩

theorem onPortInterrupt_of_line_ne (signals : Signals) (port : Port) {line : InterruptLine}
    (other : line ≠ inputLine) : onPortInterrupt signals port line = signals :=
  if_neg other

theorem onPortInterrupt_of_port_ne (signals : Signals) {port : Port}
    (other : ∀ shown ∈ shownInputs, port ≠ shown.port) (line : InterruptLine) :
    onPortInterrupt signals port line = signals := by
  simp only [shownInputs, List.forall_mem_cons] at other
  obtain ⟨notFirst, notSecond, notThird, notFourth, _⟩ := other
  cases port with
  | d => exact absurd rfl notFirst
  | e => exact absurd rfl notSecond
  | f => exact absurd rfl notThird
  | h => exact absurd rfl notFourth
  | a | b | c | j | k | q | r => exact ite_self signals

theorem inputEdge_eq (controller : Controller SimulatedPins) (pin : Pin) (high : Bool) :
    (inputEdge controller pin high).2.pins = (controller.pins.driveInput pin high).2 ∧
      (inputEdge controller pin high).2.signals =
        match (controller.pins.driveInput pin high).1 with
        | some line => onPortInterrupt controller.signals pin.port line
        | none => controller.signals := by
  simp only [inputEdge, Stimulated.driveInput]
  generalize controller.pins.driveInput pin high = outcome
  obtain ⟨fired, pins⟩ := outcome
  cases fired <;> exact ⟨rfl, rfl⟩

/-- A moved pin reaches the signals if it is a shown input and its level changes, and
then through the routine of its port; all other moves leave the signals alone. -/
theorem Listening.signals_inputEdge {controller : Controller SimulatedPins}
    (listening : Listening controller.pins) (pin : Pin) (high : Bool) :
    (inputEdge controller pin high).2.signals =
      if pin ∈ shownInputs ∧ (controller.pins.pin pin).level ≠ high then
        onPortInterrupt controller.signals pin.port inputLine
      else controller.signals := by
  have own : pin ∈ shownInputs → (controller.pins.pin pin).level ≠ high →
      (controller.pins.driveInput pin high).1 = some inputLine := by
    intro isShown changes
    exact (listening.fst_driveInput_iff isShown rfl high).mpr ⟨rfl, changes⟩
  rw [(inputEdge_eq controller pin high).2]
  cases fired : (controller.pins.driveInput pin high).1 with
  | none =>
      rw [if_neg]
      intro moved
      rw [own moved.1 moved.2] at fired
      cases fired
  | some line =>
      -- The second line of a port may be armed from before boot; the routine ignores it.
      by_cases onPort : ∃ shown ∈ shownInputs, pin.port = shown.port
      · obtain ⟨shown, isShown, samePort⟩ := onPort
        by_cases shared : line = inputLine
        · rw [shared] at fired
          obtain ⟨rfl, changes⟩ :=
            (listening.fst_driveInput_iff isShown samePort high).mp fired
          rw [if_pos ⟨isShown, changes⟩, shared]
        · rw [if_neg]
          · exact onPortInterrupt_of_line_ne controller.signals pin.port shared
          · intro moved
            rw [own moved.1 moved.2] at fired
            cases fired
            exact shared rfl
      · have apart : ∀ shown ∈ shownInputs, pin.port ≠ shown.port := by
          intro shown isShown samePort
          exact onPort ⟨shown, isShown, samePort⟩
        rw [if_neg]
        · exact onPortInterrupt_of_port_ne controller.signals apart line
        · intro moved
          exact apart pin moved.1 rfl

theorem count_onPortInterrupt (signals : Signals) {pin : Pin} (isShown : pin ∈ shownInputs) :
    (onPortInterrupt signals pin.port inputLine).count beamCounter =
      if pin = beam0 then signals.count beamCounter + 1 else signals.count beamCounter := by
  have present : beamCounter < Signals.counterCount := by decide
  have raised : ∀ signals : Signals, (signals.raise digitalInputsIndex).count beamCounter =
      signals.count beamCounter := by
    intro signals
    exact signals.count_apply present (.raise digitalInputsIndex)
  simp only [shownInputs, List.mem_cons, List.not_mem_nil, or_false] at isShown
  rcases isShown with rfl | rfl | rfl | rfl
  · exact (raised _).trans (signals.count_apply present (.increment beamCounter))
  · exact raised signals
  · exact raised signals
  · exact raised signals

theorem flagged_onPortInterrupt (signals : Signals) {pin : Pin}
    (isShown : pin ∈ shownInputs) :
    (onPortInterrupt signals pin.port inputLine).flags.getLsbD digitalInputsIndex = true := by
  have raised : ∀ signals : Signals,
      (signals.raise digitalInputsIndex).flags.getLsbD digitalInputsIndex = true := by
    intro signals
    rw [Signals.getLsbD_flags_raise, Bool.or_eq_true]
    exact .inr (by decide)
  simp only [shownInputs, List.mem_cons, List.not_mem_nil, or_false] at isShown
  rcases isShown with rfl | rfl | rfl | rfl
  · exact raised _
  · exact raised signals
  · exact raised signals
  · exact raised signals

/-- A step of a device on the bench: a call, or a pin moved from outside together with
the interrupt that this sets off. -/
inductive BenchStep where
  | bus (request : BusRequest)
  | tick (elapsed : Nat)
  | takeEvents
  | drive (pin : Pin) (high : Bool)

namespace BenchStep

def after (controller : Controller SimulatedPins) : BenchStep → Controller SimulatedPins
  | .bus request => controller.serve request
  | .tick elapsed => controller.tick elapsed
  | .takeEvents => controller.takeEvents.2
  | .drive pin high => (inputEdge controller pin high).2

/-- Whether the step is a drive that changes the level of a pin. -/
def flips (controller : Controller SimulatedPins) (pin : Pin) : BenchStep → Bool
  | .drive driven high =>
    ((inputEdge controller driven high).2.pins.pin pin).level !=
      (controller.pins.pin pin).level
  | .bus _ | .tick _ | .takeEvents => false

/-- What the step does to the count of the first beam: a drive that changes its level
counts, and an accepted write to the counter restarts. -/
def beamEvent? (controller : Controller SimulatedPins) : BenchStep → Option CounterEvent
  | .drive pin high =>
    if (BenchStep.drive pin high).flips controller beam0 then some .counted else none
  | .bus (.write address payload) =>
    match (controller.write address payload).1 with
    | .ok () => if address = 40 then some .restarted else none
    | .error _ => none
  | .bus (.read _) | .tick _ | .takeEvents => none

end BenchStep

def bench (controller : Controller SimulatedPins) (steps : List BenchStep) :
    Controller SimulatedPins :=
  steps.foldl BenchStep.after controller

/-- What a run on the bench does to the count of the first beam, in order. -/
def beamEvents (controller : Controller SimulatedPins) : List BenchStep → List CounterEvent
  | [] => []
  | step :: rest =>
    (step.beamEvent? controller).toList ++ beamEvents (step.after controller) rest

/-- Some drive has changed the level of a shown input, and no events were taken after
it. -/
def ChangedSince (controller : Controller SimulatedPins) (steps : List BenchStep) : Prop :=
  ∃ before step after, steps = before ++ step :: after ∧
    (∃ pin ∈ shownInputs, step.flips (bench controller before) pin = true) ∧
      .takeEvents ∉ after

theorem changedSince_cons {controller : Controller SimulatedPins} {step : BenchStep}
    {rest : List BenchStep} :
    ChangedSince controller (step :: rest) ↔
      ChangedSince (step.after controller) rest ∨
        (∃ pin ∈ shownInputs, step.flips controller pin = true) ∧ .takeEvents ∉ rest := by
  constructor
  · intro changed
    obtain ⟨before, flipping, after, split, flips, untaken⟩ := changed
    cases before with
    | nil =>
        cases split
        exact .inr ⟨flips, untaken⟩
    | cons head before =>
        cases split
        exact .inl ⟨before, flipping, after, rfl, flips, untaken⟩
  · intro either
    rcases either with ⟨before, flipping, after, rfl, flips, untaken⟩ | ⟨flips, untaken⟩
    · exact ⟨step :: before, flipping, after, rfl, flips, untaken⟩
    · exact ⟨[], step, rest, rfl, flips, untaken⟩

/-- The device has the registers of the controller and listens to its inputs. -/
structure Ready (controller : Controller SimulatedPins) : Prop where
  layout : controller.layout = layout
  listening : Listening controller.pins

theorem Listening.of_same {pins after : SimulatedPins} (listening : Listening pins)
    (roles : ∀ pin, (after.pin pin).role = (pins.pin pin).role)
    (interrupts : after.interrupts = pins.interrupts) : Listening after := by
  constructor
  · intro pin isShown
    rw [roles]
    exact listening.roles pin isShown
  · intro pin isShown
    rw [interrupts]
    exact listening.armed pin isShown

theorem Ready.after {controller : Controller SimulatedPins} (ready : Ready controller)
    (step : BenchStep) : Ready (step.after controller) := by
  cases step with
  | bus request =>
      have frame := controller.serve_frame request
      exact ⟨frame.layout.trans ready.layout,
        ready.listening.of_same frame.roles frame.interrupts⟩
  | tick elapsed =>
      have frame := controller.tick_frame elapsed
      exact ⟨frame.layout.trans ready.layout,
        ready.listening.of_same frame.roles frame.interrupts⟩
  | takeEvents => exact ⟨ready.layout, ready.listening⟩
  | drive pin high =>
      constructor
      · simp only [BenchStep.after, inputEdge]
        split <;> exact ready.layout
      · rw [BenchStep.after, (inputEdge_eq controller pin high).1]
        exact ready.listening.of_same (controller.pins.role_pin_driveInput pin · high)
          (controller.pins.interrupts_driveInput pin high)

theorem flips_drive_iff {controller : Controller SimulatedPins}
    (listening : Listening controller.pins) {pin : Pin} (isShown : pin ∈ shownInputs)
    (driven : Pin) (high : Bool) :
    (BenchStep.drive driven high).flips controller pin = true ↔
      driven = pin ∧ (controller.pins.pin pin).level ≠ high := by
  rw [BenchStep.flips, (inputEdge_eq controller driven high).1, bne_iff_ne]
  rcases controller.pins.pin_driveInput driven pin high with
    ⟨_, same, moved⟩ | ⟨other, kept⟩
  · rw [moved, SimulatedPin.level_moveTo, same]
    exact ⟨fun changes => ⟨rfl, changes.symm⟩, fun both => both.2.symm⟩
  · rw [kept]
    constructor
    · intro changes
      exact absurd rfl changes
    · intro both
      obtain ⟨rfl, _⟩ := both
      obtain ⟨pull, role⟩ := listening.roles driven isShown
      exact absurd ⟨⟨pull, .bothEdges, role⟩, rfl⟩ other

theorem showsAt_beamCounter (address : UInt8) :
    layout.showsAt beamCounter address = true ↔ address = 40 := by
  simp only [Layout.showsAt, layout, registers, Behaviour.shows, List.any_cons, List.any_nil,
    Bool.and_false, Bool.false_or, Bool.or_false, Bool.and_true, beq_self_eq_true, beq_iff_eq]
  exact eq_comm

namespace Ready

variable {controller : Controller SimulatedPins}

theorem count_after (ready : Ready controller) (step : BenchStep) :
    (step.after controller).signals.count beamCounter =
      counterAfter (controller.signals.count beamCounter) (step.beamEvent? controller) := by
  have present : beamCounter < Signals.counterCount := by decide
  cases step with
  | bus request =>
      cases request with
      | read address =>
          have frame := controller.read_frame address
          exact congrArg (·.count beamCounter) frame.signals
      | write address payload =>
          have counted := controller.count_write present address payload
          have event : controller.counterEvent? beamCounter (.write address payload) =
              (BenchStep.bus (.write address payload)).beamEvent? controller := by
            simp only [Controller.counterEvent?, Controller.acceptedWrite?,
              BenchStep.beamEvent?, ready.layout]
            cases (controller.write address payload).1 with
            | error => rfl
            | ok => simp only [showsAt_beamCounter]
          rw [event] at counted
          exact counted
  | tick | takeEvents => rfl
  | drive pin high =>
      have isShown : beam0 ∈ shownInputs := by decide
      have flips := flips_drive_iff ready.listening isShown pin high
      rw [BenchStep.after, ready.listening.signals_inputEdge, BenchStep.beamEvent?]
      by_cases moved : pin ∈ shownInputs ∧ (controller.pins.pin pin).level ≠ high
      · rw [if_pos moved, count_onPortInterrupt _ moved.1]
        by_cases beam : pin = beam0
        · rw [beam] at moved
          rw [if_pos beam, if_pos (flips.mpr ⟨beam, moved.2⟩)]
          rfl
        · rw [if_neg beam, if_neg (fun flipped => beam (flips.mp flipped).1)]
          rfl
      · rw [if_neg moved, if_neg]
        · rfl
        · intro flipped
          obtain ⟨rfl, changes⟩ := flips.mp flipped
          exact moved ⟨isShown, changes⟩

theorem flagged_after (ready : Ready controller) (step : BenchStep) :
    (step.after controller).signals.flags.getLsbD digitalInputsIndex = true ↔
      (∃ pin ∈ shownInputs, step.flips controller pin = true) ∨
        controller.signals.flags.getLsbD digitalInputsIndex = true ∧
          step ≠ .takeEvents := by
  cases step with
  | bus request =>
      have frame := controller.serve_frame request
      rw [BenchStep.after, frame.flags]
      simp [BenchStep.flips]
  | tick => simp [BenchStep.flips, BenchStep.after, Controller.tick]
  | takeEvents => simp [BenchStep.flips, BenchStep.after, Controller.takeEvents, Signals.takeFlags]
  | drive driven high =>
      rw [BenchStep.after, ready.listening.signals_inputEdge]
      by_cases moved : driven ∈ shownInputs ∧ (controller.pins.pin driven).level ≠ high
      · rw [if_pos moved]
        have flips := flips_drive_iff ready.listening moved.1 driven high
        exact iff_of_true (flagged_onPortInterrupt _ moved.1)
          (.inl ⟨driven, moved.1, flips.mpr ⟨rfl, moved.2⟩⟩)
      · rw [if_neg moved]
        constructor
        · intro up
          refine .inr ⟨up, ?_⟩
          intro same
          cases same
        · intro either
          rcases either with ⟨pin, isShown, flipped⟩ | ⟨up, _⟩
          · obtain ⟨rfl, changes⟩ :=
              (flips_drive_iff ready.listening isShown driven high).mp flipped
            exact absurd ⟨isShown, changes⟩ moved
          · exact up

theorem bench (ready : Ready controller) (steps : List BenchStep) :
    Ready (bench controller steps) := by
  induction steps generalizing controller with
  | nil => exact ready
  | cons step rest induction => exact induction (ready.after step)

theorem count_bench (ready : Ready controller) {events : List CounterEvent}
    (follows : (controller.signals.count beamCounter).toNat =
      countedSince events % 4294967296) (steps : List BenchStep) :
    ((NosePoke.bench controller steps).signals.count beamCounter).toNat =
      countedSince (events ++ beamEvents controller steps) % 4294967296 := by
  induction steps generalizing controller events with
  | nil =>
      rw [beamEvents, List.append_nil]
      exact follows
  | cons step rest induction =>
      have next := toNat_counterAfter follows (step.beamEvent? controller)
      rw [← ready.count_after step] at next
      have later := induction (ready.after step) next
      rw [List.append_assoc] at later
      exact later

theorem flagged_bench (ready : Ready controller) (steps : List BenchStep) :
    (NosePoke.bench controller steps).signals.flags.getLsbD digitalInputsIndex = true ↔
      ChangedSince controller steps ∨
        controller.signals.flags.getLsbD digitalInputsIndex = true ∧
          .takeEvents ∉ steps := by
  induction steps generalizing controller with
  | nil => simp [ChangedSince, NosePoke.bench]
  | cons step rest induction =>
      have later := induction (ready.after step)
      rw [ready.flagged_after step] at later
      rw [changedSince_cons, List.mem_cons, not_or]
      refine later.trans ?_
      constructor
      · rintro (changed | ⟨flipped | ⟨up, kept⟩, untaken⟩)
        · exact .inl (.inl changed)
        · exact .inl (.inr ⟨flipped, untaken⟩)
        · exact .inr ⟨up, Ne.symm kept, untaken⟩
      · rintro ((changed | ⟨flipped, untaken⟩) | ⟨up, kept, untaken⟩)
        · exact .inl changed
        · exact .inr ⟨.inl flipped, untaken⟩
        · exact .inr ⟨.inr ⟨up, Ne.symm kept⟩, untaken⟩

end Ready

theorem read_beamCounter {controller : Controller SimulatedPins}
    (same : controller.layout = layout) :
    ∃ shown, (controller.read 40).1 = .ok shown ∧ shown.length = 4 ∧
      Element.Kind.bits (.signed .four) shown =
        (controller.signals.count beamCounter).toNat := by
  obtain ⟨_, store, pins, signals, pulses⟩ := controller
  change _ = layout at same
  subst same
  have behaviour : (layout.register ⟨8, by decide⟩).behaviour = .counter beamCounter true := rfl
  have shows := Controller.read_counter ⟨layout, store, pins, signals, pulses⟩ behaviour
  obtain ⟨shown, read, sized, bits⟩ := shows
  refine ⟨shown, read, sized, bits.trans ?_⟩
  exact Nat.mod_eq_of_lt (signals.count beamCounter).toNat_lt

theorem mem_takeEvents_digitalInputs {β : Type} {controller : Controller β}
    (same : controller.layout = layout) :
    32 ∈ controller.takeEvents.1 ↔
      controller.signals.flags.getLsbD digitalInputsIndex = true := by
  obtain ⟨_, store, pins, signals, pulses⟩ := controller
  change _ = layout at same
  subst same
  have reported : (layout.register ⟨0, by decide⟩).descriptor.access.event = true := rfl
  exact Controller.addressOf_mem_takeEvents_iff ⟨layout, store, pins, signals, pulses⟩ reported

/-- On any pins the first beam is counted edge by edge, and digital inputs are reported
exactly.  After any run the counter register shows, modulo two to the power of 32, how
many drives changed the level of the first beam since boot or its last accepted reset;
the events contain the digital inputs exactly if a drive changed one of the four shown
inputs since they were last taken; and a drive of any other pin, or to the level that is
there already, reaches neither. -/
theorem beam_edges_counted (pins : SimulatedPins) (signals : Signals) :
    ∃ controller, boot pins signals = (.ok controller, .clear) ∧
      ∀ steps,
        (∃ shown, ((bench controller steps).read 40).1 = .ok shown ∧ shown.length = 4 ∧
          Element.Kind.bits (.signed .four) shown =
            countedSince (beamEvents controller steps) % 4294967296) ∧
        (32 ∈ (bench controller steps).takeEvents.1 ↔ ChangedSince controller steps) ∧
        (∀ pin high,
          pin ∉ shownInputs ∨ ((bench controller steps).pins.pin pin).level = high →
            (inputEdge (bench controller steps) pin high).2.signals =
              (bench controller steps).signals) ∧
        ∀ pin high, pin ≠ beam0 →
          (inputEdge (bench controller steps) pin high).2.signals.count beamCounter =
            (bench controller steps).signals.count beamCounter := by
  obtain ⟨after, boots, settled⟩ := boot_simulated pins
  have ready : Ready (booted after) := ⟨rfl, listening_booted settled⟩
  refine ⟨booted after, boots signals, ?_⟩
  intro steps
  have reached := ready.bench steps
  refine ⟨?_, ?_, ?_, ?_⟩
  · have initially : ((booted after).signals.count beamCounter).toNat =
        countedSince [] % 4294967296 := rfl
    have counted := ready.count_bench initially steps
    obtain ⟨shown, read, sized, bits⟩ := read_beamCounter reached.layout
    exact ⟨shown, read, sized, bits.trans counted⟩
  · rw [mem_takeEvents_digitalInputs reached.layout, ready.flagged_bench]
    have lowered : (booted after).signals.flags.getLsbD digitalInputsIndex = false :=
      BitVec.getLsbD_zero
    simp [lowered]
  · intro pin high still
    rw [reached.listening.signals_inputEdge, if_neg]
    intro moved
    rcases still with other | same
    · exact other moved.1
    · exact moved.2 same
  · intro pin high other
    have isShown : beam0 ∈ shownInputs := by decide
    have counted := reached.count_after (.drive pin high)
    have flips := flips_drive_iff reached.listening isShown pin high
    have still : (BenchStep.drive pin high).beamEvent? (bench (booted after) steps) = none :=
      if_neg (fun flipped => other (flips.mp flipped).1)
    rw [still] at counted
    exact counted

/-- The first beam is broken and mended, driven high once more, and the spare input of its
port is moved: two edges are counted and the inputs are reported, and a pin that does not
exist, but has the bit of the beam in its mask, does nothing. -/
theorem beam_edges_counted_fresh :
    let steps : List BenchStep := [.drive beam0 false, .drive beam0 true, .drive beam0 true,
      .drive spare0 false]
    ∃ controller, boot SimulatedPins.fresh .clear = (.ok controller, .clear) ∧
      (∃ shown, ((bench controller steps).read 40).1 = .ok shown ∧
        Element.Kind.bits (.signed .four) shown = 2) ∧
      32 ∈ (bench controller steps).takeEvents.1 ∧
      (inputEdge (bench controller steps) ⟨.d, 12⟩ true).2.signals =
        (bench controller steps).signals := by
  intro steps
  obtain ⟨controller, boots, counts⟩ := beam_edges_counted .fresh .clear
  have same : controller = booted (setUp SimulatedPins.fresh).2 := by
    have again : boot SimulatedPins.fresh .clear = _ := boot_eq rfl .clear
    rw [again] at boots
    cases boots
    rfl
  have events : beamEvents controller steps = [.counted, .counted] := by
    rw [same]
    rfl
  have flips : (BenchStep.drive beam0 false).flips controller beam0 = true := by
    rw [same]
    rfl
  obtain ⟨⟨shown, read, _, bits⟩, reported, still, _⟩ := counts steps
  rw [events] at bits
  refine ⟨controller, boots, ⟨shown, read, bits⟩, ?_, still _ true (.inl (by decide))⟩
  apply reported.mpr
  exact ⟨[], _, _, rfl, ⟨beam0, by decide, flips⟩, by simp⟩

end NosePoke

end Instrument

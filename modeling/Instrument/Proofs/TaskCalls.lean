import Instrument.Proofs.ArmedInputs
import Instrument.Proofs.BeamCounts
import Instrument.Proofs.MachineRuns

/-!
# Calls as runs of the controller

Each call of the tasks is a short run of the controller: a request reads once or twice, a
tick reads what was flagged, and an interrupt routine calls on the signals.  So the chip
stays attentive and the layout stays the same, the first beam counts its interrupts, and
the flag of the digital inputs is up while an edge is unreported.
-/

namespace Instrument

namespace Firmware

open Board NosePoke Controller

section Answers

variable {β : Type} [PinDriver β] (controller : Controller β)

theorem snd_readPayload (address : UInt8) :
    (readPayload controller address).2 = (controller.read address).2 := by
  rw [readPayload]
  generalize controller.read address = outcome
  obtain ⟨result, after⟩ := outcome
  cases result with
  | error => rfl
  | ok bytes =>
      simp only
      cases Payload.ofBytes? bytes <;> rfl

theorem snd_report? (address : UInt8) :
    (report? controller address).2 = (controller.read address).2 := by
  rw [← snd_readPayload, report?]
  generalize readPayload controller address = outcome
  obtain ⟨result, after⟩ := outcome
  cases result <;> rfl

theorem snd_reportAll (addresses : List UInt8) :
    (reportAll controller addresses).2 = controller.run (addresses.map .read) := by
  induction addresses generalizing controller with
  | nil => rfl
  | cons address rest induction =>
      rw [List.map_cons, run_cons, step, ← snd_report?, ← induction]
      rfl

theorem snd_answer_write (address : UInt8) (payload : Payload) :
    (answer controller (.write address payload)).2 =
      match (controller.write address payload.bytes).1 with
      | .ok () => ((controller.write address payload.bytes).2.read address).2
      | .error _ => (controller.write address payload.bytes).2 := by
  rw [answer]
  generalize controller.write address payload.bytes = outcome
  obtain ⟨result, after⟩ := outcome
  cases result with
  | error => rfl
  | ok => exact snd_readPayload after address

end Answers

namespace Call

/-- What a call does to the controller, step by step. -/
def operations (controller : Controller ChipPins) : Call → List (Operation ChipPins)
  | .serve (.read address) => [.read address]
  | .serve (.write address payload) =>
    .write address payload.bytes ::
      match (controller.write address payload.bytes).1 with
      | .ok () => [.read address]
      | .error _ => []
  | .tick => .tick 1 :: .takeEvents :: (controller.tick 1).takeEvents.1.map .read
  | .interrupt port line =>
    if line = inputLine then
      match port with
      | .d => [.signal (.increment beamCounter), .signal (.raise digitalInputsIndex)]
      | .e | .f | .h => [.signal (.raise digitalInputsIndex)]
      | _ => []
    else []
  | .sample conversions =>
    match (frame? conversions).bind fun frame =>
      Element.encode? frame.toList (Bytes.zeros 24) with
    | some (_, bytes) => [.signal (.latch analogWindow bytes), .signal (.raise analogIndex)]
    | none => []
  | .external pin level => [.pins (·.applyExternal pin level)]

theorem after_eq_run (controller : Controller ChipPins) (call : Call) :
    call.after controller = controller.run (call.operations controller) := by
  cases call with
  | serve request =>
      cases request with
      | read address => exact snd_readPayload controller address
      | write address payload =>
          rw [after, snd_answer_write, operations]
          cases (controller.write address payload.bytes).1 <;> rfl
  | tick => exact snd_reportAll _ _
  | interrupt port line =>
      by_cases shared : line = inputLine
      · subst shared
        cases port <;> rfl
      · have none : (Call.interrupt port line).operations controller = [] := if_neg shared
        rw [none, after, NosePoke.interrupt, onPortInterrupt_of_line_ne _ _ shared]
        rfl
  | sample conversions =>
      rw [after, operations, Firmware.sample]
      cases frame? conversions with
      | none => rfl
      | some frame =>
          simp only [onAnalogFrame, Option.bind_some]
          cases Element.encode? frame.toList (Bytes.zeros 24) <;> rfl
  | external => rfl

/-- Calls are one run, step by step. -/
theorem afterAll_eq_run (controller : Controller ChipPins) (calls : List Call) :
    afterAll controller calls = controller.run (along operations controller calls) := by
  induction calls generalizing controller with
  | nil => rfl
  | cons call rest induction =>
      rw [along, run_append, ← after_eq_run, ← induction]
      rfl

theorem layout_after (controller : Controller ChipPins) (call : Call) :
    (call.after controller).layout = controller.layout := by
  rw [after_eq_run, layout_run]

end Call

/-- Requests and ticks reach the chip by driving lines. -/
theorem attentive_step {controller : Controller ChipPins}
    (attentive : Attentive controller.pins) {operation : Operation ChipPins}
    (leaves : operation.leavesPins = true) : Attentive (controller.step operation).pins := by
  cases operation with
  | read address =>
      have ended := controller.read_ends address
      rw [step]
      generalize controller.read address = outcome at ended ⊢
      cases ended <;> exact attentive
  | write address payload =>
      have ended := controller.write_ends address payload
      rw [step]
      generalize controller.write address payload = outcome at ended ⊢
      cases ended with
      | invalidAddress | sizeMismatch | rejected => exact attentive
      | taken place sized takes =>
          cases takes with
          | setting | counter => exact attentive
          | drive => exact attentive.driveEach _
          | pulse => exact attentive.drive _ _
  | tick elapsed =>
      rw [step, pins_tick]
      exact attentive.driveEach _
  | takeEvents | signal => exact attentive
  | pins => cases leaves

theorem attentive_after {controller : Controller ChipPins}
    (attentive : Attentive controller.pins) (call : Call) :
    Attentive (call.after controller).pins := by
  have within : (∀ operation ∈ call.operations controller, operation.leavesPins = true) →
      Attentive (call.after controller).pins := by
    intro leaves
    rw [Call.after_eq_run]
    exact run_invariant (fun reached => Attentive reached.pins)
      (fun operation => operation.leavesPins = true)
      (fun _ _ leaves attentive => attentive_step attentive leaves) leaves attentive
  cases call with
  | external pin level => exact attentive.applyExternal pin level
  | serve request =>
      apply within
      cases request with
      | read => simp [Call.operations, Operation.leavesPins]
      | write address payload =>
          rw [Call.operations]
          split <;> simp [Operation.leavesPins]
  | tick =>
      apply within
      simp [Call.operations, Operation.leavesPins]
  | interrupt port line => exact attentive
  | sample conversions => exact attentive

theorem kept_reads {β : Type} [PinDriver β] (controller : Controller β)
    (addresses : List UInt8) :
    (controller.run (addresses.map .read)).signals = controller.signals ∧
      (controller.run (addresses.map .read)).pins = controller.pins ∧
        (controller.run (addresses.map .read)).pulses = controller.pulses := by
  induction addresses generalizing controller with
  | nil => exact ⟨rfl, rfl, rfl⟩
  | cons address rest induction =>
      have ended := controller.read_ends address
      have later := induction (controller.read address).2
      rw [List.map_cons, run_cons, step]
      generalize controller.read address = outcome at ended later ⊢
      cases ended <;> exact later

theorem signals_after (controller : Controller ChipPins) (call : Call) :
    (call.after controller).signals =
      match call with
      | .serve (.write address payload) => (controller.write address payload.bytes).2.signals
      | .tick => controller.signals.takeFlags.2
      | .interrupt port line => onPortInterrupt controller.signals port line
      | .sample conversions => Firmware.sample controller.signals conversions
      | .serve (.read _) | .external _ _ => controller.signals := by
  cases call with
  | serve request =>
      rw [Call.after_eq_run]
      cases request with
      | read address => exact (kept_reads controller [address]).1
      | write address payload =>
          rw [Call.operations, run_cons]
          cases (controller.write address payload.bytes).1 with
          | error => rfl
          | ok => exact (kept_reads _ [address]).1
  | tick =>
      rw [Call.after_eq_run]
      exact (kept_reads _ _).1
  | interrupt | sample | external => rfl

/-- A sample latches a frame and flags it, or does nothing. -/
theorem sample_cases (signals : Signals) (conversions : Conversions) :
    sample signals conversions = signals ∨
      ∃ bytes, sample signals conversions =
        (signals.latch analogWindow bytes).raise analogIndex := by
  rw [sample]
  split
  · rw [onAnalogFrame]
    split
    · exact .inr ⟨_, rfl⟩
    · exact .inl rfl
  · exact .inl rfl

theorem count_sample (signals : Signals) (conversions : Conversions) {counter : Nat}
    (present : counter < Signals.counterCount) :
    (sample signals conversions).count counter = signals.count counter := by
  rcases sample_cases signals conversions with same | ⟨bytes, latched⟩
  · rw [same]
  · have raised := (signals.latch analogWindow bytes).count_apply present (.raise analogIndex)
    rw [latched]
    exact raised.trans (signals.count_apply present (.latch analogWindow bytes))

theorem flagged_sample (signals : Signals) (conversions : Conversions) :
    (sample signals conversions).flags.getLsbD digitalInputsIndex =
      signals.flags.getLsbD digitalInputsIndex := by
  rcases sample_cases signals conversions with same | ⟨bytes, latched⟩
  · rw [same]
  · have kept : (signals.latch analogWindow bytes).flags = signals.flags := by
      rw [Signals.latch]
      split <;> rfl
    have other : decide (digitalInputsIndex = analogIndex ∧
      analogIndex < Signals.flagCount) = false := by decide
    rw [latched, Signals.getLsbD_flags_raise, kept, other, Bool.or_false]

/-- The routine does nothing for other interrupts than those of the shown inputs. -/
theorem onPortInterrupt_cases (signals : Signals) (port : Port) (line : InterruptLine) :
    (∃ shown ∈ shownInputs, port = shown.port ∧ line = inputLine) ∨
      (∀ shown ∈ shownInputs, ¬ (port = shown.port ∧ line = inputLine)) ∧
        onPortInterrupt signals port line = signals := by
  by_cases onPort : ∃ shown ∈ shownInputs, port = shown.port ∧ line = inputLine
  · exact .inl onPort
  · have other : ∀ shown ∈ shownInputs, ¬ (port = shown.port ∧ line = inputLine) := by
      intro shown isShown same
      exact onPort ⟨shown, isShown, same⟩
    refine .inr ⟨other, ?_⟩
    by_cases shared : line = inputLine
    · apply onPortInterrupt_of_port_ne
      intro shown isShown same
      exact other shown isShown ⟨same, shared⟩
    · exact onPortInterrupt_of_line_ne signals port shared

namespace Call

/-- What a call does to the count of the first beam: its interrupt counts, and an accepted
write to the counter restarts. -/
def beamEvent? (controller : Controller ChipPins) : Call → Option CounterEvent
  | .interrupt port line =>
    if port = beam0.port ∧ line = inputLine then some .counted else none
  | .serve (.write address payload) =>
    match (controller.write address payload.bytes).1 with
    | .ok () => if address = 40 then some .restarted else none
    | .error _ => none
  | .serve (.read _) | .tick | .sample _ | .external _ _ => none

theorem count_after {controller : Controller ChipPins}
    (same : controller.layout = NosePoke.layout) (call : Call) :
    (call.after controller).signals.count beamCounter =
      counterAfter (controller.signals.count beamCounter) (call.beamEvent? controller) := by
  have present : beamCounter < Signals.counterCount := by decide
  rw [signals_after]
  cases call with
  | serve request =>
      cases request with
      | read => rfl
      | write address payload =>
          have event : controller.counterEvent? beamCounter (.write address payload.bytes) =
              (Call.serve (.write address payload)).beamEvent? controller := by
            simp only [Controller.counterEvent?, Controller.acceptedWrite?, beamEvent?, same]
            cases (controller.write address payload.bytes).1 with
            | error => rfl
            | ok => simp only [showsAt_beamCounter]
          rw [← event]
          exact controller.count_write present address payload.bytes
  | tick => rfl
  | interrupt port line =>
      simp only [beamEvent?]
      rcases onPortInterrupt_cases controller.signals port line with
        ⟨shown, isShown, rfl, rfl⟩ | ⟨other, same⟩
      · have beam : ∀ shown ∈ shownInputs, shown.port = beam0.port ↔ shown = beam0 := by decide
        simp only [count_onPortInterrupt _ isShown, beam shown isShown, and_true]
        split <;> rfl
      · rw [same, if_neg (other beam0 (by decide))]
        rfl
  | sample conversions => exact count_sample _ _ present
  | external => rfl

/-- The flag of the digital inputs is raised by the interrupts of the shown inputs and
lowered by ticks. -/
theorem flagged_after (controller : Controller ChipPins) (call : Call) :
    (call.after controller).signals.flags.getLsbD digitalInputsIndex = true ↔
      (∃ shown ∈ shownInputs, call = .interrupt shown.port inputLine) ∨
        controller.signals.flags.getLsbD digitalInputsIndex = true ∧ call ≠ .tick := by
  rw [signals_after]
  cases call with
  | serve request =>
      cases request with
      | read => simp
      | write address payload =>
          have kept := controller.flags_step (.write address payload.bytes)
          have kept : (controller.write address payload.bytes).2.signals.flags =
              controller.signals.flags := kept
          simp [kept]
  | tick => simp [Signals.takeFlags]
  | interrupt port line =>
      simp only [Call.interrupt.injEq]
      rcases onPortInterrupt_cases controller.signals port line with
        ⟨shown, isShown, rfl, rfl⟩ | ⟨other, same⟩
      · exact iff_of_true (flagged_onPortInterrupt _ isShown) (.inl ⟨shown, isShown, rfl, rfl⟩)
      · rw [same]
        constructor
        · intro up
          refine .inr ⟨up, ?_⟩
          intro same
          cases same
        · rintro (⟨shown, isShown, both⟩ | ⟨up, _⟩)
          · exact absurd both (other shown isShown)
          · exact up
  | sample conversions =>
      rw [flagged_sample]
      simp
  | external => simp

theorem layout_afterAll (controller : Controller ChipPins) (calls : List Call) :
    (afterAll controller calls).layout = controller.layout := by
  induction calls generalizing controller with
  | nil => rfl
  | cons call rest induction => exact (induction _).trans (layout_after controller call)

theorem attentive_afterAll {controller : Controller ChipPins}
    (attentive : Attentive controller.pins) (calls : List Call) :
    Attentive (afterAll controller calls).pins := by
  induction calls generalizing controller with
  | nil => exact attentive
  | cons call rest induction => exact induction (attentive_after attentive call)

theorem count_afterAll {controller : Controller ChipPins}
    (same : controller.layout = NosePoke.layout) {events : List CounterEvent}
    (follows : (controller.signals.count beamCounter).toNat =
      countedSince events % 4294967296) (calls : List Call) :
    ((afterAll controller calls).signals.count beamCounter).toNat =
      countedSince (events ++
        along (fun reached call => (call.beamEvent? reached).toList) controller calls) %
          4294967296 := by
  induction calls generalizing controller events with
  | nil =>
      rw [along, List.append_nil]
      exact follows
  | cons call rest induction =>
      have next := toNat_counterAfter follows (call.beamEvent? controller)
      rw [← count_after same] at next
      have later := induction ((layout_after controller call).trans same) next
      rw [List.append_assoc] at later
      exact later

/-- A shown input has interrupted, and no tick came after it. -/
def InterruptedSince (calls : List Call) : Prop :=
  ∃ before shown after, shown ∈ shownInputs ∧
    calls = before ++ .interrupt shown.port inputLine :: after ∧ .tick ∉ after

theorem interruptedSince_cons {call : Call} {rest : List Call} :
    InterruptedSince (call :: rest) ↔
      InterruptedSince rest ∨
        (∃ shown ∈ shownInputs, call = .interrupt shown.port inputLine) ∧ .tick ∉ rest := by
  constructor
  · intro interrupted
    obtain ⟨before, shown, after, isShown, split, unticked⟩ := interrupted
    cases before with
    | nil =>
        cases split
        exact .inr ⟨⟨shown, isShown, rfl⟩, unticked⟩
    | cons head before =>
        cases split
        exact .inl ⟨before, shown, after, isShown, rfl, unticked⟩
  · rintro (⟨before, shown, after, isShown, rfl, unticked⟩ | ⟨⟨shown, isShown, rfl⟩, unticked⟩)
    · exact ⟨call :: before, shown, after, isShown, rfl, unticked⟩
    · exact ⟨[], shown, rest, isShown, rfl, unticked⟩

theorem flagged_afterAll (controller : Controller ChipPins) (calls : List Call) :
    (afterAll controller calls).signals.flags.getLsbD digitalInputsIndex = true ↔
      InterruptedSince calls ∨
        controller.signals.flags.getLsbD digitalInputsIndex = true ∧ .tick ∉ calls := by
  induction calls generalizing controller with
  | nil => simp [InterruptedSince, afterAll]
  | cons call rest induction =>
      have later := induction (call.after controller)
      rw [flagged_after] at later
      rw [interruptedSince_cons, List.mem_cons, not_or]
      refine later.trans ?_
      constructor
      · rintro (interrupted | ⟨raised | ⟨up, kept⟩, unticked⟩)
        · exact .inl (.inl interrupted)
        · exact .inl (.inr ⟨raised, unticked⟩)
        · exact .inr ⟨up, Ne.symm kept, unticked⟩
      · rintro ((interrupted | ⟨raised, unticked⟩) | ⟨up, kept, unticked⟩)
        · exact .inl interrupted
        · exact .inr ⟨.inl raised, unticked⟩
        · exact .inr ⟨.inr ⟨up, Ne.symm kept⟩, unticked⟩

end Call

end Firmware

end Instrument

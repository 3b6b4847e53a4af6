import Instrument.Proofs.ChipPulses
import Instrument.Proofs.OrderedReplies

/-!
# Slow consumers

The engine may take replies and reports at any time, or never.  Full queues then drop what
is sent, but they are all that it can fill: the device, the signals, the clock and the wait
for an edge never look at them.  In particular a pulse ends with the tick that it was
started for, whether or not anybody fetches what the ticks report.
-/

namespace Instrument.Firmware

open Board NosePoke Controller

/-- Whether the engine takes something that was sent to it. -/
def Action.consumes : Action → Bool
  | .takeReply | .takeReport => true
  | _ => false

namespace Machine

/-- Machines that differ only in what waits for the engine. -/
def Alike (first second : Machine) : Prop := first.drain.2 = second.drain.2

theorem drain_after (machine : Machine) (action : Action) :
    (machine.after action).Alike (machine.drain.2.after action) := by
  cases action with
  | submit request =>
      simp only [Alike, after, submit?, drain]
      cases machine.requests.push? request <;> rfl
  | takeReply =>
      simp only [Alike, after]
      cases machine.replies.pop? <;> rfl
  | takeReport =>
      simp only [Alike, after]
      cases machine.reports.pop? <;> rfl
  | applyExternal | elapse | convert => rfl
  | registerTurn =>
      -- The turn is of the same kind in both, as its kind is that of its call.
      have ended := machine.turn_ends
      have emptied := machine.drain.2.turn_ends
      have same : machine.drain.2.turnCall? = machine.turnCall? := rfl
      rw [same] at emptied
      simp only [Alike, after]
      generalize machine.turnCall? = call at ended emptied
      generalize machine.registerTurn = outcome at ended ⊢
      generalize machine.drain.2.registerTurn = other at emptied ⊢
      cases ended with
      | request taken =>
          cases emptied with
          | request again =>
              cases taken.symm.trans again
              rfl
      | tick => cases emptied; rfl
      | edge => cases emptied; rfl
      | idle => cases emptied; rfl
  | analogTurn =>
      simp only [Alike, after, serveSample?]
      by_cases due : machine.nextSample ≤ machine.now
      · have still : machine.drain.2.nextSample ≤ machine.drain.2.now := due
        rw [if_pos due, if_pos still]
        rfl
      · have still : ¬ machine.drain.2.nextSample ≤ machine.drain.2.now := due
        rw [if_neg due, if_neg still]
        rfl

theorem alike_after_of_consumes (machine : Machine) {action : Action}
    (consumes : action.consumes = true) : (machine.after action).Alike machine := by
  cases action with
  | takeReply =>
      simp only [Alike, after]
      cases machine.replies.pop? <;> rfl
  | takeReport =>
      simp only [Alike, after]
      cases machine.reports.pop? <;> rfl
  | _ => cases consumes

namespace Alike

variable {first second : Machine}

theorem after (alike : first.Alike second) (action : Action) :
    (first.after action).Alike (second.after action) := by
  calc (first.after action).drain.2
    _ = (first.drain.2.after action).drain.2 := first.drain_after action
    _ = (second.drain.2.after action).drain.2 := by rw [alike]
    _ = (second.after action).drain.2 := (second.drain_after action).symm

/-- The register task and the analog task decide without the replies and reports. -/
theorem call? (alike : first.Alike second) (action : Action) :
    first.call? action = second.call? action := by
  have drained := congrArg (·.call? action) alike
  cases action <;> exact drained

theorem follow (alike : first.Alike second) (actions : List Action) :
    (first.follow actions).Alike (second.follow actions) := by
  induction actions generalizing first second with
  | nil => exact alike
  | cons action rest induction => exact induction (alike.after action)

theorem history (alike : first.Alike second) (actions : List Action) :
    first.history actions = second.history actions := by
  induction actions generalizing first second with
  | nil => rfl
  | cons action rest induction =>
      have later := induction (alike.after action)
      rw [Machine.history, collect, alike.call? action]
      exact congrArg _ later

end Alike

theorem follow_unconsumed (machine : Machine) (actions : List Action) :
    (machine.follow actions).Alike (machine.follow (actions.filter (!·.consumes))) := by
  induction actions generalizing machine with
  | nil => rfl
  | cons action rest induction =>
      rw [List.filter_cons]
      cases consumes : action.consumes with
      | true =>
          have skipped := (machine.alike_after_of_consumes consumes).follow rest
          exact skipped.trans (induction machine)
      | false => exact induction (machine.after action)

theorem history_unconsumed (machine : Machine) (actions : List Action) :
    machine.history actions = machine.history (actions.filter (!·.consumes)) := by
  induction actions generalizing machine with
  | nil => rfl
  | cons action rest induction =>
      rw [List.filter_cons]
      cases consumes : action.consumes with
      | true =>
          have skipped := (machine.alike_after_of_consumes consumes).history rest
          have uncalled : machine.call? action = none := by
            cases action with
            | takeReply | takeReport => rfl
            | _ => cases consumes
          rw [history, collect, uncalled]
          exact skipped.trans (induction machine)
      | false =>
          rw [history, collect]
          exact congrArg _ (induction (machine.after action))

/-- The controller after an action that does something to it. -/
def visited (machine : Machine) (action : Action) : List (Controller ChipPins) :=
  (machine.call? action).toList.map fun _ => (machine.after action).controller

theorem collect_visited {machine : Machine} (same : machine.controller.layout = NosePoke.layout)
    (actions : List Action) :
    machine.collect visited actions =
      Call.along (fun reached call => [call.after reached]) machine.controller
        (machine.history actions) := by
  apply collect_eq_along _ same
  intro machine action _
  rw [visited, controller_after]
  cases machine.call? action <;> rfl

/-- What the engine takes, and when, is of no consequence to the device. -/
structure Uninfluenced (machine : Machine) : Prop where
  /-- Runs that differ only in what the engine takes, and when, differ at no time in anything
  but what waits for the engine. -/
  alike : ∀ first second : List Action,
    first.filter (!·.consumes) = second.filter (!·.consumes) →
      (machine.follow first).Alike (machine.follow second) ∧
        machine.history first = machine.history second
  /-- Runs in which the same is done to the controller go through the same controllers. -/
  visited : ∀ first second : List Action, machine.history first = machine.history second →
    machine.collect visited first = machine.collect visited second ∧
      (machine.follow first).controller = (machine.follow second).controller
  /-- A pulse that a write starts stands at the number of ticks since, as long as no accepted
  write names its pin. -/
  pulsing : ∀ (actions : List Action) (earlier later : List Call) (call : Call)
      (line : OutputLine) (duration : Nat),
    machine.history actions = earlier ++ call :: later →
      call.StartsPulse (Call.afterAll machine.controller earlier) line duration →
        (∀ address ∈ Call.along Call.written
            (call.after (Call.afterAll machine.controller earlier)) later,
          ¬ NosePoke.layout.Names address line.pin) →
          (machine.follow actions).controller.Pulsing line duration (later.countP Call.isTick)

theorem uninfluenced_of_outputsDrive {machine : Machine}
    (same : machine.controller.layout = NosePoke.layout)
    (drive : OutputsDrive machine.controller.pins) : machine.Uninfluenced where
  alike first second taken := by
    constructor
    · have left := machine.follow_unconsumed first
      rw [taken] at left
      exact left.trans (machine.follow_unconsumed second).symm
    · rw [machine.history_unconsumed first, taken, ← machine.history_unconsumed second]
  visited first second done := by
    constructor
    · rw [collect_visited same, collect_visited same, done]
    · rw [controller_follow, controller_follow, done]
  pulsing actions earlier later call line duration done starts quiet := by
    have kept := (Call.layout_afterAll machine.controller earlier).trans same
    rw [← kept] at quiet
    have pulsing := Call.pulsing_of_startsPulse kept (Call.outputsDrive_afterAll drive earlier)
      starts quiet
    rw [controller_follow, done, Call.afterAll, List.foldl_append]
    exact pulsing

end Machine

/-- Booted with anything applied to its pads, the machine is uninfluenced by what the engine
takes of its replies and reports: two runs that differ in nothing else always agree on the
store, the pins, the pulses and the signals, and a pulse ends with the tick it was started
for. -/
theorem consumer_without_influence (external : List (Pin × Option Bool)) :
    ∃ machine, Machine.boot external = .ok machine ∧ machine.Uninfluenced := by
  obtain ⟨chip, board, _, boots⟩ := Machine.boot_waits external
  exact ⟨_, boots, Machine.uninfluenced_of_outputsDrive rfl (outputsDrive_booted board)⟩

/-- A request for a pulse of one millisecond on a valve. -/
def shortPulse : Request := .write 42 ⟨[1, 0], by decide⟩

/-- The pulse and a tick, for an engine that never looks at its queues. -/
def pulseUnfetched : List Action := [.submit shortPulse, .registerTurn, .elapse 1, .registerTurn]

/-- The same, for an engine that takes its reply at once and looks for reports. -/
def pulseFetched : List Action :=
  [.submit shortPulse, .registerTurn, .takeReply, .elapse 1, .takeReport, .registerTurn,
    .takeReport]

theorem history_pulseUnfetched (controller : Controller ChipPins) :
    ({ controller, wait := some .begun } : Machine).history pulseUnfetched =
      [.serve shortPulse, .tick] := rfl

/-- The valve is open once the request is served and closed after the tick, and the queues
that were looked at make no difference. -/
theorem consumer_without_influence_pulse :
    ∃ machine, Machine.boot [] = .ok machine ∧
      (machine.follow pulseFetched).Alike (machine.follow pulseUnfetched) ∧
      (machine.follow (pulseUnfetched.take 2)).controller.pins.padLevel valve0 = true ∧
      (machine.follow pulseFetched).controller.pins.padLevel valve0 = false := by
  obtain ⟨machine, boots, uninfluenced⟩ := consumer_without_influence []
  obtain ⟨chip, _, _, also⟩ := Machine.boot_waits []
  have started : machine = { controller := booted chip, wait := some .begun } := by
    rw [boots] at also
    exact Except.ok.inj also
  have starts : (Call.serve shortPulse).StartsPulse machine.controller ⟨valve0, false⟩ 1 := by
    have member : layout.register ⟨10, by decide⟩ ∈ layout.registers := List.get_mem _ _
    have free : (booted chip).pulses.size < Pulses.capacity := Nat.zero_lt_succ 7
    rw [started]
    refine ⟨?_, layout.register ⟨10, by decide⟩, member, rfl, rfl, 1, rfl, rfl⟩
    exact (((booted chip).write_answered 42 [1, 0]).ok _ member rfl rfl).mpr
      ⟨by decide, ⟨1, rfl, by decide, by decide⟩, .inl free⟩
  have whole := history_pulseUnfetched machine.controller
  have same : { controller := machine.controller, wait := some .begun } = machine := by
    rw [started]
  rw [same] at whole
  have served : machine.history (pulseUnfetched.take 2) = [.serve shortPulse] := by
    rw [started]
    rfl
  have alike := uninfluenced.alike pulseFetched pulseUnfetched rfl
  rw [← alike.2] at whole
  have running := uninfluenced.pulsing _ [] [] _ _ _ served starts nofun
  have ended := uninfluenced.pulsing _ [] [.tick] _ _ _ whole starts nofun
  exact ⟨machine, boots, alike.1, running.1.padLevel, ended.1.padLevel⟩

end Instrument.Firmware

import Instrument.NosePoke.Registers
import Instrument.Proofs.DrivenPins
import Instrument.Proofs.Runs
import Mathlib.Data.List.Nodup

/-!
# Ticks divided into smaller ones

Time that passes in several ticks passes as in a single one.  A tick takes its time off every
pulse it leaves running, so a pulse ends in one of the ticks exactly if the single tick ends
it.  The lines are released in another order, which pins do not show, as no two of the lines
are on one pin.  A tick of no time ends nothing because no pulse runs that is over.
-/

namespace Instrument

namespace Pulses

theorem ext_running {first second : Pulses} (same : first.running = second.running) :
    first = second := by
  cases first
  cases second
  cases same
  rfl

theorem advance_advance (pulses : Pulses) (first second : Nat) :
    ((pulses.advance first).2.advance second).2 = (pulses.advance (first + second)).2 := by
  apply ext_running
  simp only [advance, elapse, filter, List.filter_map, List.filter_filter, List.map_map]
  have kept : ∀ pulse : Pulse,
      (decide (second < pulse.remaining - first) && decide (first < pulse.remaining)) =
        decide (first + second < pulse.remaining) := by
    intro pulse
    rw [← Bool.decide_and, decide_eq_decide]
    omega
  simp only [Function.comp_def, kept, Nat.sub_sub]

/-- The first tick ends the pulses that are over by then, the second the others that are over
by the sum. -/
theorem ended_advance_perm (pulses : Pulses) (first second : Nat) :
    ((pulses.advance first).1 ++ ((pulses.advance first).2.advance second).1).Perm
      (pulses.advance (first + second)).1 := by
  have early : ∀ pulse : Pulse, decide (pulse.remaining ≤ first) =
      (decide (pulse.remaining ≤ first) && decide (pulse.remaining ≤ first + second)) := by
    intro pulse
    rw [← Bool.decide_and, decide_eq_decide]
    omega
  have late : ∀ pulse : Pulse,
      (decide (pulse.remaining - first ≤ second) && decide (first < pulse.remaining)) =
        (!decide (pulse.remaining ≤ first) && decide (pulse.remaining ≤ first + second)) := by
    intro pulse
    rw [← decide_not, ← Bool.decide_and, ← Bool.decide_and, decide_eq_decide]
    omega
  have ended := List.filter_append_perm (fun pulse => decide (pulse.remaining ≤ first))
    (pulses.running.filter fun pulse => decide (pulse.remaining ≤ first + second))
  simp only [List.filter_filter, ← early, ← late] at ended
  simpa only [advance, elapse, filter, List.filter_map, List.filter_filter, List.map_map,
    List.map_append, Function.comp_def] using ended.map (·.line)

/-- Every pulse that runs has time left. -/
def Unexpired (pulses : Pulses) : Prop := ∀ pulse ∈ pulses.running, 0 < pulse.remaining

theorem Unexpired.advance_zero {pulses : Pulses} (unexpired : pulses.Unexpired) :
    pulses.advance 0 = ([], pulses) := by
  have none : pulses.running.filter (fun pulse => decide (pulse.remaining ≤ 0)) = [] := by
    rw [List.filter_eq_nil_iff]
    intro pulse runs ended
    exact Nat.not_le_of_lt (unexpired pulse runs) (of_decide_eq_true ended)
  have all : pulses.running.filter (fun pulse => decide (0 < pulse.remaining)) =
      pulses.running := by
    rw [List.filter_eq_self]
    intro pulse runs
    exact decide_eq_true (unexpired pulse runs)
  apply Prod.ext
  · simp only [advance, none, List.map_nil]
  · apply ext_running
    simp only [advance, elapse, filter, all, Nat.sub_zero]
    exact List.map_id _

theorem unexpired_advance (pulses : Pulses) (elapsed : Nat) :
    (pulses.advance elapsed).2.Unexpired := by
  intro pulse runs
  obtain ⟨source, kept, rfl⟩ := List.mem_map.mp runs
  exact Nat.sub_pos_of_lt (of_decide_eq_true (List.mem_filter.mp kept).2)

theorem Unexpired.arm? {pulses armed : Pulses} (unexpired : pulses.Unexpired) {line : OutputLine}
    {duration : Nat} (positive : 0 < duration) (started : pulses.arm? line duration = some armed) :
    armed.Unexpired := by
  intro pulse runs
  rcases (mem_running_arm? started pulse).mp runs with rfl | ⟨old, _⟩
  · exact positive
  · exact unexpired pulse old

theorem Unexpired.cancelEach {pulses : Pulses} (unexpired : pulses.Unexpired)
    (lines : List OutputLine) : (pulses.cancelEach lines).Unexpired := by
  induction lines generalizing pulses with
  | nil => exact unexpired
  | cons line rest induction =>
      apply induction
      intro pulse runs
      exact unexpired pulse ((mem_running_cancel pulses line.pin pulse).mp runs).1

end Pulses

namespace SimulatedPins

theorem drive_drive_comm (pins : SimulatedPins) {first second : OutputLine × Bool}
    (apart : first.1.pin ≠ second.1.pin) :
    PinDriver.drive (PinDriver.drive pins first.1 first.2) second.1 second.2 =
      PinDriver.drive (PinDriver.drive pins second.1 second.2) first.1 first.2 := by
  apply ext_pin
  · intro pin
    simp only [pin_drive]
    by_cases onFirst : pin = first.1.pin
    · subst onFirst
      simp only [if_neg apart]
    · simp only [if_neg onFirst]
  · simp only [interrupts_drive]

/-- Lines on distinct pins may be driven in any order. -/
theorem driveEach_perm (pins : SimulatedPins) {first second : List (OutputLine × Bool)}
    (same : first.Perm second) (distinct : (first.map (·.1.pin)).Nodup) :
    PinDriver.driveEach pins first = PinDriver.driveEach pins second := by
  apply same.foldl_eq'
  intro one listedOne other listedOther reached
  by_cases samePin : one.1.pin = other.1.pin
  · rw [List.inj_on_of_nodup_map distinct listedOne listedOther samePin]
  · exact (drive_drive_comm reached samePin)

end SimulatedPins

namespace Controller

variable {β : Type}

/-- The lines that a tick releases. -/
def released (controller : Controller β) (elapsed : Nat) : List OutputLine :=
  (controller.pulses.advance elapsed).1

theorem pins_released_nodup (controller : Controller β) (elapsed : Nat) :
    ((controller.released elapsed).map (·.pin)).Nodup :=
  controller.pulses.pins_ended_nodup elapsed

variable [PinDriver β]

theorem released_append_perm (controller : Controller β) (first second : Nat) :
    (controller.released first ++ (controller.tick first).released second).Perm
      (controller.released (first + second)) :=
  controller.pulses.ended_advance_perm first second

theorem tick_tick (controller : Controller SimulatedPins) (first second : Nat) :
    (controller.tick first).tick second = controller.tick (first + second) := by
  have pulses := controller.pulses.advance_advance first second
  have pins : ((controller.tick first).tick second).pins =
      (controller.tick (first + second)).pins := by
    have perm := (controller.released_append_perm first second).map (·, false)
    have distinct := controller.pins_released_nodup (first + second)
    rw [pins_tick, pins_tick, pins_tick, ← PinDriver.driveEach_append, ← List.map_append]
    apply Eq.symm
    apply SimulatedPins.driveEach_perm _ perm.symm
    rw [List.map_map]
    exact distinct
  calc
    (controller.tick first).tick second
        = { controller with
            pulses := ((controller.pulses.advance first).2.advance second).2
            pins := ((controller.tick first).tick second).pins } := rfl
    _ = { controller with
            pulses := (controller.pulses.advance (first + second)).2
            pins := (controller.tick (first + second)).pins } := by rw [pulses, pins]
    _ = controller.tick (first + second) := rfl

/-- The lines that ticks release one after the other. -/
def releasedBy (controller : Controller β) : List Nat → List OutputLine
  | [] => []
  | elapsed :: rest => controller.released elapsed ++ (controller.tick elapsed).releasedBy rest

/-- The steps that let some times pass, one after the other. -/
def ticks (times : List Nat) : List (Operation SimulatedPins) := times.map .tick

theorem run_ticks {controller : Controller SimulatedPins} (unexpired : controller.pulses.Unexpired)
    (times : List Nat) :
    let total := Operation.totalElapsed (ticks times)
    controller.run (ticks times) = controller.tick total ∧
      (controller.releasedBy times).Perm (controller.released total) := by
  intro total
  induction times generalizing controller with
  | nil =>
      have idle : controller.pulses.advance total = ([], controller.pulses) :=
        unexpired.advance_zero
      rw [released, tick, idle]
      exact ⟨rfl, .refl _⟩
  | cons elapsed rest induction =>
      obtain ⟨same, perm⟩ :=
        @induction (controller.tick elapsed) (controller.pulses.unexpired_advance elapsed)
      constructor
      · exact same.trans (controller.tick_tick elapsed _)
      · exact (perm.append_left _).trans (controller.released_append_perm elapsed _)

theorem Takes.unexpired {controller : Controller β} {register : Register} {payload : Bytes}
    {pins : β} {signals : Signals} {pulses : Pulses}
    (takes : Takes controller register payload pins signals pulses)
    (unexpired : controller.pulses.Unexpired) : pulses.Unexpired := by
  cases takes with
  | setting | counter => exact unexpired
  | drive => exact unexpired.cancelEach _
  | pulse _ _ length started =>
      exact unexpired.arm? (pulseDuration?_eq_some_iff.mp length).2.1 started

theorem unexpired_step {controller : Controller β} (unexpired : controller.pulses.Unexpired)
    (operation : Operation β) : (controller.step operation).pulses.Unexpired := by
  cases operation with
  | read address =>
      have ended := controller.read_ends address
      rw [step]
      generalize controller.read address = outcome at ended ⊢
      cases ended <;> exact unexpired
  | write address payload =>
      have ended := controller.write_ends address payload
      rw [step]
      generalize controller.write address payload = outcome at ended ⊢
      cases ended with
      | invalidAddress | sizeMismatch | rejected => exact unexpired
      | taken _ _ takes => exact takes.unexpired unexpired
  | tick elapsed => exact controller.pulses.unexpired_advance elapsed
  | takeEvents | signal | pins => exact unexpired

theorem unexpired_run {controller : Controller β} (unexpired : controller.pulses.Unexpired)
    (operations : List (Operation β)) : (controller.run operations).pulses.Unexpired :=
  run_invariant (fun reached => reached.pulses.Unexpired) (fun _ => True)
    (fun _ operation _ kept => unexpired_step kept operation) (fun _ _ => trivial) unexpired

/-- After any run two ticks are one tick of their sum and release the lines that it releases,
each pin once.  Ticks with one total leave one controller, however the total is divided. -/
theorem run_divided_ticks {layout : Layout} {pins : SimulatedPins}
    {contents : List (UInt8 × Bytes)} {controller : Controller SimulatedPins}
    (started : Started layout pins contents controller)
    (operations : List (Operation SimulatedPins)) :
    let reached := controller.run operations
    (∀ first second : Nat,
      let both := reached.released first ++ (reached.tick first).released second
      (reached.tick first).tick second = reached.tick (first + second) ∧
        both.Perm (reached.released (first + second)) ∧ (both.map (·.pin)).Nodup) ∧
      ∀ first second : List Nat,
        Operation.totalElapsed (ticks first) = Operation.totalElapsed (ticks second) →
          reached.run (ticks first) = reached.run (ticks second) ∧
            (reached.releasedBy first).Perm (reached.releasedBy second) := by
  intro reached
  obtain ⟨_, loads⟩ := started.loads
  have initially : controller.pulses.Unexpired := by
    rw [(loadAll_keeps loads).2]
    exact fun _ runs => (List.not_mem_nil runs).elim
  have unexpired : reached.pulses.Unexpired := unexpired_run initially operations
  constructor
  · intro first second both
    have perm : both.Perm (reached.released (first + second)) :=
      reached.released_append_perm first second
    refine ⟨reached.tick_tick first second, perm, ?_⟩
    exact ((perm.map (·.pin)).nodup_iff).mpr (reached.pins_released_nodup (first + second))
  · intro first second total
    have one := run_ticks unexpired first
    have other := run_ticks unexpired second
    rw [total] at one
    exact ⟨one.1.trans other.1.symm, one.2.trans other.2.symm⟩

/-- A valve opened for five milliseconds is closed once, by two ticks as by five. -/
theorem run_divided_ticks_nosePoke :
    ∃ pins : SimulatedPins, (pins.pin NosePoke.valve0).IsOutput ∧
      ∃ controller, Started NosePoke.layout pins [] controller ∧
        let reached := controller.run [.write 42 [5, 0]]
        reached.run [.tick 2, .tick 3] =
            reached.run [.tick 1, .tick 1, .tick 1, .tick 1, .tick 1] ∧
          [⟨NosePoke.valve0, false⟩].Perm (reached.releasedBy [1, 1, 1, 1, 1]) := by
  let pins := (PinDriver.configureOutput SimulatedPins.fresh NosePoke.valve0
    .pushPull .enabled).2
  have output : (pins.pin NosePoke.valve0).IsOutput := ⟨.pushPull, .enabled, rfl⟩
  let controller : Controller SimulatedPins :=
    { layout := NosePoke.layout, store := .zeroed, pins, signals := .clear,
      pulses := .none }
  have started : Started NosePoke.layout pins [] controller :=
    .bind (show Controller.bind NosePoke.layout 111 pins .clear = .ok _ from rfl)
  have divided := (run_divided_ticks started [.write 42 [5, 0]]).2 [2, 3] [1, 1, 1, 1, 1] rfl
  have closed : (controller.run [.write 42 [5, 0]]).releasedBy [2, 3] =
      [⟨NosePoke.valve0, false⟩] := by decide +zetaReduce
  rw [closed] at divided
  exact ⟨pins, output, controller, started, divided⟩

end Controller

end Instrument

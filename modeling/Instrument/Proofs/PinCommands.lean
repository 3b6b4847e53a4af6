import Instrument.NosePoke.Registers
import Instrument.Proofs.Frames
import Instrument.Proofs.Runs

/-!
# Pins after a run

The last accepted write that names an output pin decides the pin's state: a driving
write its level, a pulse write its level and the time left on the pulse.  `Obeys`
states what a pin is after a command and some time.  Steps without a new command
for the pin preserve it, and a new command establishes it afresh.
-/

namespace Instrument

/-- What a write asks of a pin. -/
inductive Command where
  /-- Take a level and stay there. -/
  | level (high : Bool)
  /-- Make a line active for a number of milliseconds. -/
  | pulse (line : OutputLine) (duration : Nat)

/-- The commands that a write to a register gives to a pin.  Of several driven lines
on the pin the last one counts. -/
def Commands (register : Register) (payload : Bytes) (pin : Pin)
    (command : Command) : Prop :=
  let kind := register.descriptor.kind
  match register.behaviour with
  | .drive _ lines =>
    ∃ (position : Nat) (line : OutputLine),
      lines[position]? = some line ∧ line.pin = pin ∧
        (∀ (later : Nat) (other : OutputLine), position < later →
          lines[later]? = some other → other.pin ≠ pin) ∧
        command = .level (line.level ((kind.bits payload).testBit position))
  | .pulse _ line =>
    line.pin = pin ∧ ∃ duration : Nat,
      kind.integer? payload = some (duration : Int) ∧
        command = .pulse line duration
  | .pins _ | .latch _ | .constant | .setting _ | .counter _ _ => False

theorem exists_last_on_pin {lines : List OutputLine} {pin : Pin}
    (named : pin ∈ lines.map (·.pin)) :
    ∃ (position : Nat) (line : OutputLine),
      lines[position]? = some line ∧ line.pin = pin ∧
        ∀ (later : Nat) (other : OutputLine), position < later →
          lines[later]? = some other → other.pin ≠ pin := by
  induction lines with
  | nil => cases named
  | cons head rest induction =>
      by_cases again : pin ∈ rest.map (·.pin)
      · obtain ⟨position, line, found, onPin, last⟩ := induction again
        refine ⟨position + 1, line, found, onPin, ?_⟩
        intro later other beyond otherFound
        cases later with
        | zero => cases beyond
        | succ later =>
            exact last later other (Nat.lt_of_succ_lt_succ beyond) otherFound
      · rcases List.mem_cons.mp named with here | there
        · refine ⟨0, head, rfl, here.symm, ?_⟩
          intro later other beyond otherFound samePin
          cases later with
          | zero => cases beyond
          | succ later =>
              apply again
              rw [← samePin]
              exact List.mem_map_of_mem (List.mem_of_getElem? otherFound)
        · exact (again there).elim

theorem OutputLine.level_false_ne_true (line : OutputLine) :
    line.level false ≠ line.level true := by
  rw [level, level]
  cases line.inverted <;> decide

/-- The step is none that reconfigures a pin from outside. -/
def Operation.KeepsRoles : Operation SimulatedPins → Prop
  | .pins change => ∀ pins pin, ((change pins).pin pin).role = (pins.pin pin).role
  | _ => True

theorem Operation.keepsRoles_of_leavesPins {operation : Operation SimulatedPins}
    (leaves : operation.leavesPins = true) : operation.KeepsRoles := by
  cases operation with
  | pins => cases leaves
  | read | write | tick | takeEvents | signal => trivial

namespace Controller

theorem Takes.exists_commands {β : Type} [PinDriver β] {controller : Controller β}
    {register : Register} {payload : Bytes} {pins : β} {signals : Signals}
    {pulses : Pulses}
    (takes : Takes controller register payload pins signals pulses) {pin : Pin}
    (named : pin ∈ register.behaviour.lines.map (·.pin)) :
    ∃ command, Commands register payload pin command := by
  cases takes with
  | setting behaviour | counter behaviour =>
      rw [behaviour] at named
      cases named
  | drive behaviour =>
      rw [behaviour] at named
      obtain ⟨position, line, found, onPin, last⟩ := exists_last_on_pin named
      simp only [Commands, behaviour]
      exact ⟨_, position, line, found, onPin, last, rfl⟩
  | pulse behaviour _ length =>
      rw [behaviour] at named
      have onPin := List.mem_singleton.mp named
      have integer := (pulseDuration?_eq_some_iff.mp length).1
      simp only [Commands, behaviour]
      exact ⟨_, onPin.symm, _, integer, rfl⟩

/-- The state of a pin some milliseconds after a command. -/
def Obeys (controller : Controller SimulatedPins) (pin : Pin) (elapsed : Nat) :
    Command → Prop
  | .level high =>
    (controller.pins.pin pin).level = high ∧ controller.pulses.find? pin = none
  | .pulse line duration =>
    if elapsed < duration then
      (controller.pins.pin pin).level = line.level true ∧
        controller.pulses.find? pin = some ⟨line, duration - elapsed⟩
    else
      (controller.pins.pin pin).level = line.level false ∧
        controller.pulses.find? pin = none

theorem Obeys.of_same {before after : Controller SimulatedPins} {pin : Pin}
    {elapsed : Nat} {command : Command} (obeys : before.Obeys pin elapsed command)
    (samePin : after.pins.pin pin = before.pins.pin pin)
    (samePulse : after.pulses.find? pin = before.pulses.find? pin) :
    after.Obeys pin elapsed command := by
  cases command with
  | level | pulse =>
      simp only [Obeys, samePin, samePulse] at obeys ⊢
      exact obeys

theorem Takes.obeys {controller after : Controller SimulatedPins}
    {register : Register} {payload : Bytes} {signals : Signals}
    (takes : Takes controller register payload after.pins signals after.pulses)
    {pin : Pin} {command : Command}
    (commands : Commands register payload pin command)
    (output : (controller.pins.pin pin).IsOutput) :
    after.Obeys pin 0 command := by
  generalize leftPins : after.pins = pins at takes
  generalize leftPulses : after.pulses = pulses at takes
  cases takes with
  | setting behaviour | counter behaviour =>
      simp only [Commands, behaviour] at commands
  | drive behaviour =>
      simp only [Commands, behaviour] at commands
      obtain ⟨position, line, found, onPin, last, rfl⟩ := commands
      subst onPin
      constructor
      · rw [leftPins]
        exact controller.pins.level_bitCommands _ found last output
      · rw [leftPulses, Pulses.find?_cancelEach]
        exact if_pos (List.mem_map_of_mem (List.mem_of_getElem? found))
  | pulse behaviour _ length started =>
      simp only [Commands, behaviour] at commands
      obtain ⟨onPin, duration, integer, rfl⟩ := commands
      subst onPin
      obtain ⟨agreed, positive, _⟩ := pulseDuration?_eq_some_iff.mp length
      rw [integer, Option.some.injEq, Int.ofNat_inj] at agreed
      subst agreed
      have running : 0 < duration := positive
      rw [Obeys, if_pos running]
      constructor
      · rw [leftPins, SimulatedPins.pin_drive, if_pos rfl,
          SimulatedPin.level_drive output]
      · rw [leftPulses, Pulses.find?_arm? started, if_pos rfl]
        rfl

/-- A tick that reaches the end of a pulse releases its line, and any other tick
only shortens the pulse. -/
theorem pulse_tick {controller : Controller SimulatedPins} {pin : Pin}
    {pulse : Pulse} (runs : controller.pulses.find? pin = some pulse)
    (output : (controller.pins.pin pin).IsOutput) (elapsed : Nat) :
    if pulse.remaining ≤ elapsed then
      ((controller.tick elapsed).pins.pin pin).level = pulse.line.level false ∧
        (controller.tick elapsed).pulses.find? pin = none
    else
      (controller.tick elapsed).pins.pin pin = controller.pins.pin pin ∧
        (controller.tick elapsed).pulses.find? pin =
          some ⟨pulse.line, pulse.remaining - elapsed⟩ := by
  have found : (controller.tick elapsed).pulses.find? pin = _ :=
    controller.pulses.find?_advance elapsed pin
  rw [runs, Option.bind_some] at found
  split
  · rename_i reached
    rw [if_pos reached] at found
    refine ⟨?_, found⟩
    have onPin := (Pulses.find?_eq_some_iff.mp runs).2
    subst onPin
    rw [pins_tick]
    apply SimulatedPins.level_driveEach_of_nodup
    · rw [List.map_map]
      exact controller.pulses.pins_ended_nodup elapsed
    · exact List.mem_map_of_mem
        (Pulses.mem_ended_iff.mpr ⟨pulse, runs, rfl, reached⟩)
    · exact output
  · rename_i running
    rw [if_neg running] at found
    refine ⟨?_, found⟩
    apply (controller.tick_frame elapsed).pins
    intro other otherRuns
    rw [runs] at otherRuns
    cases otherRuns
    exact Nat.lt_of_not_le running

theorem idle_tick {controller : Controller SimulatedPins} {pin : Pin}
    (idle : controller.pulses.find? pin = none) (elapsed : Nat) :
    (controller.tick elapsed).pins.pin pin = controller.pins.pin pin ∧
      (controller.tick elapsed).pulses.find? pin = none := by
  constructor
  · apply (controller.tick_frame elapsed).pins
    intro pulse runs
    rw [idle] at runs
    cases runs
  · have found : (controller.tick elapsed).pulses.find? pin = _ :=
      controller.pulses.find?_advance elapsed pin
    rw [idle] at found
    exact found

/-- Time brings a pin from its state after a command to its state at the later
time. -/
theorem Obeys.tick {controller : Controller SimulatedPins} {pin : Pin}
    {since : Nat} {command : Command} (obeys : controller.Obeys pin since command)
    (output : (controller.pins.pin pin).IsOutput) (elapsed : Nat) :
    (controller.tick elapsed).Obeys pin (since + elapsed) command := by
  cases command with
  | level high =>
      obtain ⟨level, idle⟩ := obeys
      have kept := idle_tick idle elapsed
      exact ⟨by rw [kept.1, level], kept.2⟩
  | pulse line duration =>
      rw [Obeys] at obeys ⊢
      by_cases active : since < duration
      · rw [if_pos active] at obeys
        obtain ⟨level, runs⟩ := obeys
        have passed := pulse_tick runs output elapsed
        by_cases reached : duration - since ≤ elapsed
        · rw [if_pos reached] at passed
          rw [if_neg (by omega)]
          exact passed
        · rw [if_neg reached] at passed
          rw [if_pos (by omega), passed.1, passed.2, Nat.sub_sub]
          exact ⟨level, rfl⟩
      · rw [if_neg active] at obeys
        obtain ⟨level, idle⟩ := obeys
        have kept := idle_tick idle elapsed
        rw [if_neg (by omega)]
        exact ⟨by rw [kept.1, level], kept.2⟩

/-- No write that a run accepts names the pin. -/
def Untouched (controller : Controller SimulatedPins)
    (operations : List (Operation SimulatedPins)) (pin : Pin) : Prop :=
  ∀ entry ∈ controller.acceptedWrites operations,
    ¬ controller.layout.Names entry.1 pin

/-- The command of the last accepted write that names a pin, and the milliseconds
that pass in a run after that write. -/
inductive LastCommand (pin : Pin) :
    Controller SimulatedPins → List (Operation SimulatedPins) → Command → Nat →
      Prop where
  | here {controller : Controller SimulatedPins}
      {later : List (Operation SimulatedPins)} {address : UInt8} {payload : Bytes}
      {index : Fin controller.layout.size} {command : Command} :
      (controller.write address payload).1 = .ok () →
      controller.layout.addressOf index = address →
      Commands (controller.layout.register index) payload pin command →
      (controller.write address payload).2.Untouched later pin →
      LastCommand pin controller (.write address payload :: later) command
        (Operation.totalElapsed later)
  | later {controller : Controller SimulatedPins}
      {operation : Operation SimulatedPins}
      {rest : List (Operation SimulatedPins)} {command : Command} {elapsed : Nat} :
      LastCommand pin (controller.step operation) rest command elapsed →
      LastCommand pin controller (operation :: rest) command elapsed

theorem untouched_cons {controller : Controller SimulatedPins}
    {operation : Operation SimulatedPins} {rest : List (Operation SimulatedPins)}
    {pin : Pin} :
    controller.Untouched (operation :: rest) pin ↔
      (∀ entry, controller.acceptedWrite? operation = some entry →
        ¬ controller.layout.Names entry.1 pin) ∧
      (controller.step operation).Untouched rest pin := by
  simp only [Untouched, acceptedWrites, List.mem_append, Option.mem_toList,
    or_imp, forall_and, layout_step]

theorem role_step (controller : Controller SimulatedPins)
    {operation : Operation SimulatedPins} (own : operation.leavesPins = true)
    (pin : Pin) :
    ((controller.step operation).pins.pin pin).role =
      (controller.pins.pin pin).role := by
  cases operation with
  | read address =>
      have same := (controller.read_frame address).pins
      rw [Controller.step, same]
  | write address payload => exact (controller.write_frame address payload).roles pin
  | tick elapsed => exact (controller.tick_frame elapsed).roles pin
  | takeEvents | signal => rfl
  | pins => cases own

theorem role_run_of_keepsRoles (controller : Controller SimulatedPins)
    {operations : List (Operation SimulatedPins)}
    (keep : ∀ operation ∈ operations, operation.KeepsRoles) (pin : Pin) :
    ((controller.run operations).pins.pin pin).role = (controller.pins.pin pin).role := by
  refine run_invariant
    (fun reached => (reached.pins.pin pin).role = (controller.pins.pin pin).role)
    Operation.KeepsRoles ?_ keep rfl
  intro reached operation keeps same
  rw [← same]
  cases operation with
  | pins change => exact keeps reached.pins pin
  | read | write | tick | takeEvents | signal => exact reached.role_step rfl pin

theorem isOutput_step {controller : Controller SimulatedPins}
    {operation : Operation SimulatedPins} (own : operation.leavesPins = true)
    {pin : Pin} (output : (controller.pins.pin pin).IsOutput) :
    ((controller.step operation).pins.pin pin).IsOutput := by
  rw [SimulatedPin.IsOutput, controller.role_step own pin]
  exact output

/-- A step without a new command for the pin lets time pass for the last one. -/
theorem Obeys.step {controller : Controller SimulatedPins} {pin : Pin}
    {since : Nat} {command : Command} (obeys : controller.Obeys pin since command)
    (output : (controller.pins.pin pin).IsOutput)
    {operation : Operation SimulatedPins} (own : operation.leavesPins = true)
    (quiet : ∀ entry, controller.acceptedWrite? operation = some entry →
      ¬ controller.layout.Names entry.1 pin) :
    (controller.step operation).Obeys pin (since + operation.elapsed) command := by
  cases operation with
  | read address =>
      have frame := controller.read_frame address
      apply obeys.of_same
      · exact congrArg (·.pin pin) frame.pins
      · exact congrArg (·.find? pin) frame.pulses
  | write address payload =>
      have frame := controller.write_frame address payload
      cases answer : (controller.write address payload).1 with
      | error reason =>
          rw [Controller.step, controller.write_refused answer]
          exact obeys
      | ok =>
          have unnamed := quiet (address, payload)
            (acceptedWrite?_eq_some_iff.mpr ⟨rfl, answer⟩)
          exact obeys.of_same (frame.pins pin unnamed) (frame.pulses pin unnamed)
  | tick elapsed => exact obeys.tick output elapsed
  | takeEvents | signal => exact obeys
  | pins => cases own

theorem Obeys.run {controller : Controller SimulatedPins} {pin : Pin}
    {since : Nat} {command : Command} (obeys : controller.Obeys pin since command)
    (output : (controller.pins.pin pin).IsOutput)
    {operations : List (Operation SimulatedPins)}
    (own : ∀ operation ∈ operations, operation.leavesPins = true)
    (untouched : controller.Untouched operations pin) :
    (controller.run operations).Obeys pin
      (since + Operation.totalElapsed operations) command := by
  induction operations generalizing controller since with
  | nil => exact obeys
  | cons operation rest induction =>
      rw [List.forall_mem_cons] at own
      rw [untouched_cons] at untouched
      have next := obeys.step output own.1 untouched.1
      rw [run_cons, Operation.totalElapsed, ← Nat.add_assoc]
      exact induction next (isOutput_step own.1 output) own.2 untouched.2

/-- After a run an output pin is what its last command makes of it. -/
theorem LastCommand.obeys {controller : Controller SimulatedPins} {pin : Pin}
    {operations : List (Operation SimulatedPins)} {command : Command}
    {elapsed : Nat}
    (last : LastCommand pin controller operations command elapsed)
    (output : (controller.pins.pin pin).IsOutput)
    (own : ∀ operation ∈ operations, operation.leavesPins = true) :
    (controller.run operations).Obeys pin elapsed command := by
  induction last with
  | @here controller later address payload index command accepted place commands
      untouched =>
      rw [List.forall_mem_cons] at own
      obtain ⟨taker, samePlace, _, takes⟩ := controller.write_taken accepted
      rw [controller.layout.addressOf_injective (samePlace.trans place.symm)] at takes
      have next := takes.obeys commands output
      have afterwards := next.run (isOutput_step own.1 output) own.2 untouched
      rw [Nat.zero_add] at afterwards
      exact afterwards
  | later last induction =>
      rw [List.forall_mem_cons] at own
      exact induction (isOutput_step own.1 output) own.2

/-- A pin is untouched by a run or has a last command. -/
theorem untouched_or_lastCommand (controller : Controller SimulatedPins)
    (operations : List (Operation SimulatedPins)) (pin : Pin) :
    controller.Untouched operations pin ∨
      ∃ command elapsed, LastCommand pin controller operations command elapsed := by
  induction operations generalizing controller with
  | nil =>
      left
      intro entry member
      cases member
  | cons operation rest induction =>
      rcases induction (controller.step operation) with untouched | last
      · by_cases named : ∃ entry, controller.acceptedWrite? operation = some entry ∧
            controller.layout.Names entry.1 pin
        · right
          obtain ⟨⟨address, payload⟩, written, index, place, onPin⟩ := named
          obtain ⟨rfl, accepted⟩ := acceptedWrite?_eq_some_iff.mp written
          obtain ⟨taker, samePlace, _, takes⟩ := controller.write_taken accepted
          rw [controller.layout.addressOf_injective (samePlace.trans place.symm)]
            at takes
          obtain ⟨command, commands⟩ := takes.exists_commands onPin
          exact ⟨command, _, .here accepted place commands untouched⟩
        · left
          refine untouched_cons.mpr ⟨?_, untouched⟩
          intro entry written onPin
          exact named ⟨entry, written, onPin⟩
      · right
        obtain ⟨command, elapsed, last⟩ := last
        exact ⟨command, elapsed, .later last⟩

/-- After any run that leaves the pins to the controller, an output pin has the level
it started with and no pulse until an accepted write names it; then the last such
write decides.  A driving write gives it its level and no pulse.  A pulse is active
until its time is over, with the rest of the time left on it, and inactive without a
timer from then on, so it is never active without one. -/
theorem pin_after_run {layout : Layout} {pins : SimulatedPins}
    {contents : List (UInt8 × Bytes)} {controller : Controller SimulatedPins}
    (started : Started layout pins contents controller)
    (operations : List (Operation SimulatedPins))
    (own : ∀ operation ∈ operations, operation.leavesPins = true)
    {pin : Pin} (output : (pins.pin pin).IsOutput) :
    (controller.Untouched operations pin ∨
        ∃ command elapsed, LastCommand pin controller operations command elapsed) ∧
      (controller.Untouched operations pin →
        ((controller.run operations).pins.pin pin).level = (pins.pin pin).level ∧
          (controller.run operations).pulses.remaining? pin = none) ∧
      (∀ high elapsed, LastCommand pin controller operations (.level high) elapsed →
        ((controller.run operations).pins.pin pin).level = high ∧
          (controller.run operations).pulses.remaining? pin = none) ∧
      (∀ line duration elapsed,
        LastCommand pin controller operations (.pulse line duration) elapsed →
          (elapsed < duration →
            ((controller.run operations).pins.pin pin).level = line.level true ∧
              (controller.run operations).pulses.remaining? pin =
                some (duration - elapsed)) ∧
            (duration ≤ elapsed →
              ((controller.run operations).pins.pin pin).level = line.level false ∧
                (controller.run operations).pulses.remaining? pin = none) ∧
            (((controller.run operations).pins.pin pin).level = line.level true →
              (controller.run operations).pulses.remaining? pin ≠ none)) := by
  obtain ⟨signals, loads⟩ := started.loads
  obtain ⟨samePins, noPulses⟩ := loadAll_keeps loads
  simp only at samePins noPulses
  have startOutput : (controller.pins.pin pin).IsOutput := by
    rw [samePins]
    exact output
  refine ⟨controller.untouched_or_lastCommand operations pin, ?_, ?_, ?_⟩
  · intro untouched
    have initially : controller.Obeys pin 0 (.level (pins.pin pin).level) :=
      ⟨by rw [samePins], by rw [noPulses]; rfl⟩
    have afterwards := initially.run startOutput own untouched
    exact ⟨afterwards.1, congrArg (Option.map _) afterwards.2⟩
  · intro high elapsed last
    have afterwards := last.obeys startOutput own
    exact ⟨afterwards.1, congrArg (Option.map _) afterwards.2⟩
  · intro line duration elapsed last
    have afterwards := last.obeys startOutput own
    rw [Obeys] at afterwards
    refine ⟨?_, ?_, ?_⟩
    · intro active
      rw [if_pos active] at afterwards
      exact ⟨afterwards.1, congrArg (Option.map _) afterwards.2⟩
    · intro ended
      rw [if_neg (Nat.not_lt_of_le ended)] at afterwards
      exact ⟨afterwards.1, congrArg (Option.map _) afterwards.2⟩
    · intro active
      split at afterwards
      · rw [Pulses.remaining?, afterwards.2]
        simp
      · rw [afterwards.1] at active
        exact (line.level_false_ne_true active).elim

/-- A pulse of five milliseconds on a valve has three left after two, and is over
after another three. -/
theorem pin_after_run_nosePoke :
    ∃ pins : SimulatedPins, (pins.pin NosePoke.valve0).IsOutput ∧
      ∃ controller, Started NosePoke.layout pins [] controller ∧
        ((controller.run [.write 42 [5, 0], .tick 2]).pulses.remaining?
            NosePoke.valve0 = some 3) ∧
          ((controller.run [.write 42 [5, 0], .tick 2, .read 42, .tick 3]).pins.pin
            NosePoke.valve0).level = false := by
  let pins := (PinDriver.configureOutput SimulatedPins.fresh NosePoke.valve0
    .pushPull .enabled).2
  have output : (pins.pin NosePoke.valve0).IsOutput := ⟨.pushPull, .enabled, rfl⟩
  let controller : Controller SimulatedPins :=
    { layout := NosePoke.layout, store := .zeroed, pins, signals := .clear,
      pulses := .none }
  have started : Started NosePoke.layout pins [] controller :=
    .bind (show Controller.bind NosePoke.layout 111 pins .clear = .ok _ from rfl)
  have commands : Commands (controller.layout.register ⟨10, by decide⟩) [5, 0]
      NosePoke.valve0 (.pulse ⟨NosePoke.valve0, false⟩ 5) := ⟨rfl, 5, rfl, rfl⟩
  have member : controller.layout.register ⟨10, by decide⟩ ∈
      controller.layout.registers := List.get_mem _ _
  have accepted : (controller.write 42 [5, 0]).1 = .ok () :=
    ((controller.write_answered 42 [5, 0]).ok _ member rfl rfl).mpr
      ⟨by decide, ⟨5, rfl, by decide, by decide⟩, .inl (by decide)⟩
  have early : LastCommand NosePoke.valve0 controller [.write 42 [5, 0], .tick 2]
      (.pulse ⟨NosePoke.valve0, false⟩ 5) 2 :=
    .here accepted rfl commands (by intro entry member; cases member)
  have late : LastCommand NosePoke.valve0 controller
      [.write 42 [5, 0], .tick 2, .read 42, .tick 3]
      (.pulse ⟨NosePoke.valve0, false⟩ 5) 5 :=
    .here accepted rfl commands (by intro entry member; cases member)
  refine ⟨pins, output, controller, started, ?_, ?_⟩
  · have whole := pin_after_run started [.write 42 [5, 0], .tick 2] (by decide) output
    exact ((whole.2.2.2 _ _ _ early).1 (by decide)).2
  · have whole := pin_after_run started
      [.write 42 [5, 0], .tick 2, .read 42, .tick 3] (by decide) output
    exact ((whole.2.2.2 _ _ _ late).2.1 (by decide)).1

end Controller

end Instrument

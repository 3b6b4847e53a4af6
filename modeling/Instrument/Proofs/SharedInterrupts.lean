import Instrument.Proofs.BootedPins
import Instrument.Proofs.FiredInterrupts
import Mathlib.Data.List.Nodup

/-!
# Inputs that share an interrupt line

A port line has one priority and one inversion, whatever number of inputs it watches.
Set-up arms the line anew for every input that feeds it, each time with all their pins,
so the input listed last decides both for all of them.  Apart from that an input is on
its own: no other line watches it, it is sensed in its own way, and neither the outputs
nor any move of a pin afterwards changes what it sets off.
-/

namespace Instrument

namespace Attempt

variable {ε σ α : Type}

theorem andThen_eq_accepted_iff {attempt : Attempt ε σ} {next : σ → Attempt ε σ} {after : σ} :
    attempt.andThen next = accepted after ↔
      ∃ middle, attempt = accepted middle ∧ next middle = accepted after := by
  obtain ⟨outcome, state⟩ := attempt
  cases outcome with
  | error reason => simp [andThen, refused, accepted]
  | ok _ => simp [andThen, accepted]

theorem forEach_cons_eq_accepted_iff {step : σ → α → Attempt ε σ} {item : α}
    {rest : List α} {state after : σ} :
    forEach step (item :: rest) state = accepted after ↔
      ∃ middle, step state item = accepted middle ∧
        forEach step rest middle = accepted after :=
  andThen_eq_accepted_iff

theorem forEach_keeps {step : σ → α → Attempt ε σ} (holds : σ → Prop) {items : List α}
    (keeps : ∀ item ∈ items, ∀ state after, step state item = accepted after →
      holds state → holds after)
    {state after : σ} (taken : forEach step items state = accepted after)
    (initially : holds state) : holds after := by
  induction items generalizing state with
  | nil =>
      cases taken
      exact initially
  | cons item rest induction =>
      rw [List.forall_mem_cons] at keeps
      obtain ⟨middle, stepped, continued⟩ := forEach_cons_eq_accepted_iff.mp taken
      exact induction keeps.2 continued (keeps.1 state middle stepped initially)

end Attempt

/-- The settings of the input listed last among those that feed a line of a port. -/
def lastSetup? (inputs : List InputSetup) (port : Port) (line : InterruptLine) :
    Option InterruptSetup :=
  (inputs.filter (·.feeds port line)).getLast?.bind (·.interrupt)

namespace InputSetup

/-- The line that a step of an input sets off by some interrupt settings: the line of the
settings, if it is enabled and the input senses the step in the logic of the settings. -/
def firedBy (input : InputSetup) (interrupt : InterruptSetup) (was now : Bool) :
    Option InterruptLine :=
  if interrupt.priority ≠ .off ∧
      input.sense.fires (was != interrupt.inverted) (now != interrupt.inverted) = true then
    some interrupt.line
  else
    none

/-- The line that a step of an input should set off by the settings of its own. -/
def ownLine? (input : InputSetup) (was now : Bool) : Option InterruptLine :=
  input.interrupt.bind fun own => input.firedBy own was now

/-- The settings that the line of an input is left with. -/
def deciding? (inputs : List InputSetup) (input : InputSetup) : Option InterruptSetup :=
  input.interrupt.bind fun own => lastSetup? inputs input.pin.port own.line

theorem feeds_iff {input : InputSetup} {port : Port} {line : InterruptLine} :
    input.feeds port line = true ↔
      input.pin.port = port ∧ ∃ interrupt, input.interrupt = some interrupt ∧
        interrupt.line = line := by
  simp [feeds, Option.any_eq_true]

end InputSetup

theorem lastSetup?_cons (input : InputSetup) (rest : List InputSetup) (port : Port)
    (line : InterruptLine) :
    lastSetup? (input :: rest) port line =
      (lastSetup? rest port line).or
        (if input.feeds port line then input.interrupt else none) := by
  have fed : ∀ last, (rest.filter (·.feeds port line)).getLast? = some last →
      ∃ interrupt, last.interrupt = some interrupt := by
    intro last found
    have feeds := (List.mem_filter.mp (List.mem_of_getLast? found)).2
    obtain ⟨_, interrupt, present, _⟩ := InputSetup.feeds_iff.mp feeds
    exact ⟨interrupt, present⟩
  rw [lastSetup?, lastSetup?, List.filter_cons]
  cases found : (rest.filter (·.feeds port line)).getLast? with
  | none =>
      rw [List.getLast?_eq_none_iff] at found
      rw [found]
      split <;> rfl
  | some last =>
      obtain ⟨interrupt, present⟩ := fed last found
      split
      · rw [List.getLast?_cons, found, Option.getD_some, Option.bind_some, present]
        rfl
      · rw [found, Option.bind_some, present, Option.some_or]

theorem line_of_lastSetup? {inputs : List InputSetup} {port : Port} {line : InterruptLine}
    {last : InterruptSetup} (found : lastSetup? inputs port line = some last) :
    last.line = line := by
  obtain ⟨input, isLast, present⟩ := Option.bind_eq_some_iff.mp found
  have feeds := (List.mem_filter.mp (List.mem_of_getLast? isLast)).2
  obtain ⟨_, interrupt, same, feedsLine⟩ := InputSetup.feeds_iff.mp feeds
  rw [present] at same
  cases same
  exact feedsLine

theorem exists_lastSetup? {inputs : List InputSetup} {input : InputSetup}
    (listed : input ∈ inputs) {port : Port} {line : InterruptLine}
    (feeds : input.feeds port line = true) :
    ∃ other ∈ inputs, other.feeds port line = true ∧
      lastSetup? inputs port line = other.interrupt := by
  have fed : inputs.filter (·.feeds port line) ≠ [] := by
    intro none
    exact List.filter_eq_nil_iff.mp none input listed feeds
  have last := List.mem_filter.mp (List.getLast_mem fed)
  refine ⟨_, last.1, last.2, ?_⟩
  rw [lastSetup?, List.getLast?_eq_some_getLast fed, Option.bind_some]

/-- A line of a port ends up with the settings of the last input that feeds it, and with
what it had before if no input does. -/
theorem get_armEach (all inputs : List InputSetup) (table : InterruptTable) (port : Port)
    (line : InterruptLine) :
    ((armEach all table inputs).get port).get line =
      ((lastSetup? inputs port line).map fun last =>
          ⟨last.priority, sharedMask all port line, last.inverted⟩).or
        ((table.get port).get line) := by
  induction inputs generalizing table with
  | nil => rfl
  | cons input rest induction =>
      rw [lastSetup?_cons, Option.map_or, Option.or_assoc]
      cases present : input.interrupt with
      | none =>
          have idle : input.feeds port line = false := by
            rw [← Bool.not_eq_true, InputSetup.feeds_iff, present]
            simp
          simp only [armEach, present]
          rw [induction, idle]
          rfl
      | some interrupt =>
          simp only [armEach, present]
          rw [induction, InterruptTable.get_arm]
          congr 1
          by_cases feeds : input.feeds port line = true
          · obtain ⟨samePort, own, found, sameLine⟩ := InputSetup.feeds_iff.mp feeds
            rw [present] at found
            cases found
            subst samePort sameLine
            rw [if_pos rfl, if_pos feeds, PortInterrupts.get_arm, if_pos rfl]
            rfl
          · rw [if_neg feeds]
            rw [InputSetup.feeds_iff, present] at feeds
            split
            · rename_i samePort
              subst samePort
              rw [PortInterrupts.get_arm, if_neg]
              · rfl
              · intro sameLine
                exact feeds ⟨rfl, interrupt, rfl, sameLine.symm⟩
            · rfl

namespace PortInterrupts

theorem sensed?_of_others_idle {lines : PortInterrupts} {pin : Pin} {line : InterruptLine}
    (idle : ∀ other, other ≠ line → ∀ armed, lines.get other = some armed →
      armed.watches pin = false) (sense : Sense) (was now : Bool) :
    lines.sensed? pin sense was now =
      ((lines.get line).filter fun armed =>
        armed.watches pin && (sense.trigger armed.inverted).isMet was now).map
          fun _ => line := by
  have silent : ∀ other, other ≠ line → ((lines.get other).filter fun armed =>
      armed.watches pin && (sense.trigger armed.inverted).isMet was now) = none := by
    intro other different
    rw [Option.filter_eq_none_iff]
    intro armed present
    simp [idle other different armed present]
  simp only [sensed?, firstLine?_eq, Option.map_or, Option.map_map, Function.comp_def]
  cases line with
  | int0 =>
      have second := silent .int1 (by decide)
      simp only [get] at second
      simp only [second, get, Option.map_none, Option.or_none]
  | int1 =>
      have first := silent .int0 (by decide)
      simp only [get] at first
      simp only [first, get, Option.map_none, Option.none_or]

end PortInterrupts

theorem watches_sharedMask_iff {inputs : List InputSetup}
    (distinct : (inputs.map (·.pin)).Nodup)
    (real : ∀ input ∈ inputs, input.pin.isReal = true) {input : InputSetup}
    (listed : input ∈ inputs) (priority : Priority) (line : InterruptLine) (inverted : Bool) :
    (ArmedInterrupt.mk priority (sharedMask inputs input.pin.port line) inverted).watches
        input.pin = true ↔
      priority ≠ .off ∧ input.feeds input.pin.port line = true := by
  rw [ArmedInterrupt.watches, Bool.and_eq_true, bne_iff_ne, bne_iff_ne,
    Pin.and_mask_ne_zero_iff, getLsbD_sharedMask]
  refine and_congr_right fun _ => ?_
  constructor
  · intro selected
    obtain ⟨other, otherListed, feeds, sameBit⟩ := selected
    have samePin := Pin.eq_of_mod_bit_eq (real other otherListed) (real input listed)
      (InputSetup.feeds_iff.mp feeds).1 sameBit
    have same := List.inj_on_of_nodup_map distinct otherListed listed samePin
    rw [← same]
    rw [← same] at feeds
    exact feeds
  · intro feeds
    exact ⟨input, listed, feeds, rfl⟩

namespace SimulatedPins

open PinDriver

theorem configure_eq_accepted_iff {pins after : SimulatedPins} {pin : Pin}
    {change : SimulatedPin → SimulatedPin} :
    pins.configure pin change = .accepted after ↔
      pin.isReal = true ∧ pins.modify pin change = after := by
  rw [configure]
  by_cases real : pin.isReal = true
  · simp [real, Attempt.accepted]
  · simp [real, Attempt.accepted, Attempt.refused]

theorem isReal_of_setUpInputs {inputs : List InputSetup} {pins after : SimulatedPins}
    (accepted : Attempt.forEach setUpInput inputs pins = .accepted after) :
    ∀ input ∈ inputs, input.pin.isReal = true := by
  induction inputs generalizing pins with
  | nil => exact List.forall_mem_nil _
  | cons input rest induction =>
      obtain ⟨middle, configured, continued⟩ :=
        Attempt.forEach_cons_eq_accepted_iff.mp accepted
      rw [List.forall_mem_cons]
      exact ⟨(configure_eq_accepted_iff.mp configured).1, induction continued⟩

theorem keeps_of_setUpOutput {pins after : SimulatedPins} {output : OutputSetup}
    (accepted : setUpOutput pins output = .accepted after) :
    after.interrupts = pins.interrupts ∧
      ∀ pin, pin ≠ output.pin → after.pin pin = pins.pin pin := by
  obtain ⟨middle, configured, driven⟩ := Attempt.andThen_eq_accepted_iff.mp accepted
  obtain ⟨real, rfl⟩ := configure_eq_accepted_iff.mp configured
  cases driven
  constructor
  · rw [interrupts_drive]
    rfl
  · intro pin other
    have offLine : pin ≠ output.line.pin := other
    rw [pin_drive, if_neg offLine, pin_modify_of_isReal _ real, if_neg other]

/-- The inputs of a table are set up, and every line is armed as the table leaves it. -/
structure SetUpAs (pins : SimulatedPins) (inputs : List InputSetup) : Prop where
  real : ∀ input ∈ inputs, input.pin.isReal = true
  roles : ∀ input ∈ inputs, (pins.pin input.pin).role = .input input.pull input.sense
  interrupts : pins.interrupts = armEach inputs .empty inputs

variable {inputs : List InputSetup} {outputs : List OutputSetup} {pins after : SimulatedPins}

theorem setUpAs_of_accepted (distinct : (inputs.map (·.pin)).Nodup)
    (apart : ∀ output ∈ outputs, output.pin ∉ inputs.map (·.pin))
    (unarmed : pins.interrupts = .empty)
    (accepted : setUpPins pins inputs outputs = .accepted after) :
    after.SetUpAs inputs := by
  obtain ⟨configured, first, armedAndDriven⟩ := Attempt.andThen_eq_accepted_iff.mp accepted
  obtain ⟨armed, second, third⟩ := Attempt.andThen_eq_accepted_iff.mp armedAndDriven
  have real := isReal_of_setUpInputs first
  have present : ∀ (bank : SimulatedPins), ∀ input ∈ inputs,
      (cellwise.cell? bank input.pin).isSome = true := by
    intro bank input listed
    have cell := bank.get?_cells input.pin
    rw [if_pos (real input listed)] at cell
    exact Option.isSome_iff_exists.mpr ⟨_, cell⟩
  obtain ⟨_, again, taken, _, firstTable⟩ := cellwise.forEach_changed setUpInput (·.pin)
    (fun input => cellwise.asInput input.pull input.sense)
    (fun _ input there => cellwise.configureInput input.pull input.sense there)
    distinct (present pins)
  rw [first] at again
  cases again
  obtain ⟨_, again, cells, secondTable⟩ :=
    cellwise.forEach_armInput (present configured) (fun _ listed => listed)
  rw [second] at again
  cases again
  refine Attempt.forEach_keeps (·.SetUpAs inputs) ?_ third ⟨real, ?_, ?_⟩
  · intro output listed before driven step setUp
    obtain ⟨table, others⟩ := keeps_of_setUpOutput step
    refine ⟨real, ?_, table.trans setUp.interrupts⟩
    intro input member
    have other : input.pin ≠ output.pin := by
      intro same
      exact apart output listed (same ▸ List.mem_map_of_mem member)
    rw [others input.pin other]
    exact setUp.roles input member
  · intro input listed
    have cell := (cells input.pin).trans (taken input listed)
    rw [pin_eq_of_cell? (real input listed) cell]
    exact (pins.pin input.pin).role_becomeInput input.pull input.sense
  · have table : armed.interrupts = armEach inputs configured.interrupts inputs := secondTable
    have untouched : configured.interrupts = pins.interrupts := firstTable
    rw [table, untouched, unarmed]

/-- The pins after some of them are moved from outside, in order. -/
def moved (pins : SimulatedPins) (moves : List (Pin × Bool)) : SimulatedPins :=
  moves.foldl (fun pins move => (pins.driveInput move.1 move.2).2) pins

theorem SetUpAs.moved (setUp : pins.SetUpAs inputs) (moves : List (Pin × Bool)) :
    (pins.moved moves).SetUpAs inputs := by
  induction moves generalizing pins with
  | nil => exact setUp
  | cons move rest induction =>
      apply induction
      refine ⟨setUp.real, ?_, ?_⟩
      · intro input listed
        rw [role_pin_driveInput]
        exact setUp.roles input listed
      · rw [interrupts_driveInput]
        exact setUp.interrupts

theorem SetUpAs.get_line (setUp : pins.SetUpAs inputs) (port : Port) (line : InterruptLine) :
    (pins.interrupts.get port).get line =
      (lastSetup? inputs port line).map fun last =>
        ⟨last.priority, sharedMask inputs port line, last.inverted⟩ := by
  have unarmed : (InterruptTable.empty.get port).get line = none := by
    cases port <;> cases line <;> rfl
  rw [setUp.interrupts, get_armEach, unarmed, Option.or_none]

/-- A line that an input does not feed does not watch it. -/
theorem SetUpAs.idle (setUp : pins.SetUpAs inputs) (distinct : (inputs.map (·.pin)).Nodup)
    {input : InputSetup} (listed : input ∈ inputs) {line : InterruptLine}
    (unfed : input.feeds input.pin.port line ≠ true) {armed : ArmedInterrupt}
    (present : (pins.interrupts.get input.pin.port).get line = some armed) :
    armed.watches input.pin = false := by
  rw [setUp.get_line, Option.map_eq_some_iff] at present
  obtain ⟨last, _, rfl⟩ := present
  rw [← Bool.not_eq_true, watches_sharedMask_iff distinct setUp.real listed]
  exact fun watched => unfed watched.2

/-- An input that is moved sets off the line it feeds by the settings that the line was
left with, and no other line. -/
theorem SetUpAs.fst_driveInput (setUp : pins.SetUpAs inputs)
    (distinct : (inputs.map (·.pin)).Nodup) {input : InputSetup} (listed : input ∈ inputs)
    (high : Bool) :
    (pins.driveInput input.pin high).1 =
      (input.deciding? inputs).bind fun deciding =>
        input.firedBy deciding (pins.pin input.pin).level high := by
  have idle : ∀ line, input.feeds input.pin.port line ≠ true → ∀ armed,
      (pins.interrupts.get input.pin.port).get line = some armed →
        armed.watches input.pin = false :=
    fun _ unfed _ present => setUp.idle distinct listed unfed present
  rw [SimulatedPins.fst_driveInput (setUp.roles input listed), InputSetup.deciding?]
  simp only [ne_eq, InputSetup.feeds_iff, true_and] at idle
  cases own : input.interrupt with
  | none =>
      simp only [own] at idle
      have others : ∀ other, other ≠ InterruptLine.int0 → ∀ armed,
          (pins.interrupts.get input.pin.port).get other = some armed →
            armed.watches input.pin = false :=
        fun other _ => idle other (by simp)
      rw [PortInterrupts.sensed?_of_others_idle others, Option.bind_none, Option.bind_none,
        Option.map_eq_none_iff, Option.filter_eq_none_iff]
      intro armed present
      simp [idle .int0 (by simp) armed present]
  | some setup =>
      have others : ∀ other, other ≠ setup.line → ∀ armed,
          (pins.interrupts.get input.pin.port).get other = some armed →
            armed.watches input.pin = false := by
        intro other different
        apply idle
        rw [own]
        rintro ⟨_, same, feedsOther⟩
        cases same
        exact different feedsOther.symm
      have feeds : input.feeds input.pin.port setup.line = true :=
        InputSetup.feeds_iff.mpr ⟨rfl, setup, own, rfl⟩
      rw [PortInterrupts.sensed?_of_others_idle others, setUp.get_line, Option.bind_some]
      cases found : lastSetup? inputs input.pin.port setup.line with
      | none => rfl
      | some last =>
          have watches := watches_sharedMask_iff distinct setUp.real listed last.priority
            setup.line last.inverted
          rw [feeds] at watches
          rw [Option.map_some, Option.bind_some, InputSetup.firedBy, line_of_lastSetup? found,
            Option.filter_some]
          simp only [Bool.and_eq_true, watches, and_true, Sense.fires_eq_isMet]
          split <;> rfl

/-- An input that is moved sets off a line by its own sense and by the priority and the
inversion of the input listed last among those that feed its line.  Where these agree
with its own, as they do where all inputs of a line are set up alike, it follows its own
settings and nothing else. -/
theorem driveInput_follows_last (distinct : (inputs.map (·.pin)).Nodup)
    (apart : ∀ output ∈ outputs, output.pin ∉ inputs.map (·.pin))
    (accepted : setUpPins fresh inputs outputs = .accepted after)
    (moves : List (Pin × Bool)) {input : InputSetup} (listed : input ∈ inputs) (high : Bool) :
    ((after.moved moves).driveInput input.pin high).1 =
        ((input.deciding? inputs).bind fun deciding =>
          input.firedBy deciding ((after.moved moves).pin input.pin).level high) ∧
      ((∀ other ∈ inputs, ∀ line, other.feeds input.pin.port line = true →
          input.feeds input.pin.port line = true → other.interrupt = input.interrupt) →
        ((after.moved moves).driveInput input.pin high).1 =
          input.ownLine? ((after.moved moves).pin input.pin).level high) := by
  have setUp := (setUpAs_of_accepted distinct apart rfl accepted).moved moves
  have fired := setUp.fst_driveInput distinct listed high
  refine ⟨fired, ?_⟩
  intro alike
  rw [fired, InputSetup.deciding?, InputSetup.ownLine?]
  cases own : input.interrupt with
  | none => rfl
  | some setup =>
      have feeds : input.feeds input.pin.port setup.line = true :=
        InputSetup.feeds_iff.mpr ⟨rfl, setup, own, rfl⟩
      obtain ⟨other, otherListed, otherFeeds, last⟩ := exists_lastSetup? listed feeds
      rw [Option.bind_some, last, alike other otherListed setup.line otherFeeds feeds, own]

/-- Two inputs on one line that both sense a rise, the second one in inverted logic. -/
def opposed : List InputSetup := [
  { name := "A", pin := ⟨.d, 4⟩, pull := .up, sense := .rising,
    interrupt := some { line := .int0, priority := .low } },
  { name := "B", pin := ⟨.d, 5⟩, pull := .up, sense := .rising,
    interrupt := some { line := .int0, priority := .low, inverted := true } }]

def opposedPins : SimulatedPins := (setUpPins fresh opposed []).2

theorem opposed_distinct : (opposed.map (·.pin)).Nodup := by decide

theorem opposed_accepted : setUpPins fresh opposed [] = .accepted opposedPins := by
  have accepted : (setUpPins fresh opposed []).1 = .ok () := rfl
  exact Prod.ext accepted rfl

theorem level_opposedPins : (opposedPins.pin ⟨.d, 4⟩).level = true := rfl

/-- The first of the two is set off by its fall, in the logic of the second. -/
theorem driveInput_ignores_own_inversion :
    ¬ ∀ (inputs : List InputSetup) (outputs : List OutputSetup) (after : SimulatedPins),
      (inputs.map (·.pin)).Nodup → (∀ output ∈ outputs, output.pin ∉ inputs.map (·.pin)) →
        setUpPins fresh inputs outputs = .accepted after →
          ∀ input ∈ inputs, ∀ high, (after.driveInput input.pin high).1 =
            input.ownLine? (after.pin input.pin).level high := by
  intro follows
  have claimed := follows opposed [] opposedPins opposed_distinct
    (List.forall_mem_nil _) opposed_accepted _ List.mem_cons_self false
  have fired : (opposedPins.driveInput ⟨.d, 4⟩ false).1 = some .int0 := rfl
  rw [fired] at claimed
  change _ = InputSetup.ownLine? _ (opposedPins.pin ⟨.d, 4⟩).level false at claimed
  rw [level_opposedPins] at claimed
  exact absurd claimed (by decide)

/-- Of two inputs that oppose each other the second one decides, for the first one too;
the beam of the first poke port, alone on its line, follows its own settings. -/
theorem driveInput_follows_last_opposed :
    (opposedPins.driveInput ⟨.d, 4⟩ false).1 = some .int0 ∧
      ((opposedPins.moved [(⟨.d, 4⟩, false)]).driveInput ⟨.d, 4⟩ true).1 = none ∧
      ((NosePoke.setUp fresh).2.driveInput NosePoke.beam0 false).1 = some .int0 := by
  have first : ∀ moves high, _ := fun moves high =>
    @driveInput_follows_last opposed [] _ opposed_distinct (List.forall_mem_nil _)
      opposed_accepted moves _ List.mem_cons_self high
  have alike : ∀ other ∈ NosePoke.inputs, ∀ line, other.feeds .d line = true →
      (NosePoke.interrupting (NosePoke.pulledUp "POKE0_IR" NosePoke.beam0)).feeds .d line =
        true →
      other.interrupt = some { line := .int0, priority := .low } := by
    intro other listed line
    cases line <;> revert other <;> decide
  have accepted : setUpPins fresh NosePoke.inputs NosePoke.outputs =
      .accepted (NosePoke.setUp fresh).2 := rfl
  have beam := driveInput_follows_last (by decide) (by decide) accepted []
    List.mem_cons_self false
  -- With its level at hand a pin sets off what a small table tells.
  have low : ((opposedPins.moved [(⟨.d, 4⟩, false)]).pin ⟨.d, 4⟩).level = false := rfl
  have beamHigh : ((NosePoke.setUp fresh).2.pin NosePoke.beam0).level = true := rfl
  refine ⟨(first [] false).1.trans ?_, (first [(⟨.d, 4⟩, false)] true).1.trans ?_,
    (beam.2 alike).trans ?_⟩
  · change Option.bind _ (fun deciding =>
      InputSetup.firedBy _ deciding (opposedPins.pin ⟨.d, 4⟩).level false) = _
    rw [level_opposedPins]
    decide
  · change Option.bind _ (fun deciding => InputSetup.firedBy _ deciding
      ((opposedPins.moved [(⟨.d, 4⟩, false)]).pin ⟨.d, 4⟩).level true) = _
    rw [low]
    decide
  · change InputSetup.ownLine? _ ((NosePoke.setUp fresh).2.pin NosePoke.beam0).level false = _
    rw [beamHigh]
    decide

end SimulatedPins

end Instrument

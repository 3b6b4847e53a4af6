import Instrument.Proofs.AnalogFrames
import Instrument.Proofs.TaskCalls

/-!
# Complete samples

A sample counts if all of its conversions succeed: it latches the frame of its readings and
raises the event of the frame once.  One whose conversion fails, wherever it does, changes
nothing.  So the register always shows the last complete sample, whatever else is done.
-/

namespace Instrument.Firmware

open Board NosePoke Controller

/-- The readings of a sample of which every conversion succeeded. -/
def readings? (conversions : Conversions) : Option (Vector UInt16 5) :=
  if none ∈ conversions then none else some (conversions.map (·.getD 0))

/-- The frame of five readings: the inputs in volts, the temperature, and a channel at zero. -/
def channels (readings : Vector UInt16 5) : Vector Binary32 6 :=
  #v[.ofRat (volts readings[0]), .ofRat (volts readings[1]), .ofRat (volts readings[2]),
    .ofRat (volts readings[3]), .ofRat (celsius readings[4]), ⟨0⟩]

theorem readings?_eq_some_iff {conversions : Conversions} {readings : Vector UInt16 5} :
    readings? conversions = some readings ↔ conversions = readings.map some := by
  rw [readings?]
  constructor
  · intro complete
    split at complete
    · cases complete
    · rename_i present
      cases complete
      ext place bound
      have found : conversions[place] ≠ none := by
        intro missing
        exact present (missing ▸ conversions.getElem_mem bound)
      obtain ⟨reading, same⟩ := Option.ne_none_iff_exists'.mp found
      simp [same]
  · intro complete
    subst complete
    have present : none ∉ readings.map some := by simp
    rw [if_neg present, Vector.map_map]
    exact congrArg some (Vector.map_id _)

theorem readings?_eq_none_iff {conversions : Conversions} :
    readings? conversions = none ↔ none ∈ conversions := by
  simp [readings?]

theorem frame?_eq (conversions : Conversions) :
    frame? conversions = (readings? conversions).map channels := by
  cases complete : readings? conversions with
  | none =>
      have missing := Vector.mem_toList_iff.mpr (readings?_eq_none_iff.mp complete)
      rw [frame?]
      split
      · rename_i present
        rw [present] at missing
        simp at missing
      · rfl
  | some readings =>
      rw [readings?_eq_some_iff.mp complete]
      obtain ⟨⟨list⟩, sized⟩ := readings
      match list, sized with
      | [_, _, _, _, _], _ => simp [frame?, channels]

theorem sample_eq (signals : Signals) (conversions : Conversions) :
    sample signals conversions =
      match readings? conversions with
      | some readings =>
        (signals.latch analogWindow (frameBytes (channels readings))).raise analogIndex
      | none => signals := by
  rw [sample, frame?_eq]
  cases readings? conversions with
  | none => rfl
  | some readings => exact onAnalogFrame_eq signals (channels readings)

theorem latched_onPortInterrupt (signals : Signals) (port : Port) (line : InterruptLine) :
    (onPortInterrupt signals port line).latched = signals.latched := by
  by_cases shared : line = inputLine
  · subst shared
    cases port <;> rfl
  · rw [onPortInterrupt_of_line_ne _ _ shared]

namespace Call

def readings? : Call → Option (Vector UInt16 5)
  | .sample conversions => Firmware.readings? conversions
  | _ => none

theorem analogBytes_after (controller : Controller ChipPins) (call : Call) :
    analogBytes (call.after controller).signals =
      (call.readings?.map fun readings => frameBytes (channels readings)).getD
        (analogBytes controller.signals) := by
  rw [signals_after]
  cases call with
  | serve request =>
      cases request with
      | read => rfl
      | write address payload =>
          have spares : sparesFrame (.write address payload.bytes : Operation ChipPins) = true :=
            rfl
          exact analogBytes_step spares
  | tick => rfl
  | interrupt port line =>
      exact congrArg (Store.view · _ _) (latched_onPortInterrupt controller.signals port line)
  | sample conversions =>
      simp only [sample_eq, readings?]
      cases Firmware.readings? conversions with
      | none => rfl
      | some readings =>
          rw [analogBytes, Signals.latched_raise]
          exact analogBytes_latch controller.signals (channels readings)
  | external => rfl

theorem analogBytes_afterAll (controller : Controller ChipPins) (calls : List Call) :
    analogBytes (afterAll controller calls).signals =
      ((calls.filterMap readings?).getLast?.map fun readings => frameBytes (channels readings)).getD
        (analogBytes controller.signals) := by
  induction calls generalizing controller with
  | nil => rfl
  | cons call rest induction =>
      have later := induction (call.after controller)
      rw [analogBytes_after] at later
      refine later.trans ?_
      cases complete : call.readings? with
      | none => rw [List.filterMap_cons_none complete, Option.map_none, Option.getD_none]
      | some readings =>
          rw [List.filterMap_cons_some complete, List.getLast?_cons]
          cases (rest.filterMap readings?).getLast? <;> rfl

end Call

/-- Whether a step raises the event of the analog frame. -/
def raisesFrame {β : Type} : Operation β → Bool
  | .signal (.raise index) => index == analogIndex
  | _ => false

namespace Call

/-- A complete sample raises the event of the frame once, and no other call does. -/
theorem countP_operations (controller : Controller ChipPins) (call : Call) :
    (call.operations controller).countP raisesFrame = call.readings?.toList.length := by
  cases call with
  | serve request =>
      cases request with
      | read => rfl
      | write address payload =>
          rw [operations]
          cases (controller.write address payload.bytes).1 <;> rfl
  | tick =>
      have reads : ∀ addresses : List UInt8,
          (addresses.map fun address => (.read address : Operation ChipPins)).countP raisesFrame =
            0 := by
        intro addresses
        rw [List.countP_map, List.countP_eq_zero]
        intro address _
        exact Bool.false_ne_true
      exact reads _
  | interrupt port line =>
      by_cases shared : line = inputLine
      · subst shared
        cases port <;> rfl
      · have none : (Call.interrupt port line).operations controller = [] := if_neg shared
        rw [none]
        rfl
  | sample conversions =>
      rw [operations, readings?, frame?_eq]
      cases Firmware.readings? conversions with
      | none => rfl
      | some readings =>
          rw [Option.map_some, Option.bind_some, encode?_frame]
          rfl
  | external => rfl

theorem countP_along (controller : Controller ChipPins) (calls : List Call) :
    (along operations controller calls).countP raisesFrame =
      (calls.filterMap readings?).length := by
  induction calls generalizing controller with
  | nil => rfl
  | cons call rest induction =>
      rw [along, List.countP_append, countP_operations, induction, List.filterMap_cons]
      cases call.readings? with
      | none => exact Nat.zero_add _
      | some readings => exact Nat.add_comm _ _

end Call

/-- What samples have left of themselves after some calls. -/
structure LatestSample (controller : Controller ChipPins) (calls : List Call) : Prop where
  /-- The register shows the last complete sample, or zeros before any. -/
  read : ((Call.afterAll controller calls).read analogAddress).1 =
    .ok (((calls.filterMap Call.readings?).getLast?.map fun readings =>
      frameBytes (channels readings)).getD (Bytes.zeros 24))
  /-- The calls are runs of steps. -/
  steps : Call.afterAll controller calls =
    controller.run (Call.along Call.operations controller calls)
  /-- As many of the steps raise the event of the frame as samples are complete. -/
  raised : (Call.along Call.operations controller calls).countP raisesFrame =
    (calls.filterMap Call.readings?).length
  /-- The frame is an event exactly if a step raised it since the events were last taken. -/
  flagged : analogAddress ∈ (Call.afterAll controller calls).takeEvents.1 ↔
    RaisedSince analogIndex (Call.along Call.operations controller calls)

theorem latestSample_booted (chip : ChipPins) (calls : List Call) :
    LatestSample (booted chip) calls where
  read := by
    rw [read_analog (Call.layout_afterAll _ _), Call.analogBytes_afterAll]
    rfl
  steps := Call.afterAll_eq_run _ _
  raised := Call.countP_along _ _
  flagged := by
    have lowered : (booted chip).signals.flags.getLsbD analogIndex = false :=
      BitVec.getLsbD_zero
    have present : analogIndex < Signals.flagCount := by decide
    rw [mem_takeEvents_analog (Call.layout_afterAll _ _), Call.afterAll_eq_run,
      getLsbD_flags_run, lowered]
    simp [present]

/-- Booted with anything applied to its pads, the machine shows after any calls, and so in
every run, the last sample of which all five conversions succeeded, and has raised its event
once for each such sample; a sample with a conversion that failed changes nothing at all. -/
theorem latest_complete_sample (external : List (Pin × Option Bool)) :
    ∃ machine, Machine.boot external = .ok machine ∧
      (∀ calls, LatestSample machine.controller calls) ∧
      (∀ actions, (machine.follow actions).controller =
        Call.afterAll machine.controller (machine.history actions)) ∧
      ∀ (controller : Controller ChipPins) (conversions : Conversions), none ∈ conversions →
        (Call.sample conversions).after controller = controller := by
  obtain ⟨chip, _, _, boots⟩ := Machine.boot_waits external
  refine ⟨_, boots, latestSample_booted chip, Machine.controller_follow _, ?_⟩
  intro controller conversions missing
  rw [Call.after, sample_eq, readings?_eq_none_iff.mpr missing]

/-- A sample in which the temperature fails leaves the frame of the sample before it. -/
theorem latest_complete_sample_failed :
    ∃ machine, Machine.boot [] = .ok machine ∧
      none ∈ (#v[some 7, some 7, some 7, some 7, none] : Conversions) ∧
      ((Call.afterAll machine.controller
          [.sample #v[some 1, some 2, some 3, some 4, some 5],
            .sample #v[some 7, some 7, some 7, some 7, none]]).read analogAddress).1 =
        .ok (frameBytes (channels #v[1, 2, 3, 4, 5])) := by
  obtain ⟨machine, boots, latest, _, failed⟩ := latest_complete_sample []
  have missing : none ∈ (#v[some 7, some 7, some 7, some 7, none] : Conversions) := by simp
  have complete : [Call.sample #v[some 1, some 2, some 3, some 4, some 5]].filterMap
      Call.readings? = [#v[1, 2, 3, 4, 5]] := by
    have readings : (Call.sample #v[some 1, some 2, some 3, some 4, some 5]).readings? =
        some #v[1, 2, 3, 4, 5] := readings?_eq_some_iff.mpr (by simp)
    rw [List.filterMap_cons_some readings, List.filterMap_nil]
  have shown := (latest [.sample #v[some 1, some 2, some 3, some 4, some 5]]).read
  rw [complete] at shown
  refine ⟨machine, boots, missing, ?_⟩
  rw [Call.afterAll, List.foldl_cons, List.foldl_cons, failed _ _ missing]
  exact shown

end Instrument.Firmware

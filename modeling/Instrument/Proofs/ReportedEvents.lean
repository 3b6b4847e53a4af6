import Instrument.NosePoke.Registers
import Instrument.Proofs.Frames
import Instrument.Proofs.SignalHistory

/-!
# Reported events

Event flags are raised by interrupt routines at any time and lowered all at once when
they are taken or cleared.  A flag is therefore up exactly if it was raised since it
was last lowered, and taking the events reports the flagged registers that may be
reported, each once and in address order.  Flags without such a register are lost on
the way without a trace.
-/

namespace Instrument

namespace Layout

/-- Whether the flag of an index has a register that may be reported. -/
def reports (layout : Layout) (index : Nat) : Bool :=
  (layout.registers[index]?).any (·.descriptor.access.event)

theorem reports_iff (layout : Layout) (index : Fin layout.size) :
    layout.reports index = true ↔
      (layout.register index).descriptor.access.event = true := by
  have found : layout.registers[(index : Nat)]? = some (layout.register index) :=
    List.getElem?_eq_getElem index.isLt
  rw [reports, found, Option.any_some]

end Layout

namespace Operation

variable {β : Type}

/-- Whether a step lowers all event flags. -/
def lowersFlags : Operation β → Bool
  | .takeEvents | .signal .takeFlags | .signal .clear => true
  | _ => false

/-- Whether a step raises a flag whose register is never reported. -/
def raisesUnreported (layout : Layout) : Operation β → Bool
  | .signal (.raise index) => !layout.reports index
  | _ => false

/-- The event flags after a step. -/
def flagsAfter (flags : BitVec 32) : Operation β → BitVec 32
  | .takeEvents | .signal .takeFlags | .signal .clear => 0
  | .signal (.raise index) => ({ Signals.clear with flags }.raise index).flags
  | _ => flags

theorem raisesUnreported_iff {layout : Layout} {operation : Operation β} :
    operation.raisesUnreported layout = true ↔
      ∃ index, operation = .signal (.raise index) ∧ layout.reports index = false := by
  cases operation with
  | signal call => cases call <;> simp [raisesUnreported]
  | _ => simp [raisesUnreported]

end Operation

/-- A flag was raised in a run and not lowered after that. -/
def RaisedSince {β : Type} (index : Nat) (operations : List (Operation β)) : Prop :=
  ∃ before after, operations = before ++ .signal (.raise index) :: after ∧
    ∀ operation ∈ after, operation.lowersFlags = false

theorem raisedSince_cons {β : Type} {index : Nat} {operation : Operation β}
    {rest : List (Operation β)} :
    RaisedSince index (operation :: rest) ↔
      RaisedSince index rest ∨
        operation = .signal (.raise index) ∧
          ∀ later ∈ rest, later.lowersFlags = false := by
  constructor
  · intro raised
    obtain ⟨before, after, split, up⟩ := raised
    cases before with
    | nil =>
        cases split
        exact .inr ⟨rfl, up⟩
    | cons head before =>
        cases split
        exact .inl ⟨before, after, rfl, up⟩
  · intro either
    rcases either with ⟨before, after, rfl, up⟩ | ⟨rfl, up⟩
    · exact ⟨operation :: before, after, rfl, up⟩
    · exact ⟨[], rest, rfl, up⟩

theorem raisedSince_append {β : Type} {index : Nat} {front back : List (Operation β)} :
    RaisedSince index (front ++ back) ↔
      RaisedSince index back ∨
        RaisedSince index front ∧ ∀ later ∈ back, later.lowersFlags = false := by
  induction front with
  | nil => simp [RaisedSince]
  | cons operation rest induction =>
      rw [List.cons_append, raisedSince_cons, raisedSince_cons, induction, List.forall_mem_append,
        or_assoc, or_and_right, and_assoc]

theorem not_raisedSince_lowered {β : Type} {index : Nat} (front : List (Operation β))
    {lowering : Operation β} (lowers : lowering.lowersFlags = true) {after : List (Operation β)}
    (absent : .signal (.raise index) ∉ after) :
    ¬ RaisedSince index (front ++ lowering :: after) := by
  intro raised
  rw [raisedSince_append, raisedSince_cons] at raised
  rcases raised with (⟨before, later, rfl, _⟩ | ⟨rfl, _⟩) | ⟨_, up⟩
  · exact absent (List.mem_append_right _ (List.mem_cons_self ..))
  · cases lowers
  · have kept := up lowering (List.mem_cons_self ..)
    rw [lowers] at kept
    cases kept

namespace Operation

variable {β : Type}

theorem getLsbD_flagsAfter (flags : BitVec 32) (operation : Operation β) (index : Nat) :
    (operation.flagsAfter flags).getLsbD index = true ↔
      operation.lowersFlags = false ∧ flags.getLsbD index = true ∨
        operation = .signal (.raise index) ∧ index < Signals.flagCount := by
  cases operation with
  | signal call =>
      cases call with
      | raise raised =>
          simp only [flagsAfter, Signals.getLsbD_flags_raise, lowersFlags, true_and,
            Bool.or_eq_true, decide_eq_true_eq, signal.injEq, SignalCall.raise.injEq]
          constructor
          · rintro (up | ⟨rfl, present⟩)
            · exact .inl up
            · exact .inr ⟨rfl, present⟩
          · rintro (up | ⟨rfl, present⟩)
            · exact .inl up
            · exact .inr ⟨rfl, present⟩
      | _ => simp [flagsAfter, lowersFlags]
  | _ => simp [flagsAfter, lowersFlags]

end Operation

namespace Controller

variable {β : Type} [PinDriver β]

theorem flags_step (controller : Controller β) (operation : Operation β) :
    (controller.step operation).signals.flags =
      operation.flagsAfter controller.signals.flags := by
  cases operation with
  | read address =>
      have ended := controller.read_ends address
      rw [step]
      generalize controller.read address = outcome at ended ⊢
      cases ended <;> rfl
  | write address payload =>
      have ended := controller.write_ends address payload
      rw [step]
      generalize controller.write address payload = outcome at ended ⊢
      cases ended with
      | invalidAddress | sizeMismatch | rejected => rfl
      | taken _ _ takes => exact takes.flags_eq
  | signal call => cases call with
    | raise =>
        simp only [step, SignalCall.apply, Operation.flagsAfter, Signals.raise]
        split <;> rfl
    | latch =>
        simp only [step, SignalCall.apply, Operation.flagsAfter, Signals.latch]
        split <;> rfl
    | increment | count | reset | readLatch | takeFlags | clear => rfl
  | tick | takeEvents | pins => rfl

/-- A flag is up after a run if it was raised and not lowered after that, or was up
before and never lowered. -/
theorem getLsbD_flags_run (controller : Controller β) (operations : List (Operation β))
    (index : Nat) :
    (controller.run operations).signals.flags.getLsbD index = true ↔
      index < Signals.flagCount ∧ RaisedSince index operations ∨
        controller.signals.flags.getLsbD index = true ∧
          ∀ operation ∈ operations, operation.lowersFlags = false := by
  induction operations generalizing controller with
  | nil => simp [RaisedSince]
  | cons operation rest induction =>
      rw [run_cons, induction, flags_step, Operation.getLsbD_flagsAfter, raisedSince_cons,
        List.forall_mem_cons]
      constructor
      · rintro (⟨present, raised⟩ | ⟨⟨up, before⟩ | ⟨raised, present⟩, later⟩)
        · exact .inl ⟨present, .inl raised⟩
        · exact .inr ⟨before, up, later⟩
        · exact .inl ⟨present, .inr ⟨raised, later⟩⟩
      · rintro (⟨present, raised | ⟨raised, later⟩⟩ | ⟨before, up, later⟩)
        · exact .inl ⟨present, raised⟩
        · exact .inr ⟨.inr ⟨raised, present⟩, later⟩
        · exact .inr ⟨.inl ⟨up, before⟩, later⟩

omit [PinDriver β] in
/-- The events of a controller are the addresses of the flagged registers that may be
reported, in order. -/
theorem mem_takeEvents_iff (controller : Controller β) (address : UInt8) :
    address ∈ controller.takeEvents.1 ↔
      ∃ index, controller.layout.addressOf index = address ∧
        (controller.layout.register index).descriptor.access.event = true ∧
          controller.signals.flags.getLsbD index = true := by
  simp only [takeEvents, Signals.takeFlags, flaggedEvents, List.mem_map, List.mem_filter,
    List.mem_finRange, true_and, Bool.and_eq_true]
  constructor
  · rintro ⟨index, ⟨up, reported⟩, place⟩
    exact ⟨index, place, reported, up⟩
  · rintro ⟨index, place, reported, up⟩
    exact ⟨index, ⟨up, reported⟩, place⟩

omit [PinDriver β] in
theorem addressOf_mem_takeEvents_iff (controller : Controller β)
    {index : Fin controller.layout.size}
    (reported : (controller.layout.register index).descriptor.access.event = true) :
    controller.layout.addressOf index ∈ controller.takeEvents.1 ↔
      controller.signals.flags.getLsbD index = true := by
  rw [mem_takeEvents_iff]
  constructor
  · rintro ⟨other, place, _, up⟩
    cases controller.layout.addressOf_injective place
    exact up
  · intro up
    exact ⟨index, rfl, reported, up⟩

omit [PinDriver β] in
theorem pairwise_takeEvents (controller : Controller β) :
    controller.takeEvents.1.Pairwise (· < ·) := by
  simp only [takeEvents, flaggedEvents]
  rw [List.pairwise_map]
  apply List.Pairwise.imp _ ((List.pairwise_lt_finRange _).filter _)
  intro first second before
  rw [UInt8.lt_iff_toNat_lt, Layout.toNat_addressOf, Layout.toNat_addressOf]
  exact Nat.add_lt_add_left before _

/-- The same controller with other event flags. -/
abbrev withFlags {β : Type} (controller : Controller β) (flags : BitVec 32) : Controller β :=
  { controller with signals := { controller.signals with flags } }

theorem read_withFlags (controller : Controller β) (flags : BitVec 32) (address : UInt8) :
    (controller.withFlags flags).read address =
      (controller.read address).map id (·.withFlags flags) := by
  simp only [read, locate, withFlags]
  cases controller.layout.indexOf? address <;> rfl

theorem perform_withFlags (controller : Controller β) (flags : BitVec 32)
    (index : Fin controller.layout.size) (payload : Bytes) :
    (controller.withFlags flags).perform index payload =
      (controller.perform index payload).map id (·.withFlags flags) := by
  simp only [perform]
  cases (controller.layout.register index).behaviour with
  | pins | latch | constant => rfl
  | setting | counter => dsimp only; split <;> rfl
  | drive =>
      dsimp only
      split
      · rw [driveLines_eq, driveLines_eq]
        rfl
      · rfl
  | pulse rule line =>
      dsimp only
      split
      · cases pulseDuration? (controller.layout.register index).descriptor.kind payload with
        | none => rfl
        | some duration =>
            dsimp only
            cases controller.pulses.arm? line duration <;> rfl
      · rfl

theorem write_withFlags (controller : Controller β) (flags : BitVec 32) (address : UInt8)
    (payload : Bytes) :
    (controller.withFlags flags).write address payload =
      (controller.write address payload).map id (·.withFlags flags) := by
  simp only [write, locateSized, locate, withFlags]
  cases controller.layout.indexOf? address with
  | none => rfl
  | some index =>
      by_cases sized : payload.length = (controller.layout.register index).size
      · simp only [if_pos sized]
        exact controller.perform_withFlags flags index payload
      · simp only [if_neg sized]
        rfl

theorem step_withFlags (controller : Controller β) (flags : BitVec 32)
    (operation : Operation β) :
    (controller.withFlags flags).step operation =
      (controller.step operation).withFlags (operation.flagsAfter flags) := by
  cases operation with
  | read address =>
      rw [step, step, read_withFlags]
      rfl
  | write address payload =>
      rw [step, step, write_withFlags]
      rfl
  | signal call => cases call with
    | raise | latch =>
        simp only [step, SignalCall.apply, Operation.flagsAfter, Signals.raise, Signals.latch]
        split <;> rfl
    | increment | count | reset | readLatch | takeFlags | clear => rfl
  | tick | takeEvents | pins => rfl

/-- Without the raises of flags that are never reported a run leaves the same
controller, up to such flags. -/
theorem run_unreported (controller : Controller β) {layout : Layout} {flags : BitVec 32}
    (alike : ∀ index, layout.reports index = true →
      flags.getLsbD index = controller.signals.flags.getLsbD index)
    (operations : List (Operation β)) :
    ∃ left : BitVec 32,
      (controller.withFlags flags).run
          (operations.filter fun operation => !operation.raisesUnreported layout) =
        (controller.run operations).withFlags left ∧
      ∀ index, layout.reports index = true →
        left.getLsbD index = (controller.run operations).signals.flags.getLsbD index := by
  -- A dropped raise moves the flags on one side alone, but none that is reported.
  induction operations generalizing controller flags with
  | nil => exact ⟨flags, rfl, alike⟩
  | cons operation rest induction =>
      cases dropped : operation.raisesUnreported layout with
      | false =>
          rw [List.filter_cons_of_pos (by rw [dropped]; rfl), run_cons, step_withFlags]
          apply induction
          intro index reported
          rw [Bool.eq_iff_iff, flags_step, Operation.getLsbD_flagsAfter,
            Operation.getLsbD_flagsAfter, alike index reported]
      | true =>
          obtain ⟨raised, rfl, unreported⟩ :
              ∃ raised, operation = .signal (.raise raised) ∧ layout.reports raised = false :=
            Operation.raisesUnreported_iff.mp dropped
          have same : (controller.step (.signal (.raise raised))).withFlags flags =
              controller.withFlags flags := by
            simp only [step, SignalCall.apply, Signals.raise]
            split <;> rfl
          rw [List.filter_cons_of_neg (by simp [dropped]), run_cons, ← same]
          apply induction
          intro index reported
          have other : index ≠ raised := by
            intro equal
            rw [equal, unreported] at reported
            cases reported
          rw [alike index reported]
          simp [step, SignalCall.apply, Signals.getLsbD_flags_raise, other]

/-- Controllers that differ at most in flags that are never reported, and in nothing that
a request answers. -/
structure Indistinguishable (first second : Controller β) : Prop where
  flags : ∃ flags, second = first.withFlags flags ∧
    ∀ index, first.layout.reports index = true →
      flags.getLsbD index = first.signals.flags.getLsbD index
  read : ∀ address, (second.read address).1 = (first.read address).1
  write : ∀ address payload, (second.write address payload).1 = (first.write address payload).1
  events : second.takeEvents.1 = first.takeEvents.1

theorem indistinguishable_withFlags (controller : Controller β) {flags : BitVec 32}
    (alike : ∀ index, controller.layout.reports index = true →
      flags.getLsbD index = controller.signals.flags.getLsbD index) :
    Indistinguishable controller (controller.withFlags flags) where
  flags := ⟨flags, rfl, alike⟩
  read address := by
    rw [read_withFlags]
    rfl
  write address payload := by
    rw [write_withFlags]
    rfl
  events := by
    have sameEvents : flaggedEvents controller.layout flags =
        flaggedEvents controller.layout controller.signals.flags := by
      apply List.filter_congr
      intro index _
      cases reported : (controller.layout.register index).descriptor.access.event with
      | false => rw [Bool.and_false, Bool.and_false]
      | true => rw [alike index ((controller.layout.reports_iff index).mpr reported)]
    exact congrArg (List.map controller.layout.addressOf) sameEvents

/-- A flag is up after a run if it was raised since it was last lowered. -/
theorem getLsbD_flags_history (controller : Controller β) {earlier : List SignalCall}
    (used : controller.signals = .after earlier) (operations : List (Operation β))
    (index : Nat) :
    (controller.run operations).signals.flags.getLsbD index = true ↔
      index < Signals.flagCount ∧ RaisedSince index (history earlier operations) := by
  rw [← controller.run_history used, getLsbD_flags_run]
  simp [Signals.clear]

theorem mem_takeEvents_run {layout : Layout} {controller : Controller β}
    (same : controller.layout = layout) {earlier : List SignalCall}
    (used : controller.signals = .after earlier) (operations : List (Operation β))
    (address : UInt8) :
    address ∈ (controller.run operations).takeEvents.1 ↔
      ∃ index, layout.addressOf index = address ∧
        (layout.register index).descriptor.access.event = true ∧
          RaisedSince index (history earlier operations) := by
  have sameAfter := (controller.layout_run operations).trans same
  rw [mem_takeEvents_iff]
  simp only [controller.getLsbD_flags_history used]
  generalize controller.run operations = reached at sameAfter ⊢
  subst sameAfter
  constructor
  · rintro ⟨index, place, reported, _, raised⟩
    exact ⟨index, place, reported, raised⟩
  · rintro ⟨index, place, reported, raised⟩
    have flagged := Nat.lt_of_lt_of_le index.isLt (Layout.size_le _)
    exact ⟨index, place, reported, flagged, raised⟩

/-- At any point of a run the events taken are, each once and in address order, the
registers that may be reported and were flagged since the flags were last lowered.
A flag raised for such a register is reported by the next events taken and, unless it
is raised again, by none after them.  Flags without such a register change nothing that
a request answers or does. -/
theorem events_after_run {layout : Layout} {pins : β}
    {contents : List (UInt8 × Bytes)} {controller : Controller β}
    (started : Started layout pins contents controller) {earlier : List SignalCall}
    (used : controller.signals = .after earlier) (operations : List (Operation β)) :
    (controller.run operations).takeEvents.1.Pairwise (· < ·) ∧
      (∀ address, address ∈ (controller.run operations).takeEvents.1 ↔
        ∃ index : Fin layout.size, layout.minAddress.toNat + index = address.toNat ∧
          (layout.register index).descriptor.access.event = true ∧
            RaisedSince index (history earlier operations)) ∧
      (∀ (index : Fin layout.size) (between after : List (Operation β)),
        (layout.register index).descriptor.access.event = true →
        (∀ operation ∈ between, operation.lowersFlags = false) →
        .signal (.raise index) ∉ after →
          layout.addressOf index ∈ (controller.run
            (operations ++ .signal (.raise index) :: between)).takeEvents.1 ∧
          layout.addressOf index ∉ (controller.run
            ((operations ++ .signal (.raise index) :: between) ++
              .takeEvents :: after)).takeEvents.1) ∧
      Indistinguishable (controller.run operations)
        (controller.run (operations.filter fun operation =>
          !operation.raisesUnreported layout)) := by
  have same := started.layout_eq
  refine ⟨pairwise_takeEvents _, ?_, ?_, ?_⟩
  · intro address
    simp only [mem_takeEvents_run same used, ← layout.toNat_addressOf, UInt8.toNat_inj]
  · intro index between after reported up absent
    rw [mem_takeEvents_run same used, mem_takeEvents_run same used]
    constructor
    · refine ⟨index, rfl, reported, history earlier operations, between, ?_, up⟩
      exact (List.append_assoc ..).symm
    · rintro ⟨other, place, _, raised⟩
      rw [layout.addressOf_injective place, history, ← List.append_assoc] at raised
      exact not_raisedSince_lowered _ rfl absent raised
  · subst same
    obtain ⟨left, ends, alike⟩ := controller.run_unreported
      (fun index (_ : controller.layout.reports index = true) => rfl) operations
    rw [← controller.layout_run operations] at alike
    change controller.run _ = _ at ends
    rw [ends]
    exact indistinguishable_withFlags _ alike

/-- The nose-poke controller reports the analog frame that was flagged since it last
reported, and not the beams again that it reported then. -/
theorem events_after_run_nosePoke :
    ∃ controller, Started NosePoke.layout SimulatedPins.fresh [] controller ∧
      33 ∈ (controller.run [.signal (.raise 0), .takeEvents, .signal (.raise 1),
        .signal (.raise 2), .signal (.raise 40)]).takeEvents.1 ∧
      32 ∉ (controller.run [.signal (.raise 0), .takeEvents, .signal (.raise 1),
        .signal (.raise 2), .signal (.raise 40)]).takeEvents.1 := by
  let controller : Controller SimulatedPins :=
    { layout := NosePoke.layout, store := .zeroed, pins := .fresh, signals := .clear,
      pulses := .none }
  have started : Started NosePoke.layout SimulatedPins.fresh [] controller :=
    .bind (show Controller.bind NosePoke.layout 111 SimulatedPins.fresh .clear = .ok _ from rfl)
  have used : controller.signals = .after [] := rfl
  refine ⟨controller, started, ?_, ?_⟩
  · apply ((events_after_run started used _).2.1 33).mpr
    refine ⟨⟨1, by decide⟩, rfl, rfl, [.signal (.raise 0), .takeEvents],
      [.signal (.raise 2), .signal (.raise 40)], rfl, ?_⟩
    simp [Operation.lowersFlags]
  · exact ((events_after_run started used []).2.2.1 ⟨0, by decide⟩ []
      [.signal (.raise 1), .signal (.raise 2), .signal (.raise 40)] rfl (by simp)
      (by simp)).2

end Controller

end Instrument

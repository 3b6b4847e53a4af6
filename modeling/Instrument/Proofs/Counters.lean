import Instrument.NosePoke.Registers
import Instrument.Proofs.ElementBits
import Instrument.Proofs.Frames
import Instrument.Proofs.RequestEquations
import Instrument.Proofs.Requirements
import Instrument.Proofs.SignalHistory
import Instrument.Proofs.StoredRegisters

/-!
# Counters

A counter lives in the signals, where interrupt routines increment it; the store has
only the copy that the last read put there.  A run either counts on a counter or
restarts it, and what a read shows is how often it was counted since it was last
restarted, as far as 32 bits and the element of the register reach.
-/

namespace Instrument

/-- What a step may do to a counter. -/
inductive CounterEvent where
  | counted
  | restarted
  deriving DecidableEq

/-- How often a counter was counted since it was last restarted. -/
def countedSince (events : List CounterEvent) : Nat :=
  (events.reverse.takeWhile (· == .counted)).length

theorem countedSince_concat (events : List CounterEvent) (event : CounterEvent) :
    countedSince (events ++ [event]) =
      match event with
      | .counted => countedSince events + 1
      | .restarted => 0 := by
  rw [countedSince, List.reverse_append]
  cases event <;> rfl

/-- What a call on the signals does to a counter. -/
def SignalCall.counterEvent? (counter : Nat) : SignalCall → Option CounterEvent
  | .increment other => if other = counter then some .counted else none
  | .reset other => if other = counter then some .restarted else none
  | .clear => some .restarted
  | .raise _ | .latch _ _ | .count _ | .readLatch _ _ | .takeFlags => none

/-- Whether a register shows a counter. -/
def Behaviour.shows (counter : Nat) : Behaviour → Bool
  | .counter other _ => other == counter
  | _ => false

theorem Behaviour.shows_iff {counter : Nat} {behaviour : Behaviour} :
    behaviour.shows counter = true ↔ ∃ resettable, behaviour = .counter counter resettable := by
  cases behaviour <;> simp [shows]

namespace Layout

/-- Whether the register at an address shows a counter. -/
def showsAt (layout : Layout) (counter : Nat) (address : UInt8) : Bool :=
  layout.registers.any fun register =>
    register.descriptor.address == address && register.behaviour.shows counter

theorem showsAt_addressOf (layout : Layout) (counter : Nat) (index : Fin layout.size) :
    layout.showsAt counter (layout.addressOf index) =
      (layout.register index).behaviour.shows counter := by
  rw [Bool.eq_iff_iff, showsAt, List.any_eq_true]
  simp only [Bool.and_eq_true, beq_iff_eq]
  constructor
  · rintro ⟨register, member, place, shown⟩
    rw [layout.register_eq_of_address member place]
    exact shown
  · intro shown
    exact ⟨_, List.get_mem _ _, layout.address_register index, shown⟩

end Layout

/-- The value of a counter after a step that may have done something to it. -/
def counterAfter (value : UInt32) : Option CounterEvent → UInt32
  | none => value
  | some .counted => value + 1
  | some .restarted => 0

theorem toNat_counterAfter {value : UInt32} {events : List CounterEvent}
    (follows : value.toNat = countedSince events % 4294967296) (event : Option CounterEvent) :
    (counterAfter value event).toNat =
      countedSince (events ++ event.toList) % 4294967296 := by
  match event with
  | none =>
      rw [Option.toList_none, List.append_nil]
      exact follows
  | some .restarted =>
      rw [Option.toList_some, countedSince_concat]
      rfl
  | some .counted =>
      rw [Option.toList_some, countedSince_concat, counterAfter, UInt32.toNat_add, follows]
      simp

namespace Signals

theorem count_clear (counter : Nat) : clear.count counter = 0 := by
  simp only [count, clear, Vector.getElem?_replicate]
  split <;> rfl

theorem count_setCounter_eq {counter : Nat} (present : counter < counterCount)
    (signals : Signals) (other : Nat) (value : UInt32) :
    (signals.setCounter other value).count counter =
      if other = counter then value else signals.count counter := by
  rw [count_setCounter]
  by_cases same : other = counter
  · subst same
    rw [if_pos rfl, if_pos ⟨rfl, present⟩]
  · rw [if_neg same, if_neg (fun both => same both.1.symm)]

theorem ext_count {first second : Signals}
    (counts : ∀ counter, first.count counter = second.count counter)
    (flags : first.flags = second.flags) (latched : first.latched = second.latched) :
    first = second := by
  have counters : first.counters = second.counters := by
    apply Vector.ext
    intro counter present
    have same := counts counter
    simpa [count, present] using same
  cases first
  cases second
  cases counters
  cases flags
  cases latched
  rfl

theorem count_apply {counter : Nat} (present : counter < counterCount)
    (signals : Signals) (call : SignalCall) :
    (call.apply signals).count counter =
      counterAfter (signals.count counter) (call.counterEvent? counter) := by
  cases call with
  | increment other =>
      simp only [SignalCall.apply, increment, incrementBy, count_setCounter_eq present,
        SignalCall.counterEvent?]
      by_cases same : other = counter
      · subst same
        rw [if_pos rfl, if_pos rfl]
        rfl
      · rw [if_neg same, if_neg same]
        rfl
  | reset other =>
      simp only [SignalCall.apply, reset, count_setCounter_eq present, SignalCall.counterEvent?]
      by_cases same : other = counter
      · rw [if_pos same, if_pos same]
        rfl
      · rw [if_neg same, if_neg same]
        rfl
  | clear => exact count_clear counter
  | raise index =>
      simp only [SignalCall.apply, raise]
      split <;> rfl
  | latch window data =>
      simp only [SignalCall.apply, latch]
      split <;> rfl
  | count | readLatch | takeFlags => rfl

theorem count_after {counter : Nat} (present : counter < counterCount)
    (calls : List SignalCall) :
    ((Signals.after calls).count counter).toNat =
      countedSince (calls.filterMap (·.counterEvent? counter)) % 4294967296 := by
  have moved : ∀ (signals : Signals) (events : List CounterEvent),
      (signals.count counter).toNat = countedSince events % 4294967296 →
        ((calls.foldl SignalCall.apply signals).count counter).toNat =
          countedSince (events ++ calls.filterMap (·.counterEvent? counter)) % 4294967296 := by
    induction calls with
    | nil =>
        intro signals events follows
        rw [List.filterMap_nil, List.append_nil]
        exact follows
    | cons call rest induction =>
        intro signals events follows
        have next := toNat_counterAfter follows (call.counterEvent? counter)
        rw [← count_apply present] at next
        have later := induction _ _ next
        rw [List.append_assoc] at later
        rw [List.filterMap_cons]
        cases event : call.counterEvent? counter with
        | none | some =>
            rw [event] at later
            exact later
  exact moved .clear [] (congrArg UInt32.toNat (count_clear counter))

end Signals

namespace Controller

variable {β : Type} [PinDriver β]

/-- A counting register takes zeros alone, and they reset its counter. -/
theorem Takes.of_counter {controller : Controller β} {register : Register} {payload : Bytes}
    {pins : β} {signals : Signals} {pulses : Pulses}
    (takes : Takes controller register payload pins signals pulses) {counter : Nat}
    {resettable : Bool} (behaviour : register.behaviour = .counter counter resettable)
    (sized : payload.length = register.size) :
    payload = Bytes.zeros register.size ∧ signals = controller.signals.reset counter := by
  cases takes with
  | setting other | drive other | pulse other =>
      rw [behaviour] at other
      cases other
  | counter other zeros =>
      rw [behaviour] at other
      cases other
      exact ⟨List.eq_replicate_iff.mpr ⟨sized, zeros⟩, rfl⟩

/-- What a step does to a counter: increments count, and resets and accepted writes to a
register that shows the counter restart it. -/
def counterEvent? (controller : Controller β) (counter : Nat) :
    Operation β → Option CounterEvent
  | .signal call => call.counterEvent? counter
  | operation =>
    match controller.acceptedWrite? operation with
    | some (address, _) =>
      if controller.layout.showsAt counter address then some .restarted else none
    | none => none

/-- What a run does to a counter, in order. -/
def counterEvents (controller : Controller β) (counter : Nat) :
    List (Operation β) → List CounterEvent
  | [] => []
  | operation :: rest =>
    (controller.counterEvent? counter operation).toList ++
      (controller.step operation).counterEvents counter rest

theorem eq_increment_of_counted {controller : Controller β} {counter : Nat}
    {operation : Operation β}
    (counted : controller.counterEvent? counter operation = some .counted) :
    operation = .signal (.increment counter) := by
  cases operation with
  | signal call =>
      cases call with
      | increment other =>
          simp only [counterEvent?, SignalCall.counterEvent?] at counted
          split at counted
          · rename_i same
            rw [same]
          · cases counted
      | reset =>
          simp only [counterEvent?, SignalCall.counterEvent?] at counted
          split at counted <;> cases counted
      | raise | latch | count | readLatch | takeFlags | clear => cases counted
  | write =>
      simp only [counterEvent?] at counted
      split at counted
      · split at counted <;> cases counted
      · cases counted
  | read | tick | takeEvents | pins => cases counted

/-- Apart from increments, resets and accepted writes, a step does nothing to a counter. -/
theorem counterEvent?_eq_none {controller : Controller β} {counter : Nat}
    {operation : Operation β} (uncounted : operation ≠ .signal (.increment counter))
    (unreset : operation ≠ .signal (.reset counter)) (uncleared : operation ≠ .signal .clear)
    (unwritten : ∀ address payload, operation = .write address payload →
      controller.layout.showsAt counter address = true →
        (controller.write address payload).1 ≠ .ok ()) :
    controller.counterEvent? counter operation = none := by
  cases operation with
  | signal call =>
      cases call with
      | increment other =>
          apply if_neg
          intro same
          exact uncounted (by rw [same])
      | reset other =>
          apply if_neg
          intro same
          exact unreset (by rw [same])
      | clear => exact (uncleared rfl).elim
      | raise | latch | count | readLatch | takeFlags => rfl
  | write address payload =>
      simp only [counterEvent?]
      split
      · rename_i accepted
        rw [acceptedWrite?_eq_some_iff] at accepted
        cases accepted.1
        apply if_neg
        intro shown
        exact unwritten _ _ rfl shown accepted.2
      · rfl
  | read | tick | takeEvents | pins => rfl

theorem counterEvents_append (controller : Controller β) (counter : Nat)
    (front back : List (Operation β)) :
    controller.counterEvents counter (front ++ back) =
      controller.counterEvents counter front ++
        (controller.run front).counterEvents counter back := by
  induction front generalizing controller with
  | nil => rfl
  | cons operation rest induction =>
      rw [List.cons_append, counterEvents, induction, counterEvents, List.append_assoc, run_cons]

theorem count_write (controller : Controller β) {counter : Nat}
    (present : counter < Signals.counterCount) (address : UInt8) (payload : Bytes) :
    (controller.write address payload).2.signals.count counter =
      counterAfter (controller.signals.count counter)
        (controller.counterEvent? counter (.write address payload)) := by
  have ended := controller.write_ends address payload
  simp only [counterEvent?, acceptedWrite?]
  generalize controller.write address payload = outcome at ended ⊢
  cases ended with
  | invalidAddress | sizeMismatch | rejected => rfl
  | taken place sized takes =>
      subst place
      simp only [Attempt.accepted, Layout.showsAt_addressOf]
      split
      · rename_i shown
        obtain ⟨resettable, behaviour⟩ := Behaviour.shows_iff.mp shown
        rw [(takes.of_counter behaviour sized).2, Signals.reset,
          Signals.count_setCounter_eq present, if_pos rfl]
        rfl
      · rename_i hidden
        apply takes.count_of_ne
        intro behaviour
        exact hidden (Behaviour.shows_iff.mpr ⟨true, behaviour⟩)

theorem count_step (controller : Controller β) {counter : Nat}
    (present : counter < Signals.counterCount) (operation : Operation β) :
    (controller.step operation).signals.count counter =
      counterAfter (controller.signals.count counter)
        (controller.counterEvent? counter operation) := by
  cases operation with
  | read address =>
      have ended := controller.read_ends address
      rw [step]
      generalize controller.read address = outcome at ended ⊢
      cases ended <;> rfl
  | write address payload => exact controller.count_write present address payload
  | signal call => exact controller.signals.count_apply present call
  | tick | takeEvents | pins => rfl

theorem count_run {controller : Controller β} {counter : Nat}
    (present : counter < Signals.counterCount) {events : List CounterEvent}
    (follows : (controller.signals.count counter).toNat = countedSince events % 4294967296)
    (operations : List (Operation β)) :
    ((controller.run operations).signals.count counter).toNat =
      countedSince (events ++ controller.counterEvents counter operations) % 4294967296 := by
  induction operations generalizing controller events with
  | nil =>
      rw [counterEvents, List.append_nil]
      exact follows
  | cons operation rest induction =>
      have next := toNat_counterAfter follows (controller.counterEvent? counter operation)
      rw [← controller.count_step present] at next
      have later := induction next
      rw [List.append_assoc] at later
      exact later

theorem read_addressOf (controller : Controller β) (index : Fin controller.layout.size) :
    (controller.read (controller.layout.addressOf index)).1 =
      .ok (controller.sampled index) :=
  congrArg Prod.fst (controller.read_served index)

theorem read_counter (controller : Controller β) {index : Fin controller.layout.size}
    {counter : Nat} {resettable : Bool}
    (behaviour : (controller.layout.register index).behaviour = .counter counter resettable) :
    ∃ shown, (controller.read (controller.layout.addressOf index)).1 = .ok shown ∧
      shown.length = (controller.layout.register index).size ∧
      (controller.layout.register index).descriptor.kind.bits shown =
        (controller.signals.count counter).toNat %
          (1 <<< (8 * (controller.layout.register index).descriptor.kind.width)) := by
  refine ⟨controller.sampled index, controller.read_addressOf index,
    controller.length_sampled index, ?_⟩
  simp only [sampled, behaviour]
  apply Element.Kind.bits_putBits
  rw [controller.length_stored index]
  exact controller.layout.width_le_size index

/-- A register that shows a counter holds zeros, and the counter stands at zero. -/
structure AtZero (controller : Controller β) (layout : Layout) (index : Fin layout.size)
    (counter : Nat) : Prop where
  held : controller.held layout index = Bytes.zeros (layout.register index).size
  count : controller.signals.count counter = 0

theorem sampled_of_atZero {controller : Controller β} {index : Fin controller.layout.size}
    {counter : Nat} {resettable : Bool}
    (behaviour : (controller.layout.register index).behaviour = .counter counter resettable)
    (zero : controller.AtZero controller.layout index counter) :
    controller.sampled index = Bytes.zeros (controller.layout.register index).size := by
  have held := zero.held
  rw [Controller.held] at held
  simp only [sampled, behaviour, zero.count, stored, held]
  exact Element.Kind.putBits_zeros _ _

theorem read_of_atZero {layout : Layout} {controller : Controller β}
    (same : controller.layout = layout) {index : Fin layout.size}
    {counter : Nat} {resettable : Bool}
    (behaviour : (layout.register index).behaviour = .counter counter resettable)
    (zero : controller.AtZero layout index counter) :
    (controller.read (layout.addressOf index)).1 =
      .ok (Bytes.zeros (layout.register index).size) := by
  subst same
  rw [read_addressOf, sampled_of_atZero behaviour zero]

theorem held_write_of_atZero {controller : Controller β} {index : Fin controller.layout.size}
    {counter : Nat} {resettable : Bool}
    (behaviour : (controller.layout.register index).behaviour = .counter counter resettable)
    (zero : controller.AtZero controller.layout index counter) (address : UInt8)
    (payload : Bytes) :
    (controller.write address payload).2.held controller.layout index =
      Bytes.zeros (controller.layout.register index).size := by
  have ended := controller.write_ends address payload
  generalize controller.write address payload = outcome at ended ⊢
  cases ended with
  | invalidAddress | sizeMismatch | rejected => exact zero.held
  | @taken written _ _ _ _ sized takes =>
      refine (controller.held_putStored written index sized).trans ?_
      split
      · rename_i same
        subst same
        exact (takes.of_counter behaviour sized).1
      · exact zero.held

theorem atZero_step {layout : Layout} {controller : Controller β}
    (same : controller.layout = layout) {index : Fin layout.size}
    {counter : Nat} {resettable : Bool}
    (behaviour : (layout.register index).behaviour = .counter counter resettable)
    (zero : controller.AtZero layout index counter) {operation : Operation β}
    (idle : operation ≠ .signal (.increment counter)) :
    (controller.step operation).AtZero layout index counter := by
  subst same
  constructor
  · cases operation with
    | read address =>
        have ended := controller.read_ends address
        rw [step]
        generalize controller.read address = outcome at ended ⊢
        cases ended with
        | invalidAddress => exact zero.held
        | sampled =>
            refine (controller.held_putStored _ index (controller.length_sampled _)).trans ?_
            split
            · rename_i same
              subst same
              exact sampled_of_atZero behaviour zero
            · exact zero.held
    | write address payload => exact held_write_of_atZero behaviour zero address payload
    | tick | takeEvents | signal | pins => exact zero.held
  · rw [controller.count_step (Layout.counter_lt behaviour), zero.count]
    cases happened : controller.counterEvent? counter operation with
    | none => rfl
    | some event =>
        cases event with
        | restarted => rfl
        | counted => exact (idle (eq_increment_of_counted happened)).elim

theorem atZero_run {layout : Layout} {controller : Controller β}
    (same : controller.layout = layout) {index : Fin layout.size}
    {counter : Nat} {resettable : Bool}
    (behaviour : (layout.register index).behaviour = .counter counter resettable)
    (zero : controller.AtZero layout index counter) {operations : List (Operation β)}
    (idle : .signal (.increment counter) ∉ operations) :
    (controller.run operations).AtZero layout index counter := by
  induction operations generalizing controller with
  | nil => exact zero
  | cons operation rest induction =>
      rw [List.mem_cons, not_or] at idle
      have next := atZero_step same behaviour zero (Ne.symm idle.1)
      exact induction ((controller.layout_step operation).trans same) next idle.2

/-- A write that a counting register accepts leaves it at zero. -/
theorem atZero_of_accepted {controller : Controller β} {index : Fin controller.layout.size}
    {counter : Nat} {resettable : Bool}
    (behaviour : (controller.layout.register index).behaviour = .counter counter resettable)
    {payload : Bytes}
    (accepted : (controller.write (controller.layout.addressOf index) payload).1 = .ok ()) :
    (controller.write (controller.layout.addressOf index) payload).2.AtZero
      controller.layout index counter := by
  have ended := controller.write_ends (controller.layout.addressOf index) payload
  generalize controller.write (controller.layout.addressOf index) payload = outcome
    at ended accepted ⊢
  cases ended with
  | invalidAddress | sizeMismatch | rejected => cases accepted
  | taken place sized takes =>
      cases controller.layout.addressOf_injective place
      obtain ⟨zeros, reset⟩ := takes.of_counter behaviour sized
      constructor
      · exact ((controller.held_putStored index index sized).trans (if_pos rfl)).trans zeros
      · have present := Layout.counter_lt behaviour
        rw [reset]
        exact (Signals.count_setCounter_eq present _ counter 0).trans (if_pos rfl)

/-- A read shows how often the counter of its register was counted since it was last
restarted, as far as 32 bits and the element reach; steps that neither count nor restart
it do not matter; and after an accepted write the whole register is zero until the
next increment. -/
theorem counter_after_run {layout : Layout} {pins : β}
    {contents : List (UInt8 × Bytes)} {controller : Controller β}
    (started : Started layout pins contents controller) {earlier : List SignalCall}
    (used : controller.signals = .after earlier) (operations : List (Operation β))
    {index : Fin layout.size} {counter : Nat} {resettable : Bool}
    (behaviour : (layout.register index).behaviour = .counter counter resettable) :
    (∃ shown, ((controller.run operations).read (layout.addressOf index)).1 = .ok shown ∧
        shown.length = (layout.register index).size ∧
        (layout.register index).descriptor.kind.bits shown =
          countedSince (earlier.filterMap (·.counterEvent? counter) ++
              controller.counterEvents counter operations) %
            (1 <<< min 32 (8 * (layout.register index).descriptor.kind.width))) ∧
      (∀ operation : Operation β, operation ≠ .signal (.increment counter) →
        operation ≠ .signal (.reset counter) → operation ≠ .signal .clear →
        (∀ address payload, operation = .write address payload →
          layout.showsAt counter address = true →
            ((controller.run operations).write address payload).1 ≠ .ok ()) →
          controller.counterEvents counter (operations ++ [operation]) =
            controller.counterEvents counter operations) ∧
      ∀ (payload : Bytes) (between : List (Operation β)),
        ((controller.run operations).write (layout.addressOf index) payload).1 = .ok () →
        .signal (.increment counter) ∉ between →
          ((controller.run (operations ++
              .write (layout.addressOf index) payload :: between)).read
            (layout.addressOf index)).1 =
              .ok (Bytes.zeros (layout.register index).size) := by
  have sameAfter := (controller.layout_run operations).trans started.layout_eq
  refine ⟨?_, ?_, ?_⟩
  · have present := Layout.counter_lt behaviour
    have standing := Signals.count_after present earlier
    rw [← used] at standing
    have counted := count_run present standing operations
    rw [← Element.Kind.mod_word_mod_width, ← counted]
    generalize controller.run operations = reached at sameAfter ⊢
    subst sameAfter
    exact reached.read_counter behaviour
  · intro operation uncounted unreset uncleared unwritten
    rw [← sameAfter] at unwritten
    rw [counterEvents_append, counterEvents,
      counterEvent?_eq_none uncounted unreset uncleared unwritten]
    exact List.append_nil _
  · intro payload between accepted idle
    rw [run_append, run_cons]
    generalize controller.run operations = reached at sameAfter accepted ⊢
    subst sameAfter
    have zero := atZero_of_accepted behaviour accepted
    have same := reached.layout_step (.write (reached.layout.addressOf index) payload)
    have later := atZero_run same behaviour zero idle
    have sameLater := (layout_run _ between).trans same
    exact read_of_atZero sameLater behaviour later

/-- The beam counter of the nose-poke controller shows the two beams broken since it was
reset by a write, and zeros directly after the next one. -/
theorem counter_after_run_nosePoke :
    ∃ controller, Started NosePoke.layout SimulatedPins.fresh [] controller ∧
      (∃ shown, ((controller.run [.write 40 [0, 0, 0, 0], .signal (.increment 0),
          .signal (.increment 1), .signal (.increment 0)]).read 40).1 = .ok shown ∧
        Element.Kind.bits (.signed .four) shown = 2) ∧
      ((controller.run [.signal (.increment 0), .write 40 [0, 0, 0, 0],
        .takeEvents]).read 40).1 = .ok [0, 0, 0, 0] := by
  let controller : Controller SimulatedPins :=
    { layout := NosePoke.layout, store := .zeroed, pins := .fresh, signals := .clear,
      pulses := .none }
  have started : Started NosePoke.layout SimulatedPins.fresh [] controller :=
    .bind (show Controller.bind NosePoke.layout 111 SimulatedPins.fresh .clear = .ok _ from rfl)
  have used : controller.signals = .after [] := rfl
  have behaviour : (NosePoke.layout.register ⟨8, by decide⟩).behaviour = .counter 0 true := rfl
  have place : NosePoke.layout.addressOf ⟨8, by decide⟩ = 40 := rfl
  have events : controller.counterEvents 0 [.write 40 [0, 0, 0, 0], .signal (.increment 0),
      .signal (.increment 1), .signal (.increment 0)] = [.restarted, .counted, .counted] := rfl
  refine ⟨controller, started, ?_, ?_⟩
  · obtain ⟨shown, read, _, bits⟩ := (counter_after_run started used [.write 40 [0, 0, 0, 0],
      .signal (.increment 0), .signal (.increment 1), .signal (.increment 0)] behaviour).1
    rw [place] at read
    rw [events] at bits
    exact ⟨shown, read, bits⟩
  · have zeros := (counter_after_run started used [.signal (.increment 0)] behaviour).2.2
      [0, 0, 0, 0] [.takeEvents]
    rw [place] at zeros
    exact zeros rfl (by simp)

end Controller

end Instrument

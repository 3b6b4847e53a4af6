import Instrument.Proofs.Counters
import Instrument.Proofs.FaultFreedom
import Instrument.Proofs.RequestEquations

/-!
# Requests that do not meddle with one another

A request looks at and changes its own register only: the bytes in its place, the pins
it names, the pulses on those pins, and its counter.  The one thing that registers
share is the number of free pulse timers.  So a request goes the same way in two
controllers that agree on its register, and two requests for registers without a common
pin or counter can change places.
-/

namespace Instrument

/-- A read or a write on the bus. -/
inductive BusRequest where
  | read (address : UInt8)
  | write (address : UInt8) (payload : Bytes)

namespace BusRequest

def address : BusRequest → UInt8
  | .read address | .write address _ => address

def operation {β : Type} : BusRequest → Operation β
  | .read address => .read address
  | .write address payload => .write address payload

end BusRequest

/-- The pins that a register samples or drives. -/
def Behaviour.pinsNamed : Behaviour → List Pin
  | .pins inputs => inputs
  | .drive _ lines => lines.map (·.pin)
  | .pulse _ line => [line.pin]
  | .latch _ | .constant | .setting _ | .counter _ _ => []

theorem Behaviour.lines_subset_pinsNamed (behaviour : Behaviour) :
    ∀ pin ∈ behaviour.lines.map (·.pin), pin ∈ behaviour.pinsNamed := by
  intro pin driven
  cases behaviour with
  | drive | pulse => exact driven
  | pins | latch | constant | setting | counter => cases driven

namespace Layout

variable (layout : Layout)

/-- A pin that the register at an address samples or drives. -/
def Uses (address : UInt8) (pin : Pin) : Prop :=
  ∃ index, layout.addressOf index = address ∧
    pin ∈ (layout.register index).behaviour.pinsNamed

theorem uses_addressOf_iff {index : Fin layout.size} {pin : Pin} :
    layout.Uses (layout.addressOf index) pin ↔
      pin ∈ (layout.register index).behaviour.pinsNamed := by
  constructor
  · intro used
    obtain ⟨other, place, named⟩ := used
    rw [layout.addressOf_injective place] at named
    exact named
  · intro named
    exact ⟨index, rfl, named⟩

/-- A request that may need a pulse timer. -/
def StartsPulse : BusRequest → Prop
  | .read _ => False
  | .write address _ =>
    ∃ index, layout.addressOf index = address ∧
      ∃ rule line, (layout.register index).behaviour = .pulse rule line

/-- The registers at two addresses have no pin and no counter in common. -/
structure Independent (first second : UInt8) : Prop where
  pins : ∀ pin, layout.Uses first pin → ¬ layout.Uses second pin
  counters : ∀ counter, layout.showsAt counter first = true →
    layout.showsAt counter second = false

variable {layout}

theorem Independent.symm {first second : UInt8}
    (independent : layout.Independent first second) : layout.Independent second first where
  pins pin used other := independent.pins pin other used
  counters counter shown := by
    rw [← Bool.not_eq_true]
    intro other
    have hidden := independent.counters counter other
    rw [shown] at hidden
    cases hidden

theorem independent_addressOf {first second : Fin layout.size}
    (pins : ∀ pin ∈ (layout.register first).behaviour.pinsNamed,
      pin ∉ (layout.register second).behaviour.pinsNamed)
    (counters : ∀ counter, (layout.register first).behaviour.shows counter = true →
      (layout.register second).behaviour.shows counter = false) :
    layout.Independent (layout.addressOf first) (layout.addressOf second) where
  pins pin used other := pins pin (layout.uses_addressOf_iff.mp used)
    (layout.uses_addressOf_iff.mp other)
  counters counter := by
    rw [layout.showsAt_addressOf, layout.showsAt_addressOf]
    exact counters counter

end Layout

namespace Register

variable {register : Register} {payload : Bytes}

theorem find?_pulsesAfter_congr {first second : Pulses} {pin : Pin}
    (same : second.find? pin = first.find? pin)
    (firstTakes : Controller.Acceptable first register payload)
    (secondTakes : Controller.Acceptable second register payload) :
    (register.pulsesAfter payload second).find? pin =
      (register.pulsesAfter payload first).find? pin := by
  cases behaviour : register.behaviour with
  | drive rule lines =>
      simp only [pulsesAfter, behaviour, Pulses.find?_cancelEach, same]
  | pulse rule line =>
      simp only [Controller.Acceptable, behaviour] at firstTakes secondTakes
      obtain ⟨duration, length⟩ := Controller.exists_pulseDuration?_iff.mpr firstTakes.2.1
      obtain ⟨firstArmed, firstStarted⟩ :=
        (first.exists_arm?_iff line duration).mpr firstTakes.2.2
      obtain ⟨secondArmed, secondStarted⟩ :=
        (second.exists_arm?_iff line duration).mpr secondTakes.2.2
      simp only [pulsesAfter, behaviour, length, firstStarted, secondStarted,
        Option.getD_some, Pulses.find?_arm? firstStarted, Pulses.find?_arm? secondStarted,
        same]
  | pins | latch | constant | setting | counter =>
      simp only [pulsesAfter, behaviour]
      exact same

theorem size_pulsesAfter_le (pulses : Pulses) :
    (register.pulsesAfter payload pulses).size ≤ pulses.size + 1 := by
  rw [pulsesAfter]
  cases register.behaviour with
  | drive rule lines => exact Nat.le_succ_of_le (pulses.size_cancelEach_le lines)
  | pulse rule line =>
      dsimp only
      split
      · rename_i duration _
        cases started : pulses.arm? line duration with
        | none => exact Nat.le_succ _
        | some armed => exact Pulses.size_arm?_le started
      · exact Nat.le_succ _
  | pins | latch | constant | setting | counter => exact Nat.le_succ _

theorem count_signalsAfter_congr {first second : Signals} {counter : Nat}
    (same : second.count counter = first.count counter) :
    (register.signalsAfter second).count counter =
      (register.signalsAfter first).count counter := by
  rw [signalsAfter, signalsAfter]
  cases register.behaviour with
  | counter reset =>
      dsimp only
      rw [Signals.reset, Signals.reset, Signals.count_setCounter, Signals.count_setCounter, same]
  | pins | latch | constant | setting | drive | pulse => exact same

theorem latched_signalsAfter (signals : Signals) :
    (register.signalsAfter signals).latched = signals.latched := by
  rw [signalsAfter]
  cases register.behaviour <;> rfl

end Register

namespace Controller

theorem acceptable_congr {layout : Layout} {index : Fin layout.size} {payload : Bytes}
    {first second : Pulses}
    (timers : Layout.StartsPulse layout (.write (layout.addressOf index) payload) →
      first.size < Pulses.capacity ∧ second.size < Pulses.capacity) :
    Acceptable second (layout.register index) payload ↔
      Acceptable first (layout.register index) payload := by
  cases behaviour : (layout.register index).behaviour with
  | pulse rule line =>
      obtain ⟨firstFree, secondFree⟩ := timers ⟨index, rfl, rule, line, behaviour⟩
      simp only [Acceptable, behaviour, firstFree, secondFree, true_or]
  | pins | latch | constant | setting | drive | counter =>
      simp only [Acceptable, behaviour]

/-- What a request for an address looks at is the same in two controllers, but for the
number of free timers. -/
structure AgreeAt (address : UInt8) (first second : Controller SimulatedPins) : Prop where
  layout : second.layout = first.layout
  bytes : ∀ position, first.layout.Covers address position →
    second.store.bytes[position]? = first.store.bytes[position]?
  pins : ∀ pin, first.layout.Uses address pin →
    second.pins.pin pin = first.pins.pin pin
  pulses : ∀ pin, first.layout.Uses address pin →
    second.pulses.find? pin = first.pulses.find? pin
  counters : ∀ counter, first.layout.showsAt counter address = true →
    second.signals.count counter = first.signals.count counter
  latched : second.signals.latched = first.signals.latched

namespace AgreeAt

variable {layout : Layout} {firstStore secondStore : Store layout.totalBytes}
  {firstPins secondPins : SimulatedPins} {firstSignals secondSignals : Signals}
  {firstPulses secondPulses : Pulses} {index : Fin layout.size}

theorem sampled_eq
    (agree : AgreeAt (layout.addressOf index)
      ⟨layout, firstStore, firstPins, firstSignals, firstPulses⟩
      ⟨layout, secondStore, secondPins, secondSignals, secondPulses⟩) :
    sampled ⟨layout, secondStore, secondPins, secondSignals, secondPulses⟩ index =
      sampled ⟨layout, firstStore, firstPins, firstSignals, firstPulses⟩ index := by
  apply sampled_congr
  · apply Store.view_congr
    intro position above below
    exact agree.bytes position ⟨index, rfl, above, below⟩
  · intro inputs behaviour pin sampled
    have used : layout.Uses (layout.addressOf index) pin :=
      ⟨index, rfl, by rw [behaviour]; exact sampled⟩
    exact congrArg SimulatedPin.read (agree.pins pin used)
  · intro counter resettable behaviour
    apply agree.counters
    rw [Layout.showsAt_addressOf]
    exact Behaviour.shows_iff.mpr ⟨resettable, behaviour⟩
  · exact agree.latched

theorem bytes_overwrite
    (agree : AgreeAt (layout.addressOf index)
      ⟨layout, firstStore, firstPins, firstSignals, firstPulses⟩
      ⟨layout, secondStore, secondPins, secondSignals, secondPulses⟩)
    {data : Bytes} (sized : data.length = (layout.register index).size) :
    AgreeAt (layout.addressOf index)
      ⟨layout, firstStore.overwrite (layout.start index) data, firstPins, firstSignals,
        firstPulses⟩
      ⟨layout, secondStore.overwrite (layout.start index) data, secondPins, secondSignals,
        secondPulses⟩ := by
  refine { agree with bytes := ?_ }
  intro position covered
  obtain ⟨place, same, above, below⟩ := covered
  cases layout.addressOf_injective same
  apply firstStore.getElem?_overwrite_congr secondStore above
  rw [sized]
  exact below

theorem carriedOut
    (agree : AgreeAt (layout.addressOf index)
      ⟨layout, firstStore, firstPins, firstSignals, firstPulses⟩
      ⟨layout, secondStore, secondPins, secondSignals, secondPulses⟩)
    {payload : Bytes} (sized : payload.length = (layout.register index).size)
    (firstTakes : Acceptable firstPulses (layout.register index) payload)
    (secondTakes : Acceptable secondPulses (layout.register index) payload) :
    AgreeAt (layout.addressOf index)
      (Controller.carriedOut
        ⟨layout, firstStore, firstPins, firstSignals, firstPulses⟩ index payload)
      (Controller.carriedOut
        ⟨layout, secondStore, secondPins, secondSignals, secondPulses⟩ index payload) where
  layout := rfl
  bytes := (agree.bytes_overwrite sized).bytes
  pins pin used := SimulatedPins.pin_driveEach_congr (agree.pins pin used) _
  pulses pin used :=
    Register.find?_pulsesAfter_congr (agree.pulses pin used) firstTakes secondTakes
  counters counter shown := Register.count_signalsAfter_congr (agree.counters counter shown)
  latched := by
    refine (Register.latched_signalsAfter secondSignals).trans ?_
    exact agree.latched.trans (Register.latched_signalsAfter firstSignals).symm

end AgreeAt

/-- What a controller answers to a request. -/
def reply {β : Type} [PinDriver β] (controller : Controller β) (request : BusRequest) :
    Answer :=
  controller.answer (.operation request.operation)

/-- The controller after a request. -/
def serve {β : Type} [PinDriver β] (controller : Controller β) (request : BusRequest) :
    Controller β :=
  controller.step request.operation

/-- A request is answered alike where its register is the same, and leaves the register
the same there. -/
theorem AgreeAt.serve {first second : Controller SimulatedPins} {request : BusRequest}
    (agree : AgreeAt request.address first second)
    (timers : first.layout.StartsPulse request →
      first.pulses.size < Pulses.capacity ∧ second.pulses.size < Pulses.capacity) :
    second.reply request = first.reply request ∧
      AgreeAt request.address (first.serve request) (second.serve request) := by
  obtain ⟨layout, firstStore, firstPins, firstSignals, firstPulses⟩ := first
  obtain ⟨_, secondStore, secondPins, secondSignals, secondPulses⟩ := second
  obtain rfl := agree.layout
  rename_i layout
  cases request with
  | read address =>
      simp only [reply, answer, BusRequest.operation, Controller.serve, step,
        BusRequest.address] at agree ⊢
      rcases read_together firstStore secondStore firstPins secondPins firstSignals secondSignals
          firstPulses secondPulses address with
        ⟨reason, refused, alsoRefused⟩ | ⟨index, rfl, served, alsoServed⟩
      · rw [refused, alsoRefused]
        exact ⟨rfl, agree⟩
      · have sample := agree.sampled_eq
        have sized := length_sampled
          ⟨layout, firstStore, firstPins, firstSignals, firstPulses⟩ index
        rw [served, alsoServed, refresh, refresh, sample]
        exact ⟨rfl, agree.bytes_overwrite sized⟩
  | write address payload =>
      simp only [reply, answer, BusRequest.operation, Controller.serve, step,
        BusRequest.address] at agree ⊢
      have sameAnswer : ∀ index, layout.addressOf index = address →
          (Acceptable secondPulses (layout.register index) payload ↔
            Acceptable firstPulses (layout.register index) payload) := by
        intro index place
        subst place
        exact acceptable_congr timers
      rcases write_together firstStore secondStore firstPins secondPins firstSignals
          secondSignals firstPulses secondPulses address payload sameAnswer with
        ⟨reason, refused, alsoRefused⟩ | ⟨index, rfl, sized, accepted, taken, alsoTaken⟩
      · rw [refused, alsoRefused]
        exact ⟨rfl, agree⟩
      · rw [taken, alsoTaken]
        exact ⟨rfl, agree.carriedOut sized accepted ((sameAnswer index rfl).mpr accepted)⟩

theorem layout_serve (controller : Controller SimulatedPins) (request : BusRequest) :
    (controller.serve request).layout = controller.layout :=
  controller.layout_step request.operation

theorem serve_frame (controller : Controller SimulatedPins) (request : BusRequest) :
    WriteFrame request.address controller (controller.serve request) := by
  cases request with
  | read address =>
      have frame := controller.read_frame address
      exact {
        layout := frame.layout
        bytes := frame.bytes
        pins := fun pin _ => congrArg (·.pin pin) frame.pins
        roles := fun pin => congrArg (fun pins => (pins.pin pin).role) frame.pins
        interrupts := congrArg (·.interrupts) frame.pins
        pulses := fun pin _ => congrArg (·.find? pin) frame.pulses
        counters := fun counter _ => congrArg (·.count counter) frame.signals
        flags := congrArg (·.flags) frame.signals
        latched := congrArg (·.latched) frame.signals }
  | write address payload => exact controller.write_frame address payload

theorem size_serve_le (controller : Controller SimulatedPins) (request : BusRequest) :
    (controller.serve request).pulses.size ≤ controller.pulses.size + 1 := by
  cases request with
  | read address =>
      have frame := controller.read_frame address
      rw [serve, BusRequest.operation, step, frame.pulses]
      exact Nat.le_succ _
  | write address payload =>
      have ended := controller.write_ends address payload
      rw [serve, BusRequest.operation, step]
      generalize controller.write address payload = outcome at ended ⊢
      cases ended with
      | invalidAddress | sizeMismatch | rejected => exact Nat.le_succ _
      | taken _ _ takes =>
          rw [takes.eq_after.2.2]
          exact Register.size_pulsesAfter_le controller.pulses

/-- A part of the state that belongs to one register, or to none. -/
inductive Place where
  | byteAt (position : Nat)
  | stateOf (pin : Pin)
  | pulseOn (pin : Pin)
  | countOf (counter : Nat)

namespace Place

/-- Whether a place belongs to the register at an address. -/
def BelongsTo (layout : Layout) (address : UInt8) : Place → Prop
  | .byteAt position => layout.Covers address position
  | .stateOf pin | .pulseOn pin => layout.Uses address pin
  | .countOf counter => layout.showsAt counter address = true

/-- Two controllers hold the same in a place. -/
def SameIn (first second : Controller SimulatedPins) : Place → Prop
  | .byteAt position => second.store.bytes[position]? = first.store.bytes[position]?
  | .stateOf pin => second.pins.pin pin = first.pins.pin pin
  | .pulseOn pin => second.pulses.find? pin = first.pulses.find? pin
  | .countOf counter => second.signals.count counter = first.signals.count counter

variable {place : Place} {first second third : Controller SimulatedPins}

theorem SameIn.symm (same : place.SameIn first second) : place.SameIn second first := by
  cases place <;> exact Eq.symm same

theorem SameIn.trans (same : place.SameIn first second) (next : place.SameIn second third) :
    place.SameIn first third := by
  cases place <;> exact Eq.trans next same

end Place

theorem AgreeAt.sameIn {address : UInt8} {first second : Controller SimulatedPins}
    (agree : AgreeAt address first second) {place : Place}
    (own : place.BelongsTo first.layout address) : place.SameIn first second := by
  cases place with
  | byteAt position => exact agree.bytes position own
  | stateOf pin => exact agree.pins pin own
  | pulseOn pin => exact agree.pulses pin own
  | countOf counter => exact agree.counters counter own

/-- A request keeps every place that does not belong to its register. -/
theorem sameIn_serve {layout : Layout} {controller : Controller SimulatedPins}
    (same : controller.layout = layout) (request : BusRequest) {place : Place}
    (foreign : ¬ place.BelongsTo layout request.address) :
    place.SameIn controller (controller.serve request) := by
  subst same
  have frame := controller.serve_frame request
  have unnamed : ∀ pin, ¬ controller.layout.Uses request.address pin →
      ¬ controller.layout.Names request.address pin := by
    intro pin unused named
    obtain ⟨index, place, driven⟩ := named
    exact unused ⟨index, place, Behaviour.lines_subset_pinsNamed _ pin driven⟩
  cases place with
  | byteAt position => exact frame.bytes position foreign
  | stateOf pin => exact frame.pins pin (unnamed pin foreign)
  | pulseOn pin => exact frame.pulses pin (unnamed pin foreign)
  | countOf counter =>
      apply frame.counters counter
      intro resets
      obtain ⟨index, place, behaviour⟩ := resets
      apply foreign
      rw [Place.BelongsTo, ← place, Layout.showsAt_addressOf]
      exact Behaviour.shows_iff.mpr ⟨true, behaviour⟩

/-- No place belongs to two registers that are independent. -/
theorem Place.not_belongsTo {layout : Layout} {first second : UInt8} (apart : first ≠ second)
    (independent : layout.Independent first second) {place : Place}
    (own : place.BelongsTo layout first) : ¬ place.BelongsTo layout second := by
  intro other
  cases place with
  | byteAt position =>
      obtain ⟨index, here, above, below⟩ := own
      obtain ⟨second, there, otherAbove, otherBelow⟩ := other
      have different : index ≠ second := by
        intro same
        exact apart (by rw [← here, ← there, same])
      rcases layout.apart different with before | after
      · omega
      · omega
  | stateOf pin | pulseOn pin => exact independent.pins pin own other
  | countOf counter =>
      have shown := independent.counters counter own
      rw [BelongsTo, shown] at other
      cases other

theorem agreeAt_serve {layout : Layout} {controller : Controller SimulatedPins}
    (same : controller.layout = layout) (request : BusRequest) {address : UInt8}
    (apart : request.address ≠ address)
    (independent : layout.Independent request.address address) :
    AgreeAt address controller (controller.serve request) := by
  subst same
  have kept : ∀ place : Place, place.BelongsTo controller.layout address →
      place.SameIn controller (controller.serve request) := by
    intro place other
    apply sameIn_serve rfl
    intro own
    exact Place.not_belongsTo apart independent own other
  have frame := controller.serve_frame request
  exact {
    layout := frame.layout
    bytes := fun position => kept (.byteAt position)
    pins := fun pin => kept (.stateOf pin)
    pulses := fun pin => kept (.pulseOn pin)
    counters := fun counter => kept (.countOf counter)
    latched := frame.latched }

/-- A request is answered the same before and after an independent one, and does the
same to its own register. -/
theorem serve_after {controller : Controller SimulatedPins} {first second : BusRequest}
    (apart : first.address ≠ second.address)
    (independent : controller.layout.Independent first.address second.address)
    (timers : ¬ controller.layout.StartsPulse second ∨
      controller.pulses.size + 2 ≤ Pulses.capacity) :
    (controller.serve first).reply second = controller.reply second ∧
      AgreeAt second.address (controller.serve second)
        ((controller.serve first).serve second) := by
  apply (agreeAt_serve rfl first apart independent).serve
  intro starts
  have free := timers.resolve_left (fun none => none starts)
  have grown := controller.size_serve_le first
  omega

/-- Whichever of two independent requests is served first, every place ends up the same. -/
theorem sameIn_either_order {controller : Controller SimulatedPins}
    {first second : BusRequest} (apart : first.address ≠ second.address)
    (independent : controller.layout.Independent first.address second.address)
    (timers : ¬ controller.layout.StartsPulse first ∧
        ¬ controller.layout.StartsPulse second ∨
      controller.pulses.size + 2 ≤ Pulses.capacity) (place : Place) :
    place.SameIn ((controller.serve first).serve second)
      ((controller.serve second).serve first) := by
  have firstLayout := controller.layout_serve first
  have secondLayout := controller.layout_serve second
  -- A place of one register is what its own request makes of it, in either order.
  by_cases ofFirst : place.BelongsTo controller.layout first.address
  · have foreign := Place.not_belongsTo apart independent ofFirst
    have kept := sameIn_serve firstLayout second foreign
    have again := (serve_after apart.symm independent.symm (timers.imp_left And.left)).2
    rw [← firstLayout] at ofFirst
    exact kept.symm.trans (again.sameIn ofFirst)
  · by_cases ofSecond : place.BelongsTo controller.layout second.address
    · have kept := sameIn_serve secondLayout first ofFirst
      have again := (serve_after apart independent (timers.imp_left And.right)).2
      rw [← secondLayout] at ofSecond
      exact (again.sameIn ofSecond).symm.trans kept
    · have firstKept := (sameIn_serve rfl first ofFirst).trans
        (sameIn_serve firstLayout second ofSecond)
      have secondKept := (sameIn_serve rfl second ofSecond).trans
        (sameIn_serve secondLayout first ofFirst)
      exact firstKept.symm.trans secondKept

/-- Two requests for different registers that have no pin and no counter in common can
change places: each gets the same answer, and the store, the pins, the signals and the
set of running pulses end up the same.  For a write that may need a pulse timer two timers
have to be free, since timers are what all registers share. -/
theorem requests_commute (controller : Controller SimulatedPins) {first second : BusRequest}
    (apart : first.address ≠ second.address)
    (independent : controller.layout.Independent first.address second.address)
    (timers : ¬ controller.layout.StartsPulse first ∧
        ¬ controller.layout.StartsPulse second ∨
      controller.pulses.size + 2 ≤ Pulses.capacity) :
    (controller.serve second).reply first = controller.reply first ∧
      (controller.serve first).reply second = controller.reply second ∧
      ((controller.serve second).serve first).store.bytes =
        ((controller.serve first).serve second).store.bytes ∧
      ((controller.serve second).serve first).pins =
        ((controller.serve first).serve second).pins ∧
      ((controller.serve second).serve first).signals =
        ((controller.serve first).serve second).signals ∧
      ∀ pulse, pulse ∈ ((controller.serve second).serve first).pulses.running ↔
        pulse ∈ ((controller.serve first).serve second).pulses.running := by
  have same := sameIn_either_order apart independent timers
  have early := controller.serve_frame first
  have late := (controller.serve first).serve_frame second
  have otherEarly := controller.serve_frame second
  have otherLate := (controller.serve second).serve_frame first
  refine ⟨(serve_after apart.symm independent.symm (timers.imp_left And.left)).1,
    (serve_after apart independent (timers.imp_left And.right)).1, ?_, ?_, ?_, ?_⟩
  · apply List.ext_getElem?
    intro position
    exact same (.byteAt position)
  · apply SimulatedPins.ext_pin
    · intro pin
      exact same (.stateOf pin)
    · rw [otherLate.interrupts, otherEarly.interrupts, late.interrupts, early.interrupts]
  · apply Signals.ext_count
    · intro counter
      exact same (.countOf counter)
    · rw [otherLate.flags, otherEarly.flags, late.flags, early.flags]
    · rw [otherLate.latched, otherEarly.latched, late.latched, early.latched]
  · apply Pulses.mem_running_congr
    intro pin
    exact same (.pulseOn pin)

/-- A pulse on a valve and a write to the driven port of the nose-poke controller change
places. -/
theorem requests_commute_nosePoke :
    let controller : Controller SimulatedPins :=
      { layout := NosePoke.layout, store := .zeroed, pins := .fresh, signals := .clear,
        pulses := .none }
    let pulse : BusRequest := .write 42 [5, 0]
    let port : BusRequest := .write 41 [15]
    (controller.serve port).reply pulse = .written (.ok ()) ∧
      ((controller.serve port).serve pulse).pins =
        ((controller.serve pulse).serve port).pins := by
  intro controller pulse port
  have independent : NosePoke.layout.Independent 42 41 :=
    @Layout.independent_addressOf NosePoke.layout ⟨10, by decide⟩ ⟨9, by decide⟩ (by decide)
      (by intro counter shown; cases shown)
  have commute := @requests_commute controller pulse port (by decide) independent
    (.inr (by decide))
  have accepted : controller.write 42 [5, 0] = .accepted _ :=
    controller.write_acceptable ⟨10, by decide⟩ rfl
      ⟨by decide, ⟨5, rfl, by decide, by decide⟩, .inl (by decide)⟩
  have answered : controller.reply pulse = .written (.ok ()) :=
    congrArg (Answer.written ∘ Prod.fst) accepted
  exact ⟨commute.1.trans answered, commute.2.2.2.1⟩

end Controller

end Instrument

import Instrument.NosePoke.Registers
import Instrument.Pin.Record
import Instrument.Proofs.DrivenPins
import Instrument.Proofs.Placement
import Instrument.Proofs.StoreWindows

/-!
# Outcomes of reads and writes

`Acceptable` says which payloads of the right size a register accepts, and `Takes`
adds what an accepted write leaves on the pins, in the signals and in the pulse
timers.  `ReadEnds` and `WriteEnds` list all ways in which a request ends; what a
request changes is read off their cases, never off the executable definitions.
-/

namespace Instrument.Controller

variable {β : Type}

/-- The payloads of the right size that a register accepts while some pulses run. -/
def Acceptable (pulses : Pulses) (register : Register) (payload : Bytes) : Prop :=
  let kind := register.descriptor.kind
  match register.behaviour with
  | .pins _ | .latch _ | .constant => False
  | .setting rule | .drive rule _ => rule.accepts kind payload = true
  | .pulse rule line =>
    rule.accepts kind payload = true ∧
      (∃ value, kind.integer? payload = some value ∧
        1 ≤ value ∧ value ≤ 4294967295) ∧
      (pulses.size < Pulses.capacity ∨
        ∃ pulse ∈ pulses.running, pulse.line.pin = line.pin)
  | .counter _ resettable => resettable = true ∧ ∀ byte ∈ payload, byte = 0

theorem pulseDuration?_eq_some_iff
    {kind : Element.Kind} {payload : Bytes} {duration : Nat} :
    pulseDuration? kind payload = some duration ↔
      kind.integer? payload = some (duration : Int) ∧
        1 ≤ duration ∧ duration ≤ 4294967295 := by
  rw [pulseDuration?]
  cases kind.integer? payload with
  | none => simp
  | some value =>
      simp only [Option.ite_none_right_eq_some, Option.some.injEq]
      omega

theorem exists_pulseDuration?_iff {kind : Element.Kind} {payload : Bytes} :
    (∃ duration, pulseDuration? kind payload = some duration) ↔
      ∃ value, kind.integer? payload = some value ∧
        1 ≤ value ∧ value ≤ 4294967295 := by
  simp only [pulseDuration?_eq_some_iff]
  constructor
  · intro measured
    obtain ⟨duration, integer, positive, bounded⟩ := measured
    exact ⟨duration, integer, by omega, by omega⟩
  · intro measured
    obtain ⟨value, integer, positive, bounded⟩ := measured
    obtain ⟨duration, rfl⟩ := Int.eq_ofNat_of_zero_le (by omega : 0 ≤ value)
    exact ⟨duration, integer, by omega, by omega⟩

theorem locate_eq (controller : Controller β) (address : UInt8) :
    (∃ index, controller.layout.addressOf index = address ∧
        controller.locate address = .ok index) ∨
      ¬ (controller.layout.minAddress ≤ address ∧
          address ≤ controller.layout.maxAddress) ∧
        controller.locate address = .error (.invalidAddress address) := by
  rw [locate]
  cases found : controller.layout.indexOf? address with
  | none => exact .inr ⟨controller.layout.indexOf?_eq_none_iff.mp found, rfl⟩
  | some index =>
      exact .inl ⟨index, controller.layout.indexOf?_eq_some_iff.mp found, rfl⟩

theorem locateSized_addressOf (controller : Controller β) (index : Fin controller.layout.size)
    (payload : Bytes) :
    controller.locateSized (controller.layout.addressOf index) payload =
      if payload.length = (controller.layout.register index).size then .ok index
      else .error (.sizeMismatch (controller.layout.register index).size payload.length) := by
  rw [locateSized, locate, Layout.indexOf?_addressOf]

theorem length_stored (controller : Controller β)
    (index : Fin controller.layout.size) :
    (controller.stored index).length = (controller.layout.register index).size :=
  controller.store.length_view _ _ (controller.layout.stop_le_totalBytes index)

variable [PinDriver β]

theorem length_sampled (controller : Controller β)
    (index : Fin controller.layout.size) :
    (controller.sampled index).length =
      (controller.layout.register index).size := by
  have whole := controller.length_stored index
  rw [sampled]
  cases (controller.layout.register index).behaviour with
  | pins | counter => exact (Bytes.length_overwrite _ _ _).trans whole
  | latch window =>
      simp only [Signals.readLatch]
      split
      · rw [Bytes.length_overwrite, whole]
      · exact whole
  | constant | setting | drive | pulse => exact whole

/-- The writes that a register takes, with the pins, signals and pulses that each
of them leaves. -/
inductive Takes (controller : Controller β) (register : Register)
    (payload : Bytes) : β → Signals → Pulses → Prop where
  | setting {rule : Rule} :
      register.behaviour = .setting rule →
      rule.accepts register.descriptor.kind payload = true →
      Takes controller register payload
        controller.pins controller.signals controller.pulses
  | drive {rule : Rule} {lines : List OutputLine} :
      register.behaviour = .drive rule lines →
      rule.accepts register.descriptor.kind payload = true →
      Takes controller register payload
        (PinDriver.driveEach controller.pins
          (bitCommands (register.descriptor.kind.bits payload) lines))
        controller.signals (controller.pulses.cancelEach lines)
  | pulse {rule : Rule} {line : OutputLine} {duration : Nat} {armed : Pulses} :
      register.behaviour = .pulse rule line →
      rule.accepts register.descriptor.kind payload = true →
      pulseDuration? register.descriptor.kind payload = some duration →
      controller.pulses.arm? line duration = some armed →
      Takes controller register payload
        (PinDriver.drive controller.pins line true) controller.signals armed
  | counter {counter : Nat} :
      register.behaviour = .counter counter true →
      (∀ byte ∈ payload, byte = 0) →
      Takes controller register payload
        controller.pins (controller.signals.reset counter) controller.pulses

theorem Takes.acceptsWrites {controller : Controller β} {register : Register}
    {payload : Bytes} {pins : β} {signals : Signals} {pulses : Pulses}
    (takes : Takes controller register payload pins signals pulses) :
    register.behaviour.acceptsWrites = true := by
  cases takes with
  | setting behaviour | drive behaviour | pulse behaviour | counter behaviour =>
      rw [behaviour]
      rfl

theorem Takes.acceptable {controller : Controller β} {register : Register}
    {payload : Bytes} {pins : β} {signals : Signals} {pulses : Pulses}
    (takes : Takes controller register payload pins signals pulses) :
    Acceptable controller.pulses register payload := by
  cases takes with
  | setting behaviour passes | drive behaviour passes =>
      simpa only [Acceptable, behaviour] using passes
  | pulse behaviour passes length started =>
      simp only [Acceptable, behaviour]
      exact ⟨passes, exists_pulseDuration?_iff.mp ⟨_, length⟩,
        (controller.pulses.exists_arm?_iff _ _).mp ⟨_, started⟩⟩
  | counter behaviour zeros =>
      simp only [Acceptable, behaviour]
      exact ⟨trivial, zeros⟩

/-- The ways in which a read ends. -/
inductive ReadEnds (controller : Controller β) (address : UInt8) :
    Except RequestError Bytes × Controller β → Prop where
  | invalidAddress :
      ¬ (controller.layout.minAddress ≤ address ∧
        address ≤ controller.layout.maxAddress) →
      ReadEnds controller address (.error (.invalidAddress address), controller)
  | sampled {index : Fin controller.layout.size} :
      controller.layout.addressOf index = address →
      ReadEnds controller address
        (.ok ((controller.refresh index).stored index), controller.refresh index)

/-- The ways in which a write ends. -/
inductive WriteEnds (controller : Controller β) (address : UInt8)
    (payload : Bytes) : Attempt RequestError (Controller β) → Prop where
  | invalidAddress :
      ¬ (controller.layout.minAddress ≤ address ∧
        address ≤ controller.layout.maxAddress) →
      WriteEnds controller address payload
        (.refused (.invalidAddress address) controller)
  | sizeMismatch {index : Fin controller.layout.size} :
      controller.layout.addressOf index = address →
      payload.length ≠ (controller.layout.register index).size →
      WriteEnds controller address payload
        (.refused (.sizeMismatch (controller.layout.register index).size
          payload.length) controller)
  | rejected {index : Fin controller.layout.size} :
      controller.layout.addressOf index = address →
      payload.length = (controller.layout.register index).size →
      ¬ Acceptable controller.pulses (controller.layout.register index) payload →
      WriteEnds controller address payload (.refused .rejected controller)
  | taken {index : Fin controller.layout.size} {pins : β} {signals : Signals}
      {pulses : Pulses} :
      controller.layout.addressOf index = address →
      payload.length = (controller.layout.register index).size →
      Takes controller (controller.layout.register index) payload
        pins signals pulses →
      WriteEnds controller address payload
        (.accepted { controller.putStored index payload with
          pins := pins, signals := signals, pulses := pulses })

theorem read_ends (controller : Controller β) (address : UInt8) :
    ReadEnds controller address (controller.read address) := by
  rcases controller.locate_eq address with ⟨index, place, found⟩ | ⟨outside, missing⟩
  · rw [Controller.read, found]
    exact .sampled place
  · rw [Controller.read, missing]
    exact .invalidAddress outside

/-- The ways in which a write ends whose address and size are right. -/
inductive PerformEnds (controller : Controller β)
    (index : Fin controller.layout.size) (payload : Bytes) :
    Attempt RequestError (Controller β) → Prop where
  | rejected :
      ¬ Acceptable controller.pulses (controller.layout.register index) payload →
      PerformEnds controller index payload (.refused .rejected controller)
  | taken {pins : β} {signals : Signals} {pulses : Pulses} :
      Takes controller (controller.layout.register index) payload
        pins signals pulses →
      PerformEnds controller index payload
        (.accepted { controller.putStored index payload with
          pins := pins, signals := signals, pulses := pulses })

theorem perform_pulse_ends (controller : Controller β)
    {index : Fin controller.layout.size} {rule : Rule} {line : OutputLine}
    (behaviour : (controller.layout.register index).behaviour = .pulse rule line)
    (payload : Bytes) :
    PerformEnds controller index payload (controller.perform index payload) := by
  simp only [perform, behaviour]
  by_cases passes : rule.accepts
      (controller.layout.register index).descriptor.kind payload = true
  · rw [if_pos passes]
    cases length : pulseDuration?
        (controller.layout.register index).descriptor.kind payload with
    | none =>
        apply PerformEnds.rejected
        simp only [Acceptable, behaviour, ← exists_pulseDuration?_iff, length]
        simp
    | some duration =>
        simp only
        cases started : controller.pulses.arm? line duration with
        | none =>
            apply PerformEnds.rejected
            simp only [Acceptable, behaviour,
              ← controller.pulses.exists_arm?_iff line duration, started]
            simp
        | some armed => exact .taken (.pulse behaviour passes length started)
  · rw [if_neg passes]
    apply PerformEnds.rejected
    simp only [Acceptable, behaviour]
    intro acceptable
    exact passes acceptable.1

theorem perform_counter_ends (controller : Controller β)
    {index : Fin controller.layout.size} {counter : Nat} {resettable : Bool}
    (behaviour : (controller.layout.register index).behaviour =
      .counter counter resettable)
    {payload : Bytes}
    (sized : payload.length = (controller.layout.register index).size) :
    PerformEnds controller index payload (controller.perform index payload) := by
  simp only [perform, behaviour]
  have allZero : (payload.all (· == 0)) = true ↔ ∀ byte ∈ payload, byte = 0 := by
    simp
  by_cases zeros : resettable = true ∧ ∀ byte ∈ payload, byte = 0
  · obtain ⟨rfl, zeros⟩ := zeros
    -- A payload of zeros is the zeros that the reset stores.
    have whole : payload = Bytes.zeros (controller.layout.register index).size :=
      List.eq_replicate_iff.mpr ⟨sized, zeros⟩
    rw [allZero.mpr zeros, Bool.and_self, if_pos rfl, ← whole]
    exact .taken (.counter behaviour zeros)
  · rw [← allZero, ← Bool.and_eq_true] at zeros
    rw [if_neg zeros]
    apply PerformEnds.rejected
    simp only [Acceptable, behaviour]
    rw [← allZero, ← Bool.and_eq_true]
    exact zeros

theorem perform_ends (controller : Controller β)
    (index : Fin controller.layout.size) {payload : Bytes}
    (sized : payload.length = (controller.layout.register index).size) :
    PerformEnds controller index payload (controller.perform index payload) := by
  cases behaviour : (controller.layout.register index).behaviour with
  | pins inputs | latch window | constant =>
      simp only [perform, behaviour]
      apply PerformEnds.rejected
      simp only [Acceptable, behaviour, not_false_eq_true]
  | setting rule =>
      simp only [perform, behaviour]
      split
      · rename_i passes
        exact .taken (.setting behaviour passes)
      · rename_i fails
        apply PerformEnds.rejected
        simpa only [Acceptable, behaviour] using fails
  | drive rule lines =>
      simp only [perform, behaviour]
      split
      · rename_i passes
        rw [driveLines_eq]
        exact .taken (.drive behaviour passes)
      · rename_i fails
        apply PerformEnds.rejected
        simpa only [Acceptable, behaviour] using fails
  | pulse rule line => exact controller.perform_pulse_ends behaviour payload
  | counter counter resettable =>
      exact controller.perform_counter_ends behaviour sized

theorem write_ends (controller : Controller β) (address : UInt8)
    (payload : Bytes) :
    WriteEnds controller address payload (controller.write address payload) := by
  rw [Controller.write, locateSized]
  rcases controller.locate_eq address with ⟨index, place, found⟩ | ⟨outside, missing⟩
  · rw [found]
    by_cases sized : payload.length = (controller.layout.register index).size
    · simp only [if_pos sized]
      have ended := controller.perform_ends index sized
      generalize controller.perform index payload = outcome at ended ⊢
      cases ended with
      | rejected unacceptable => exact .rejected place sized unacceptable
      | taken takes => exact .taken place sized takes
    · simp only [if_neg sized]
      exact .sizeMismatch place sized
  · rw [missing]
    exact .invalidAddress outside

/-- How the answer to a write depends on the address, the size of the payload and
what the register accepts. -/
structure WriteAnswered (controller : Controller β) (address : UInt8)
    (payload : Bytes) (answer : Except RequestError Unit) : Prop where
  invalidAddress :
    answer = .error (.invalidAddress address) ↔
      ¬ (controller.layout.minAddress ≤ address ∧
        address ≤ controller.layout.maxAddress)
  sizeMismatch : ∀ register ∈ controller.layout.registers,
    register.descriptor.address = address →
      (answer = .error (.sizeMismatch
          (register.descriptor.count * register.descriptor.kind.width)
          payload.length) ↔
        payload.length ≠
          register.descriptor.count * register.descriptor.kind.width)
  ok : ∀ register ∈ controller.layout.registers,
    register.descriptor.address = address →
      payload.length =
        register.descriptor.count * register.descriptor.kind.width →
      (answer = .ok () ↔ Acceptable controller.pulses register payload)
  rejected : ∀ register ∈ controller.layout.registers,
    register.descriptor.address = address →
      payload.length =
        register.descriptor.count * register.descriptor.kind.width →
      (answer = .error .rejected ↔
        ¬ Acceptable controller.pulses register payload)

/-- At the address of a register the size of the payload decides first and the
register second. -/
theorem write_answer_cases (controller : Controller β) (payload : Bytes)
    {register : Register} (member : register ∈ controller.layout.registers)
    {answer : Except RequestError Unit}
    (given : (controller.write register.descriptor.address payload).1 = answer) :
    payload.length ≠ register.size ∧
        answer = .error (.sizeMismatch register.size payload.length) ∨
      payload.length = register.size ∧
        ¬ Acceptable controller.pulses register payload ∧
        answer = .error .rejected ∨
      payload.length = register.size ∧
        Acceptable controller.pulses register payload ∧ answer = .ok () := by
  subst given
  have ended := controller.write_ends register.descriptor.address payload
  have found : ∀ index,
      controller.layout.addressOf index = register.descriptor.address →
        controller.layout.register index = register := by
    intro index place
    exact controller.layout.register_eq_of_address member place.symm
  generalize controller.write register.descriptor.address payload = outcome at ended ⊢
  cases ended with
  | invalidAddress outside =>
      exact (outside (controller.layout.inside_of_mem member)).elim
  | sizeMismatch place wrong =>
      rw [found _ place] at wrong ⊢
      exact .inl ⟨wrong, rfl⟩
  | rejected place sized unacceptable =>
      rw [found _ place] at sized unacceptable
      exact .inr (.inl ⟨sized, unacceptable, rfl⟩)
  | taken place sized takes =>
      rw [found _ place] at sized takes
      exact .inr (.inr ⟨sized, takes.acceptable, rfl⟩)

theorem write_answered (controller : Controller β) (address : UInt8)
    (payload : Bytes) :
    WriteAnswered controller address payload
      (controller.write address payload).1 := by
  constructor
  · have ended := controller.write_ends address payload
    generalize controller.write address payload = outcome at ended ⊢
    cases ended with
    | invalidAddress outside => exact ⟨fun _ => outside, fun _ => rfl⟩
    | sizeMismatch place | rejected place | taken place =>
        have inside :=
          (controller.layout.exists_addressOf_iff address).mp ⟨_, place⟩
        simp [Attempt.refused, Attempt.accepted, inside]
  · intro register member same
    subst same
    rcases controller.write_answer_cases payload member rfl with
      ⟨wrong, answer⟩ | ⟨sized, _, answer⟩ | ⟨sized, _, answer⟩
    · exact ⟨fun _ => wrong, fun _ => answer⟩
    · apply iff_of_false
      · simp [answer]
      · exact fun wrong => wrong sized
    · apply iff_of_false
      · simp [answer]
      · exact fun wrong => wrong sized
  · intro register member same sized
    subst same
    rcases controller.write_answer_cases payload member rfl with
      ⟨wrong, _⟩ | ⟨_, unacceptable, answer⟩ | ⟨_, acceptable, answer⟩
    · exact (wrong sized).elim
    · simp [answer, unacceptable]
    · simp [answer, acceptable]
  · intro register member same sized
    subst same
    rcases controller.write_answer_cases payload member rfl with
      ⟨wrong, _⟩ | ⟨_, unacceptable, answer⟩ | ⟨_, acceptable, answer⟩
    · exact (wrong sized).elim
    · simp [answer, unacceptable]
    · simp [answer, acceptable]

theorem write_taken (controller : Controller β) {address : UInt8} {payload : Bytes}
    (accepted : (controller.write address payload).1 = .ok ()) :
    ∃ index, controller.layout.addressOf index = address ∧
      payload.length = (controller.layout.register index).size ∧
      Takes controller (controller.layout.register index) payload
        (controller.write address payload).2.pins
        (controller.write address payload).2.signals
        (controller.write address payload).2.pulses := by
  have ended := controller.write_ends address payload
  generalize controller.write address payload = outcome at ended accepted ⊢
  cases ended with
  | invalidAddress | sizeMismatch | rejected => cases accepted
  | taken place sized takes => exact ⟨_, place, sized, takes⟩

theorem write_refused (controller : Controller β) {address : UInt8}
    {payload : Bytes} {reason : RequestError}
    (refused : (controller.write address payload).1 = .error reason) :
    (controller.write address payload).2 = controller := by
  have ended := controller.write_ends address payload
  generalize controller.write address payload = outcome at ended refused ⊢
  cases ended with
  | invalidAddress | sizeMismatch | rejected => rfl
  | taken => cases refused

/-- A read fails only outside the addresses of the layout, and then changes
nothing. -/
theorem read_refused (controller : Controller β) {address : UInt8}
    {reason : RequestError} (refused : (controller.read address).1 = .error reason) :
    reason = .invalidAddress address ∧
      ¬ (controller.layout.minAddress ≤ address ∧
        address ≤ controller.layout.maxAddress) ∧
      (controller.read address).2 = controller := by
  have ended := controller.read_ends address
  generalize controller.read address = outcome at ended refused ⊢
  cases ended with
  | invalidAddress outside =>
      cases refused
      exact ⟨rfl, outside, rfl⟩
  | sampled => cases refused

theorem read_outside (controller : Controller β) {address : UInt8}
    (outside : ¬ (controller.layout.minAddress ≤ address ∧
      address ≤ controller.layout.maxAddress)) :
    (controller.read address).1 = .error (.invalidAddress address) := by
  rw [Controller.read, locate, controller.layout.indexOf?_eq_none_iff.mpr outside]

/-- A write is answered by address, then size, then behaviour; a read fails by
address alone; and a refused request leaves the whole controller as it was, without
a single call on the pins. -/
theorem request_outcomes (controller : Controller β) (address : UInt8)
    (payload : Bytes) :
    WriteAnswered controller address payload
        (controller.write address payload).1 ∧
      (controller.layout.minAddress ≤ address ∧
          address ≤ controller.layout.maxAddress ↔
        ∃ register ∈ controller.layout.registers,
          register.descriptor.address = address) ∧
      ((controller.read address).1 = .error (.invalidAddress address) ↔
        ¬ (controller.layout.minAddress ≤ address ∧
          address ≤ controller.layout.maxAddress)) ∧
      (∀ reason, (controller.read address).1 = .error reason →
        reason = .invalidAddress address ∧
          (controller.read address).2 = controller) ∧
      (∀ reason, (controller.write address payload).1 = .error reason →
        (controller.write address payload).2 = controller) ∧
      ∀ (recorded : Controller (RecordedPins β)) (reason : RequestError),
        ((recorded.read address).1 = .error reason →
          (recorded.read address).2.pins.calls = recorded.pins.calls) ∧
        ((recorded.write address payload).1 = .error reason →
          (recorded.write address payload).2.pins.calls = recorded.pins.calls) := by
  refine ⟨controller.write_answered address payload, ?_, ?_, ?_, ?_, ?_⟩
  · constructor
    · intro inside
      obtain ⟨index, place⟩ := (controller.layout.exists_addressOf_iff address).mpr inside
      exact ⟨controller.layout.register index, List.get_mem _ _,
        (controller.layout.address_register index).trans place⟩
    · intro served
      obtain ⟨register, member, same⟩ := served
      subst same
      exact controller.layout.inside_of_mem member
  · constructor
    · intro refused
      exact (controller.read_refused refused).2.1
    · exact controller.read_outside
  · intro reason refused
    have unchanged := controller.read_refused refused
    exact ⟨unchanged.1, unchanged.2.2⟩
  · intro reason refused
    exact controller.write_refused refused
  · intro recorded reason
    constructor
    · intro refused
      rw [(recorded.read_refused refused).2.2]
    · intro refused
      rw [recorded.write_refused refused]

/-- The nose-poke controller takes a pulse of 256 milliseconds, refuses one of none,
and has no register at the address 44. -/
theorem request_outcomes_nosePoke :
    let controller : Controller SimulatedPins :=
      { layout := NosePoke.layout, store := .zeroed, pins := .fresh, signals := .clear,
        pulses := .none }
    (controller.write 42 [0, 1]).1 = .ok () ∧
      (controller.write 42 [0, 0]).1 = .error .rejected ∧
      (controller.read 44).1 = .error (.invalidAddress 44) := by
  intro controller
  have member : controller.layout.register ⟨10, by decide⟩ ∈
      controller.layout.registers := List.get_mem _ _
  refine ⟨?_, ?_, ?_⟩
  · apply ((controller.request_outcomes 42 [0, 1]).1.ok _ member rfl rfl).mpr
    exact ⟨by decide, ⟨256, rfl, by decide, by decide⟩, .inl (by decide)⟩
  · apply ((controller.request_outcomes 42 [0, 0]).1.rejected _ member rfl rfl).mpr
    intro acceptable
    obtain ⟨_, ⟨value, integer, positive, _⟩, _⟩ := acceptable
    cases integer
    exact absurd positive (by decide)
  · apply (controller.request_outcomes 44 []).2.2.1.mpr
    decide

end Instrument.Controller

import Instrument.Proofs.StoredRegisters

/-!
# Requests as equations

A read of a register answers with its sample and stores it.  A write to a register is
refused for its size, refused for its payload, or carried out, and what it then leaves
behind is a function of the register, the payload and the state before.
-/

namespace Instrument

namespace Register

variable (register : Register) (payload : Bytes)

/-- The lines that an accepted write drives, in order. -/
def commands : List (OutputLine × Bool) :=
  match register.behaviour with
  | .drive _ lines => bitCommands (register.descriptor.kind.bits payload) lines
  | .pulse _ line => [(line, true)]
  | .pins _ | .latch _ | .constant | .setting _ | .counter _ _ => []

/-- The pulses that an accepted write leaves running. -/
def pulsesAfter (pulses : Pulses) : Pulses :=
  match register.behaviour with
  | .drive _ lines => pulses.cancelEach lines
  | .pulse _ line =>
    match Controller.pulseDuration? register.descriptor.kind payload with
    | some duration => (pulses.arm? line duration).getD pulses
    | none => pulses
  | .pins _ | .latch _ | .constant | .setting _ | .counter _ _ => pulses

/-- The signals that an accepted write leaves. -/
def signalsAfter (signals : Signals) : Signals :=
  match register.behaviour with
  | .counter counter _ => signals.reset counter
  | .pins _ | .latch _ | .constant | .setting _ | .drive _ _ | .pulse _ _ => signals

end Register

namespace Controller

variable {β : Type} [PinDriver β]

/-- The controller after a write that is accepted. -/
def carriedOut (controller : Controller β) (index : Fin controller.layout.size)
    (payload : Bytes) : Controller β :=
  let register := controller.layout.register index
  { controller.putStored index payload with
    pins := PinDriver.driveEach controller.pins (register.commands payload)
    signals := register.signalsAfter controller.signals
    pulses := register.pulsesAfter payload controller.pulses }

theorem Takes.eq_after {controller : Controller β} {register : Register} {payload : Bytes}
    {pins : β} {signals : Signals} {pulses : Pulses}
    (takes : Takes controller register payload pins signals pulses) :
    pins = PinDriver.driveEach controller.pins (register.commands payload) ∧
      signals = register.signalsAfter controller.signals ∧
      pulses = register.pulsesAfter payload controller.pulses := by
  cases takes with
  | setting behaviour | drive behaviour | counter behaviour =>
      rw [Register.commands, Register.signalsAfter, Register.pulsesAfter, behaviour]
      exact ⟨rfl, rfl, rfl⟩
  | pulse behaviour _ length started =>
      rw [Register.commands, Register.signalsAfter, Register.pulsesAfter, behaviour]
      refine ⟨rfl, rfl, ?_⟩
      simp only [length, started, Option.getD_some]

section Served

variable (controller : Controller β) (index : Fin controller.layout.size) {payload : Bytes}

theorem read_served :
    controller.read (controller.layout.addressOf index) =
      (.ok (controller.sampled index), controller.refresh index) := by
  rw [read, locate, Layout.indexOf?_addressOf]
  have shown := controller.held_putStored index index (controller.length_sampled index)
  rw [if_pos rfl] at shown
  exact congrArg (fun bytes => (Except.ok bytes, controller.refresh index)) shown

theorem write_missized
    (missized : payload.length ≠ (controller.layout.register index).size) :
    controller.write (controller.layout.addressOf index) payload =
      .refused (.sizeMismatch (controller.layout.register index).size payload.length)
        controller := by
  rw [write, locateSized_addressOf, if_neg missized]

/-- A write of the right size does what the behaviour of its register says. -/
theorem write_sized (sized : payload.length = (controller.layout.register index).size) :
    controller.write (controller.layout.addressOf index) payload =
      controller.perform index payload := by
  rw [write, locateSized_addressOf, if_pos sized]

theorem write_unacceptable
    (sized : payload.length = (controller.layout.register index).size)
    (unacceptable :
      ¬ Acceptable controller.pulses (controller.layout.register index) payload) :
    controller.write (controller.layout.addressOf index) payload =
      .refused .rejected controller := by
  rw [controller.write_sized index sized]
  have ended := controller.perform_ends index sized
  generalize controller.perform index payload = outcome at ended ⊢
  cases ended with
  | rejected => rfl
  | taken takes => exact (unacceptable takes.acceptable).elim

theorem write_acceptable
    (sized : payload.length = (controller.layout.register index).size)
    (acceptable : Acceptable controller.pulses (controller.layout.register index) payload) :
    controller.write (controller.layout.addressOf index) payload =
      .accepted (controller.carriedOut index payload) := by
  rw [controller.write_sized index sized]
  have ended := controller.perform_ends index sized
  generalize controller.perform index payload = outcome at ended ⊢
  cases ended with
  | rejected unacceptable => exact (unacceptable acceptable).elim
  | taken takes =>
      obtain ⟨pins, signals, pulses⟩ := takes.eq_after
      rw [pins, signals, pulses]
      rfl

end Served

section Unserved

variable (controller : Controller β) {address : UInt8}
  (outside : controller.layout.indexOf? address = none)

include outside

theorem read_unserved :
    controller.read address = (.error (.invalidAddress address), controller) := by
  rw [read, locate, outside]

theorem write_unserved (payload : Bytes) :
    controller.write address payload =
      .refused (.invalidAddress address) controller := by
  rw [write, locateSized, locate, outside]

end Unserved

section Together

variable {γ : Type} [PinDriver γ] {layout : Layout}
  (firstStore secondStore : Store layout.totalBytes)
  (firstPins : β) (secondPins : γ) (firstSignals secondSignals : Signals)
  (firstPulses secondPulses : Pulses) (address : UInt8)

theorem read_together :
    let first : Controller β := ⟨layout, firstStore, firstPins, firstSignals, firstPulses⟩
    let second : Controller γ := ⟨layout, secondStore, secondPins, secondSignals, secondPulses⟩
    (∃ reason, first.read address = (.error reason, first) ∧
        second.read address = (.error reason, second)) ∨
      ∃ index, layout.addressOf index = address ∧
        first.read address = (.ok (first.sampled index), first.refresh index) ∧
          second.read address = (.ok (second.sampled index), second.refresh index) := by
  intro first second
  cases found : layout.indexOf? address with
  | none => exact .inl ⟨_, first.read_unserved found, second.read_unserved found⟩
  | some index =>
      obtain rfl := layout.indexOf?_eq_some_iff.mp found
      exact .inr ⟨index, rfl, first.read_served index, second.read_served index⟩

/-- A write goes the same way in two controllers with the same registers if the register
it is for accepts the payload in both or in neither. -/
theorem write_together (payload : Bytes)
    (same : ∀ index, layout.addressOf index = address →
      (Acceptable secondPulses (layout.register index) payload ↔
        Acceptable firstPulses (layout.register index) payload)) :
    let first : Controller β := ⟨layout, firstStore, firstPins, firstSignals, firstPulses⟩
    let second : Controller γ := ⟨layout, secondStore, secondPins, secondSignals, secondPulses⟩
    (∃ reason, first.write address payload = .refused reason first ∧
        second.write address payload = .refused reason second) ∨
      ∃ index, layout.addressOf index = address ∧
        payload.length = (layout.register index).size ∧
          Acceptable firstPulses (layout.register index) payload ∧
            first.write address payload = .accepted (first.carriedOut index payload) ∧
              second.write address payload = .accepted (second.carriedOut index payload) := by
  intro first second
  cases found : layout.indexOf? address with
  | none =>
      exact .inl ⟨_, first.write_unserved found payload, second.write_unserved found payload⟩
  | some index =>
      obtain rfl := layout.indexOf?_eq_some_iff.mp found
      by_cases sized : payload.length = (layout.register index).size
      · by_cases taken : Acceptable firstPulses (layout.register index) payload
        · have alsoTaken := (same index rfl).mpr taken
          exact .inr ⟨index, rfl, sized, taken, first.write_acceptable index sized taken,
            second.write_acceptable index sized alsoTaken⟩
        · have alsoRefused := mt (same index rfl).mp taken
          exact .inl ⟨_, first.write_unacceptable index sized taken,
            second.write_unacceptable index sized alsoRefused⟩
      · exact .inl ⟨_, first.write_missized index sized, second.write_missized index sized⟩

end Together

theorem pinBits_congr {γ : Type} [PinDriver γ] {first : β} {second : γ} {inputs : List Pin}
    (same : ∀ pin ∈ inputs, PinDriver.read second pin = PinDriver.read first pin) :
    pinBits second inputs = pinBits first inputs := by
  induction inputs with
  | nil => rfl
  | cons pin rest induction =>
      rw [List.forall_mem_cons] at same
      rw [pinBits, pinBits, same.1, induction same.2]

theorem sampled_congr {γ : Type} [PinDriver γ] {layout : Layout}
    {firstStore secondStore : Store layout.totalBytes} {firstPins : β} {secondPins : γ}
    {firstSignals secondSignals : Signals} {firstPulses secondPulses : Pulses}
    (index : Fin layout.size)
    (bytes : secondStore.view (layout.start index) (layout.register index).size =
      firstStore.view (layout.start index) (layout.register index).size)
    (levels : ∀ inputs, (layout.register index).behaviour = .pins inputs →
      ∀ pin ∈ inputs, PinDriver.read secondPins pin = PinDriver.read firstPins pin)
    (counts : ∀ counter resettable,
      (layout.register index).behaviour = .counter counter resettable →
        secondSignals.count counter = firstSignals.count counter)
    (latched : secondSignals.latched = firstSignals.latched) :
    sampled ⟨layout, secondStore, secondPins, secondSignals, secondPulses⟩ index =
      sampled ⟨layout, firstStore, firstPins, firstSignals, firstPulses⟩ index := by
  simp only [sampled, stored, bytes]
  cases behaviour : (layout.register index).behaviour with
  | pins inputs => simp only [pinBits_congr (levels inputs behaviour)]
  | latch window => simp only [Signals.readLatch, latched]
  | counter counter resettable => simp only [counts counter resettable behaviour]
  | constant | setting | drive | pulse => rfl

end Controller

end Instrument

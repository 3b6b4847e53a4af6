import Instrument.Proofs.RequestOutcomes

/-!
# What each operation leaves alone

A frame lists the parts of a controller that an operation keeps.  Reads keep all
but the bytes of their register; writes reach the pins, pulses and the one counter
that their register names; ticks reach the pins whose pulse ends; and taking the
events lowers the flags and does nothing else.
-/

namespace Instrument

namespace Layout

/-- A byte of the store in the place of the register at an address. -/
def Covers (layout : Layout) (address : UInt8) (position : Nat) : Prop :=
  ∃ index, layout.addressOf index = address ∧
    layout.start index ≤ position ∧ position < layout.stop index

/-- A pin that the register at an address drives. -/
def Names (layout : Layout) (address : UInt8) (pin : Pin) : Prop :=
  ∃ index, layout.addressOf index = address ∧
    pin ∈ (layout.register index).behaviour.lines.map (·.pin)

/-- A counter that the register at an address may reset. -/
def Resets (layout : Layout) (address : UInt8) (counter : Nat) : Prop :=
  ∃ index, layout.addressOf index = address ∧
    (layout.register index).behaviour = .counter counter true

end Layout

namespace Controller

/-- What a read keeps. -/
structure ReadFrame (address : UInt8) (before after : Controller SimulatedPins) :
    Prop where
  layout : after.layout = before.layout
  bytes : ∀ position, ¬ before.layout.Covers address position →
    after.store.bytes[position]? = before.store.bytes[position]?
  pins : after.pins = before.pins
  signals : after.signals = before.signals
  pulses : after.pulses = before.pulses

/-- What a write keeps. -/
structure WriteFrame (address : UInt8) (before after : Controller SimulatedPins) :
    Prop where
  layout : after.layout = before.layout
  bytes : ∀ position, ¬ before.layout.Covers address position →
    after.store.bytes[position]? = before.store.bytes[position]?
  pins : ∀ pin, ¬ before.layout.Names address pin →
    after.pins.pin pin = before.pins.pin pin
  roles : ∀ pin, (after.pins.pin pin).role = (before.pins.pin pin).role
  interrupts : after.pins.interrupts = before.pins.interrupts
  pulses : ∀ pin, ¬ before.layout.Names address pin →
    after.pulses.find? pin = before.pulses.find? pin
  counters : ∀ counter, ¬ before.layout.Resets address counter →
    after.signals.count counter = before.signals.count counter
  flags : after.signals.flags = before.signals.flags
  latched : after.signals.latched = before.signals.latched

/-- What a tick keeps. -/
structure TickFrame (elapsed : Nat) (before after : Controller SimulatedPins) :
    Prop where
  layout : after.layout = before.layout
  bytes : after.store.bytes = before.store.bytes
  pins : ∀ pin,
    (∀ pulse, before.pulses.find? pin = some pulse → elapsed < pulse.remaining) →
      after.pins.pin pin = before.pins.pin pin
  roles : ∀ pin, (after.pins.pin pin).role = (before.pins.pin pin).role
  interrupts : after.pins.interrupts = before.pins.interrupts
  signals : after.signals = before.signals

/-- What taking the events keeps; the flags are lowered. -/
structure EventsFrame (before after : Controller SimulatedPins) : Prop where
  layout : after.layout = before.layout
  bytes : after.store.bytes = before.store.bytes
  pins : after.pins = before.pins
  pulses : after.pulses = before.pulses
  counters : after.signals.counters = before.signals.counters
  latched : after.signals.latched = before.signals.latched
  flags : after.signals.flags = 0

variable {β : Type}

theorem getElem?_putStored_of_notCovered (controller : Controller β)
    {index : Fin controller.layout.size} {data : Bytes}
    (sized : data.length = (controller.layout.register index).size) {position : Nat}
    (outside : ¬ controller.layout.Covers (controller.layout.addressOf index)
      position) :
    (controller.putStored index data).store.bytes[position]? =
      controller.store.bytes[position]? := by
  apply controller.store.getElem?_overwrite_of_outside
  rw [sized]
  by_cases before : position < controller.layout.start index
  · exact .inl before
  · right
    apply Nat.le_of_not_lt
    intro inside
    exact outside ⟨index, rfl, Nat.le_of_not_lt before, inside⟩

namespace Takes

variable [PinDriver β] {register : Register} {payload : Bytes}
  {signals : Signals} {pulses : Pulses}

theorem find?_of_free {controller : Controller β} {pins : β}
    (takes : Takes controller register payload pins signals pulses) {pin : Pin}
    (free : pin ∉ register.behaviour.lines.map (·.pin)) :
    pulses.find? pin = controller.pulses.find? pin := by
  cases takes with
  | setting | counter => rfl
  | drive behaviour =>
      rw [behaviour] at free
      rw [Pulses.find?_cancelEach]
      exact if_neg free
  | pulse behaviour _ _ started =>
      rw [behaviour] at free
      rw [Pulses.find?_arm? started]
      exact if_neg (fun same => free (List.mem_singleton.mpr same))

theorem count_of_ne {controller : Controller β} {pins : β}
    (takes : Takes controller register payload pins signals pulses) {counter : Nat}
    (kept : register.behaviour ≠ .counter counter true) :
    signals.count counter = controller.signals.count counter := by
  cases takes with
  | setting | drive | pulse => rfl
  | @counter reset behaviour =>
      have other : counter ≠ reset := by
        intro same
        subst same
        exact kept behaviour
      rw [Signals.reset, Signals.count_setCounter]
      exact if_neg (fun both => other both.1)

theorem flags_eq {controller : Controller β} {pins : β}
    (takes : Takes controller register payload pins signals pulses) :
    signals.flags = controller.signals.flags := by
  cases takes <;> rfl

theorem latched_eq {controller : Controller β} {pins : β}
    (takes : Takes controller register payload pins signals pulses) :
    signals.latched = controller.signals.latched := by
  cases takes <;> rfl

variable {controller : Controller SimulatedPins} {pins : SimulatedPins}

theorem pin_of_free
    (takes : Takes controller register payload pins signals pulses) {pin : Pin}
    (free : pin ∉ register.behaviour.lines.map (·.pin)) :
    pins.pin pin = controller.pins.pin pin := by
  cases takes with
  | setting | counter => rfl
  | @drive rule lines behaviour =>
      rw [behaviour] at free
      apply SimulatedPins.pin_driveEach_of_notMem
      rw [pins_bitCommands]
      exact free
  | pulse behaviour =>
      rw [behaviour] at free
      rw [SimulatedPins.pin_drive]
      exact if_neg (fun same => free (List.mem_singleton.mpr same))

theorem role_pin (takes : Takes controller register payload pins signals pulses)
    (pin : Pin) : (pins.pin pin).role = (controller.pins.pin pin).role := by
  cases takes with
  | setting | counter => rfl
  | drive => exact SimulatedPins.role_pin_driveEach _ _ pin
  | pulse => exact SimulatedPins.role_pin_drive _ _ _ pin

theorem interrupts_eq
    (takes : Takes controller register payload pins signals pulses) :
    pins.interrupts = controller.pins.interrupts := by
  cases takes with
  | setting | counter => rfl
  | drive => exact SimulatedPins.interrupts_driveEach _ _
  | pulse => exact SimulatedPins.interrupts_drive _ _ _

end Takes

variable (controller : Controller SimulatedPins)

theorem read_frame (address : UInt8) :
    ReadFrame address controller (controller.read address).2 := by
  have ended := controller.read_ends address
  generalize controller.read address = outcome at ended ⊢
  cases ended with
  | invalidAddress => exact ⟨rfl, fun _ _ => rfl, rfl, rfl, rfl⟩
  | @sampled index place =>
      subst place
      refine ⟨rfl, ?_, rfl, rfl, rfl⟩
      intro position outside
      exact controller.getElem?_putStored_of_notCovered
        (controller.length_sampled index) outside

theorem WriteFrame.refl (address : UInt8) :
    WriteFrame address controller controller where
  layout := rfl
  bytes _ _ := rfl
  pins _ _ := rfl
  roles _ := rfl
  interrupts := rfl
  pulses _ _ := rfl
  counters _ _ := rfl
  flags := rfl
  latched := rfl

theorem write_frame (address : UInt8) (payload : Bytes) :
    WriteFrame address controller (controller.write address payload).2 := by
  have ended := controller.write_ends address payload
  generalize controller.write address payload = outcome at ended ⊢
  cases ended with
  | invalidAddress | sizeMismatch | rejected => exact .refl controller address
  | @taken index pins signals pulses place sized takes =>
      subst place
      constructor
      · rfl
      · intro position outside
        exact controller.getElem?_putStored_of_notCovered sized outside
      · intro pin unnamed
        exact takes.pin_of_free fun named => unnamed ⟨index, rfl, named⟩
      · exact takes.role_pin
      · exact takes.interrupts_eq
      · intro pin unnamed
        exact takes.find?_of_free fun named => unnamed ⟨index, rfl, named⟩
      · intro counter kept
        exact takes.count_of_ne fun behaviour => kept ⟨index, rfl, behaviour⟩
      · exact takes.flags_eq
      · exact takes.latched_eq

theorem tick_frame (elapsed : Nat) :
    TickFrame elapsed controller (controller.tick elapsed) := by
  constructor
  · rfl
  · rfl
  · intro pin running
    rw [pins_tick]
    apply SimulatedPins.pin_driveEach_of_notMem
    intro member
    rw [List.map_map] at member
    obtain ⟨line, ended, same⟩ := List.mem_map.mp member
    obtain ⟨pulse, found, _, reached⟩ := Pulses.mem_ended_iff.mp ended
    have same : line.pin = pin := same
    rw [same] at found
    exact Nat.not_le_of_lt (running pulse found) reached
  · intro pin
    rw [pins_tick, SimulatedPins.role_pin_driveEach]
  · rw [pins_tick, SimulatedPins.interrupts_driveEach]
  · rfl

theorem events_frame : EventsFrame controller controller.takeEvents.2 :=
  ⟨rfl, rfl, rfl, rfl, rfl, rfl, rfl⟩

/-- Each operation, whatever its answer, keeps all that its frame lists. -/
theorem operation_frames (address : UInt8) (payload : Bytes) (elapsed : Nat) :
    ReadFrame address controller (controller.read address).2 ∧
      WriteFrame address controller (controller.write address payload).2 ∧
      TickFrame elapsed controller (controller.tick elapsed) ∧
      EventsFrame controller controller.takeEvents.2 :=
  ⟨controller.read_frame address, controller.write_frame address payload,
    controller.tick_frame elapsed, controller.events_frame⟩

end Controller

end Instrument

import Instrument.Proofs.IndependentRequests

/-!
# Controllers over other pins

A controller learns of its pins only the levels that its reads sample, and acts on them
only by driving lines.  Over the pins of another driver it therefore gives the same
answers, keeps the same data and drives the same lines, as long as the sampled pins
read the same.
-/

namespace Instrument

/-- The pins that a read of a register samples. -/
def Behaviour.pinsSampled : Behaviour → List Pin
  | .pins inputs => inputs
  | .latch _ | .constant | .setting _ | .drive _ _ | .pulse _ _ | .counter _ _ => []

/-- A pin that a read of the register at an address samples. -/
def Layout.Samples (layout : Layout) (address : UInt8) (pin : Pin) : Prop :=
  ∃ index, layout.addressOf index = address ∧
    pin ∈ (layout.register index).behaviour.pinsSampled

namespace Controller

variable {β γ : Type}

/-- The same controller over other pins. -/
def withPins (controller : Controller β) (pins : γ) : Controller γ where
  layout := controller.layout
  store := controller.store
  pins := pins
  signals := controller.signals
  pulses := controller.pulses

variable [PinDriver β] [PinDriver γ]

/-- A controller and the same one over other pins have both moved on, and their pins by
the same commands. -/
def MovesWith (before after : Controller β) (pins : γ) (otherAfter : Controller γ) : Prop :=
  ∃ commands, after.pins = PinDriver.driveEach before.pins commands ∧
    otherAfter = after.withPins (PinDriver.driveEach pins commands)

variable {layout : Layout} (store : Store layout.totalBytes) (pins : β) (others : γ)
  (signals : Signals) (pulses : Pulses)

theorem MovesWith.refl :
    MovesWith ⟨layout, store, pins, signals, pulses⟩ ⟨layout, store, pins, signals, pulses⟩
      others ⟨layout, store, others, signals, pulses⟩ :=
  ⟨[], rfl, rfl⟩

theorem read_withPins {address : UInt8}
    (levels : ∀ pin, layout.Samples address pin →
      PinDriver.read others pin = PinDriver.read pins pin) :
    let first : Controller β := ⟨layout, store, pins, signals, pulses⟩
    let second : Controller γ := ⟨layout, store, others, signals, pulses⟩
    (second.read address).1 = (first.read address).1 ∧
      MovesWith first (first.read address).2 others (second.read address).2 := by
  intro first second
  rcases read_together store store pins others signals signals pulses pulses address with
    ⟨reason, refused, alsoRefused⟩ | ⟨index, place, served, alsoServed⟩
  · rw [refused, alsoRefused]
    exact ⟨rfl, .refl store pins others signals pulses⟩
  · have sample : second.sampled index = first.sampled index := by
      apply sampled_congr index rfl _ (fun _ _ _ => rfl) rfl
      intro inputs behaviour pin sampled
      exact levels pin ⟨index, place, by rw [behaviour]; exact sampled⟩
    rw [served, alsoServed, sample, refresh, refresh, sample]
    exact ⟨rfl, [], rfl, rfl⟩

theorem write_withPins (address : UInt8) (payload : Bytes) :
    let first : Controller β := ⟨layout, store, pins, signals, pulses⟩
    let second : Controller γ := ⟨layout, store, others, signals, pulses⟩
    (second.write address payload).1 = (first.write address payload).1 ∧
      MovesWith first (first.write address payload).2 others
        (second.write address payload).2 := by
  intro first second
  rcases write_together store store pins others signals signals pulses pulses address payload
      (fun _ _ => Iff.rfl) with
    ⟨reason, refused, alsoRefused⟩ | ⟨index, place, _, _, taken, alsoTaken⟩
  · rw [refused, alsoRefused]
    exact ⟨rfl, .refl store pins others signals pulses⟩
  · rw [taken, alsoTaken]
    exact ⟨rfl, (layout.register index).commands payload, rfl, rfl⟩

theorem tick_withPins (elapsed : Nat) :
    let first : Controller β := ⟨layout, store, pins, signals, pulses⟩
    let second : Controller γ := ⟨layout, store, others, signals, pulses⟩
    MovesWith first (first.tick elapsed) others (second.tick elapsed) := by
  intro first second
  refine ⟨_, first.pins_tick elapsed, ?_⟩
  rw [show PinDriver.driveEach others _ = (second.tick elapsed).pins from
    (second.pins_tick elapsed).symm]
  rfl

end Controller

end Instrument
